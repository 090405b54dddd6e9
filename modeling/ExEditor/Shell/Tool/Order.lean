import ExEditor.Shell.Tool.Options

/-! Putting lines in order, and finding repeated ones. Texts are compared byte by byte, which is the order
of their characters. -/
namespace ExEditor
namespace Shell

/-- How keys are compared. -/
structure KeyRule where
  numeric : Bool := false
  reverse : Bool := false
  ignoreCase : Bool := false
  skipBlanks : Bool := false
  onlyPrinted : Bool := false
  deriving DecidableEq, Repr

/-- A part of a line: from a character of a field up to one of another, where 0 is the last one. -/
structure SortKey where
  field : Nat
  char : Nat := 1
  lastField : Option Nat := none
  lastChar : Nat := 0
  rule : KeyRule := {}
  deriving DecidableEq, Repr

/-- Whether blanks between fields count as such. -/
def isFieldBlank (c : Char) : Bool := c = ' ' || c = '\t'

/-- A line cut in front of the blanks before each field. The first argument bounds the number of
fields. -/
def blankFields : Nat → Text → List Text
  | 0, _ => []
  | n + 1, t =>
    let blanks := t.takeWhile isFieldBlank
    let body := (t.drop blanks.length).takeWhile fun c => !isFieldBlank c
    let rest := t.drop (blanks.length + body.length)
    (blanks ++ body) :: if rest = [] then [] else blankFields n rest

/-- The fields of a line. -/
def lineFields (separator : Option Char) (t : Text) : List Text :=
  match separator with
  | some c => t.splitOn c
  | none => blankFields (t.length + 1) t

/-- Text of a line from a character of a field on, with the separators between fields. -/
def keyText (separator : Option Char) (k : SortKey) (line : Text) : Text :=
  let fields := lineFields separator line
  let joined (fs : List Text) : Text := Text.join separator.toList fs
  let trimmed (t : Text) : Text := if k.rule.skipBlanks then t.dropWhile isFieldBlank else t
  let starting := (fields.drop (k.field - 1)).headD []
  let skipped := (starting.length - (trimmed starting).length) + (k.char - 1)
  match k.lastField with
  | none => (joined (fields.drop (k.field - 1))).drop skipped
  | some last =>
    if last < k.field then []
    else
      let ending := (fields.drop (last - 1)).headD []
      let kept :=
        if k.lastChar = 0 then ending
        else ending.take ((ending.length - (trimmed ending).length) + k.lastChar)
      let between := (fields.drop (k.field - 1)).take (last - k.field)
      if last ≤ fields.length then (joined (between ++ [kept])).drop skipped
      else (joined (fields.drop (k.field - 1))).drop skipped

/-- A number at the front of a text: whether it is negative, its digits before the point, without zeros
in front, and those behind it, without zeros at the end. -/
def numberAt (t : Text) : Bool × Text × Text :=
  let t := t.dropWhile isFieldBlank
  let (negative, t) : Bool × Text := match t with
    | '-' :: t => (true, t)
    | t => (false, t)
  let whole := t.takeWhile Char.isDigit
  let part : Text := match t.drop whole.length with
    | '.' :: t => t.takeWhile Char.isDigit
    | _ => []
  let whole := whole.dropWhile (· = '0')
  let part := Text.dropEndWhile (· = '0') part
  (negative && (whole ≠ [] || part ≠ []), whole, part)

/-- Order of texts. -/
def compareTexts (a b : Text) : Ordering :=
  if a.before b then .lt else if b.before a then .gt else .eq

/-- Order of the numbers at the front of two texts. -/
def compareNumbers (a b : Text) : Ordering :=
  let (x, y) := (numberAt a, numberAt b)
  let sizes : Ordering :=
    if x.2.1.length ≠ y.2.1.length then compare x.2.1.length y.2.1.length
    else (compareTexts x.2.1 y.2.1).then (compareTexts x.2.2 y.2.2)
  match x.1, y.1 with
  | false, false => sizes
  | true, true => sizes.swap
  | true, false => .lt
  | false, true => .gt

/-- Order of two keys. -/
def KeyRule.order (r : KeyRule) (a b : Text) : Ordering :=
  let seen (t : Text) : Text :=
    let t := if r.skipBlanks then t.dropWhile isFieldBlank else t
    let t := if r.onlyPrinted then t.filter fun c => isFieldBlank c || c.isAlphanum else t
    if r.ignoreCase then t.map Char.toUpper else t
  let found := if r.numeric then compareNumbers a b else compareTexts (seen a) (seen b)
  if r.reverse then found.swap else found

/-- How lines are put in order. -/
structure SortRule where
  rule : KeyRule := {}
  separator : Option Char := none
  keys : List SortKey := []
  unique : Bool := false
  stable : Bool := false

/-- Order of two lines by their keys. -/
def SortRule.byKeys (r : SortRule) (a b : Text) : Ordering :=
  if r.keys = [] then r.rule.order a b
  else
    r.keys.foldl (fun found k =>
      found.then (k.rule.order (keyText r.separator k a) (keyText r.separator k b))) .eq

/-- Order of two lines: by their keys, and then as wholes. -/
def SortRule.order (r : SortRule) (a b : Text) : Ordering :=
  let found := r.byKeys a b
  if r.unique || r.stable then found
  else
    let whole := compareTexts a b
    found.then (if r.rule.reverse then whole.swap else whole)

/-- Leave out lines that are like the one before them. -/
def dropRepeated (like : Text → Text → Bool) : List Text → List Text
  | [] => []
  | [t] => [t]
  | t :: u :: rest => if like t u then dropRepeated like (t :: rest) else t :: dropRepeated like (u :: rest)
termination_by lines => lines.length

/-- Lines in order. -/
def SortRule.sorted (r : SortRule) (lines : List Text) : List Text :=
  let found := lines.mergeSort fun a b => r.order a b != .gt
  if r.unique then dropRepeated (fun a b => r.byKeys a b == .eq) found else found

/-- One end of a key as written: a field, a character of it, and letters. -/
def readKeyEnd (t : Text) : Option (Nat × Option Nat × Text) :=
  let field : Text := t.takeWhile Char.isDigit
  match t.drop field.length with
  | '.' :: rest =>
    let char : Text := rest.takeWhile Char.isDigit
    if field = [] || char = [] then none
    else some (Text.numeralValue field, some (Text.numeralValue char), rest.drop char.length)
  | rest => if field = [] then none else some (Text.numeralValue field, none, rest)

/-- A rule with what some letters say. -/
def KeyRule.withLetters (r : KeyRule) (letters : Text) : KeyRule :=
  letters.foldl (fun r c => match c with
    | 'n' => { r with numeric := true }
    | 'r' => { r with reverse := true }
    | 'f' => { r with ignoreCase := true }
    | 'b' => { r with skipBlanks := true }
    | 'd' => { r with onlyPrinted := true }
    | _ => r) r

/-- A key as written. One without letters follows the rule of the whole. -/
def readKey (rule : KeyRule) (t : Text) : Option SortKey := do
  let (first, last) := (Text.splitFirst? (· = ',') t).elim (t, none) fun (l, r) => (l, some r)
  let (field, char, letters) ← readKeyEnd first
  guard (field ≠ 0)
  match last with
  | none =>
    return { field, char := char.getD 1, rule := if letters = [] then rule else ({} : KeyRule).withLetters letters }
  | some last =>
    let (lastField, lastChar, more) ← readKeyEnd last
    let letters := letters ++ more
    return { field, char := char.getD 1, lastField := some lastField, lastChar := lastChar.getD 0
             rule := if letters = [] then rule else ({} : KeyRule).withLetters letters }

/-- Put lines in order. -/
def sort : Tool := fun words s =>
  let usage : Usage := { tool := "sort", flags := "nrfbdusczVgh", valued := "ktoS", misuse := 2, long :=
    [("reverse", 'r'), ("numeric-sort", 'n'), ("unique", 'u'), ("ignore-case", 'f'), ("stable", 's'),
     ("check", 'c'), ("key", 'k'), ("field-separator", 't'), ("output", 'o')] }
  usage.apply words s fun g =>
    let rule := ({} : KeyRule).withLetters
      ("rfbd".toList.filter g.has ++ if g.has 'n' || g.has 'g' || g.has 'h' then ['n'] else [])
    let names := if g.operands = [] then [['-']] else g.operands
    let (found, s) := State.sourcesOf
      (fun name fault => match fault with
        | .isADirectory => "sort: read failed: ".toList ++ quotedIfNeeded name ++ ": Is a directory".toList
        | fault => "sort: cannot read: ".toList ++ quotedIfNeeded name ++ ": ".toList ++ fault.cause) names (s.finish 0)
    if s.status ≠ 0 then s.finish 2
    else
      match (g.options.filter (·.1 = 'k')).mapM fun k => readKey rule k.2 with
      | none =>
        let bad := (g.options.filter (·.1 = 'k')).find? fun k => (readKey rule k.2).isNone
        (s.complain ("sort: invalid number at field start: invalid count at start of '".toList ++
          (bad.map (·.2)).getD [] ++ ['\''])).finish 2
      | some keys =>
        let r : SortRule := { rule, separator := (g.value? 't').bind List.head?, keys
                              unique := g.has 'u', stable := g.has 's' }
        let lines := found.flatMap fun (_, t) => bodiesOf t
        if g.has 'c' then
          match (lines.zip (lines.drop 1)).zipIdx.find? fun ((a, b), _) =>
              r.order a b == .gt || (r.unique && r.order a b == .eq) with
          | some ((_, b), i) =>
            (s.complain ("sort: ".toList ++ names.headD [] ++ ':' :: Text.ofNat (i + 2) ++
              ": disorder: ".toList ++ b)).finish 1
          | none => s.finish 0
        else
          let sorted := ofBodies (r.sorted lines)
          match g.value? 'o' with
          | none => s.emit sorted
          | some name =>
            match s.store name (.text sorted) with
            | .ok files => { s with files }
            | .error fault =>
              (s.complain ("sort: open failed: ".toList ++ quotedIfNeeded name ++ ": ".toList ++ fault.cause)).finish 2

/-- Runs of lines that are alike, each as its first line and the number of them. -/
def runs (like : Text → Text → Bool) : List Text → List (Text × Nat)
  | [] => []
  | t :: rest =>
    match runs like rest with
    | (u, n) :: found => if like t u then (t, n + 1) :: found else (t, 1) :: (u, n) :: found
    | [] => [(t, 1)]

/-- Leave out repeated lines. -/
def uniq : Tool := fun words s =>
  let usage : Usage := { tool := "uniq", flags := "cdui", valued := "fsw", long :=
    [("count", 'c'), ("repeated", 'd'), ("unique", 'u'), ("ignore-case", 'i')] }
  usage.apply words s fun g =>
    let number (letter : Char) : Option Nat := (g.value? letter).bind natOf?
    let seen (line : Text) : Text :=
      let line := ((blankFields (line.length + 1) line).drop ((number 'f').getD 0)).flatten
      let line := line.drop ((number 's').getD 0)
      let line := match number 'w' with
        | some n => line.take n
        | none => line
      if g.has 'i' then line.map Char.toLower else line
    let (found, s) := s.sources "uniq" (g.operands.take 1)
    let groups := runs (fun a b => seen a == seen b) (bodiesOf (found.flatMap (·.2)))
    let kept := groups.filter fun (_, n) => (!g.has 'd' || 1 < n) && (!g.has 'u' || n = 1)
    let shown := ofBodies (kept.map fun (line, n) =>
      if g.has 'c' then Text.padStart 7 (Text.ofNat n) ++ ' ' :: line else line)
    match g.operands with
    | _ :: target :: _ =>
      match s.store target (.text shown) with
      | .ok files => { s with files }
      | .error fault => (s.complain ("uniq: ".toList ++ quotedIfNeeded target ++ ": ".toList ++ fault.cause)).finish 1
    | _ => s.emit shown

end Shell
end ExEditor
