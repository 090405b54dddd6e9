import ExEditor.Shell.Tool.Options

/-! Tools that take texts apart into lines: showing, counting, choosing and turning them. -/
namespace ExEditor
namespace Shell

/-- Visible form of a character that is none, as `cat -v` shows it. -/
def visible (tabs : Bool) (c : Char) : Text :=
  if c = '\t' then if tabs then ['^', 'I'] else [c]
  else if c.toNat < 32 then ['^', Char.ofNat (c.toNat + 64)]
  else if c.toNat = 127 then ['^', '?']
  else if c.toNat < 127 then [c]
  else
    let low := c.toNat - 128
    'M' :: '-' :: (if low < 32 then ['^', Char.ofNat (low + 64)]
      else if low = 127 then ['^', '?'] else [Char.ofNat low])

/-- Leave out empty lines behind empty lines. -/
def squeeze : (afterEmpty : Bool) → List Text → List Text
  | _, [] => []
  | afterEmpty, line :: lines =>
    if line = ['\n'] then if afterEmpty then squeeze true lines else line :: squeeze true lines
    else line :: squeeze false lines

/-- Number lines from `n` on; with `filledOnly` those that are empty have no number. -/
def numberLines (filledOnly : Bool) (n : Nat) : List Text → List Text
  | [] => []
  | line :: lines =>
    if filledOnly && line = ['\n'] then line :: numberLines filledOnly n lines
    else (Text.padStart 6 (Text.ofNat n) ++ '\t' :: line) :: numberLines filledOnly (n + 1) lines

/-- Show texts one after the other. -/
def cat : Tool := fun words s =>
  let usage : Usage := { tool := "cat", flags := "nbsvETAetu", long := [("number", 'n'), ("show-all", 'A'),
    ("number-nonblank", 'b'), ("squeeze-blank", 's'), ("show-ends", 'E'), ("show-tabs", 'T')] }
  usage.apply words s fun g =>
    let (found, s) := s.sources "cat" g.operands
    let lines := linesOf (found.flatMap (·.2))
    let lines := if g.has 's' then squeeze false lines else lines
    let signs := g.has 'v' || g.has 'A' || g.has 'e' || g.has 't'
    let tabs := g.has 'T' || g.has 'A' || g.has 't'
    let ends := g.has 'E' || g.has 'A' || g.has 'e'
    let shown := lines.map fun line =>
      let body := (lineBody line).flatMap fun c =>
        if signs then visible tabs c else if tabs && c = '\t' then ['^', 'I'] else [c]
      body ++ if isWholeLine line then if ends then ['$', '\n'] else ['\n'] else []
    let numbered :=
      if g.has 'b' then numberLines true 1 shown
      else if g.has 'n' then numberLines false 1 shown else shown
    s.emit numbered.flatten

/-- The name of a text in a heading. -/
def headingName (name : Text) : Text := if name = ['-'] then "standard input" else name

/-- Show a part of each text, under headings if there are several. -/
def showParts (quiet loud : Bool) (part : Text → Text) (found : List (Text × Text)) : Text :=
  let headed := loud || (!quiet && 1 < found.length)
  Text.join (if headed then ['\n'] else [])
    (found.map fun (name, t) =>
      (if headed then "==> ".toList ++ headingName name ++ " <==\n".toList else []) ++ part t)

/-- Words with a number as an option of its own in the usual form. -/
def spellCount : List Text → List Text
  | ('-' :: d :: t) :: words =>
    if d.isDigit then
      let digits := (d :: t).takeWhile Char.isDigit
      match (d :: t).drop digits.length with
      | ['c'] => ('-' :: 'c' :: digits) :: words
      | _ => ('-' :: 'n' :: digits) :: words
    else ('-' :: d :: t) :: words
  | words => words

/-- The first of some pieces; with a hyphen before the number all but the last ones. -/
def firstOf? {α : Type} (count : Text) (pieces : List α) : Option (List α) :=
  match count with
  | '-' :: digits => (natOf? digits).map fun n => pieces.take (pieces.length - n)
  | '+' :: digits => (natOf? digits).map pieces.take
  | digits => (natOf? digits).map pieces.take

/-- The last of some pieces; with a plus sign those from the one with that number on. -/
def lastOf? {α : Type} (count : Text) (pieces : List α) : Option (List α) :=
  match count with
  | '+' :: digits => (natOf? digits).map fun n => pieces.drop (n - 1)
  | '-' :: digits => (natOf? digits).map fun n => pieces.drop (pieces.length - n)
  | digits => (natOf? digits).map fun n => pieces.drop (pieces.length - n)

/-- How a tool complains about a file that it cannot open. -/
def cannotOpen (tool name : Text) (fault : FileFault) : Text :=
  match fault with
  | .isADirectory => tool ++ ": error reading ".toList ++ quoted name ++ ": Is a directory".toList
  | fault => tool ++ ": cannot open ".toList ++ quoted name ++ " for reading: ".toList ++ fault.cause

/-- Show parts of texts that are counted in lines or in bytes. -/
def showCounted (tool : String) (lines : Text → List Text → Option (List Text))
    (bytes : Text → Text → Option Text) : Tool := fun words s =>
  let usage : Usage := { tool := tool.toList, flags := "qvf", valued := "nc", long :=
    [("lines", 'n'), ("bytes", 'c'), ("quiet", 'q'), ("verbose", 'v')] }
  usage.apply (spellCount words) s fun g =>
    let (found, s) :=
      State.sourcesOf (cannotOpen tool.toList) (if g.operands = [] then [['-']] else g.operands) (s.finish 0)
    let part (t : Text) : Option Text :=
      match g.value? 'c' with
      | some count => bytes count t
      | none => (lines ((g.value? 'n').getD ['1', '0']) (linesOf t)).map List.flatten
    match part [] with
    | some _ => s.emit (showParts (g.has 'q') (g.has 'v') (fun t => (part t).getD []) found)
    | none =>
      let (count, unit) : Text × String := match g.value? 'c' with
        | some count => (count, "bytes")
        | none => ((g.value? 'n').getD [], "lines")
      (s.complain (tool.toList ++ ": invalid number of ".toList ++ unit.toList ++ ": '".toList ++ count ++ ['\''])).finish 1

/-- Show the first lines of texts. -/
def head : Tool := showCounted "head" firstOf? firstOf?

/-- Show the last lines of texts. -/
def tail : Tool := fun words s =>
  let words : List Text := match words with
    | ('+' :: d :: t) :: rest => if d.isDigit then ['-', 'n'] :: ('+' :: d :: t) :: rest else words
    | words => words
  showCounted "tail" lastOf? lastOf? words s

/-- Show lines last first. -/
def tac : Tool := fun words s =>
  let (found, s) := State.sourcesOf
    (fun name fault => "tac: failed to open ".toList ++ quoted name ++ " for reading: ".toList ++ fault.cause)
    (if words = [] then [['-']] else words) (s.finish 0)
  s.emit (found.flatMap fun (_, t) => (linesOf t).reverse.flatten)

/-- Show each line backwards. -/
def rev : Tool := fun words s =>
  let (found, s) := State.sourcesOf
    (fun name fault => "rev: cannot open ".toList ++ name ++ ": ".toList ++ fault.cause)
    (if words = [] then [['-']] else words) (s.finish 0)
  s.emit (found.flatMap fun (_, t) => mapLines List.reverse t)

/-- Number the lines of a text in steps, all of them or those that are not empty. -/
def numberedBy (all : Bool) (width step : Nat) (between : Text) (n : Nat) : List Text → List Text
  | [] => []
  | line :: lines =>
    if all || lineBody line ≠ [] then
      (Text.padStart width (Text.ofNat n) ++ between ++ line) ::
        numberedBy all width step between (n + step) lines
    else
      (List.replicate (width + between.length) ' ' ++ line) :: numberedBy all width step between n lines

/-- Show lines with numbers. -/
def nl : Tool := fun words s =>
  ({ tool := "nl", valued := "bwsvi" } : Usage).apply words s fun g =>
    let (found, s) := s.sources "nl" g.operands
    let number (letter : Char) (default : Nat) : Nat := ((g.value? letter).bind natOf?).getD default
    let lines := found.flatMap fun (_, t) => linesOf t
    let whole := lines.map fun line => lineBody line ++ ['\n']
    if g.value? 'b' = some ['n'] then
      s.emit (whole.flatMap fun line => List.replicate (number 'w' 6 + 1) ' ' ++ line)
    else
      s.emit (numberedBy (g.value? 'b' == some ['a']) (number 'w' 6) (number 'i' 1)
        ((g.value? 's').getD ['\t']) (number 'v' 1) whole).flatten

/-- Number of words between white space. A word is counted when something visible is met in it. -/
def countWords (t : Text) : Nat :=
  (t.foldl (fun (n, inside) c =>
    if c = ' ' || ('\t' ≤ c && c ≤ '\r') then (n, false)
    else if inside || !isVisible c then (n, inside) else (n + 1, true))
    ((0 : Nat), false)).1

/-- The length of the longest line of a text as it is seen; a tab reaches to the next multiple of
eight. -/
def longestLine (t : Text) : Nat :=
  (t.foldl (fun (longest, column) c =>
    let column :=
      if c = '\n' || c = '\r' || c = '\x0c' then 0
      else if c = '\t' then column / 8 * 8 + 8
      else if ' ' ≤ c && c ≤ '~' then column + 1 else column
    (max longest column, column)) ((0 : Nat), (0 : Nat))).1

/-- Count the lines, words and bytes of texts. -/
def wc : Tool := fun words s =>
  let usage : Usage := { tool := "wc", flags := "lwcmL", long := [("lines", 'l'), ("words", 'w'),
    ("bytes", 'c'), ("chars", 'm'), ("max-line-length", 'L')] }
  usage.apply words s fun g =>
    let chosen := "lwmcL".toList.filter g.has
    let chosen := if chosen = [] then ['l', 'w', 'c'] else chosen
    let regular (name : Text) : Bool :=
      if name = ['-'] then
        match s.stream? 0 with
        | some (.file _ _) => true
        | _ => false
      else true
    let names := if g.operands = [] then [['-']] else g.operands
    let (found, s) := s.sources "wc" names
    let counts (t : Text) : List Nat := chosen.map fun
      | 'l' => t.count '\n'
      | 'w' => countWords t
      | 'L' => longestLine t
      | _ => t.length
    let sizes := found.map fun (_, t) => t.length
    let total := (Text.ofNat (sizes.foldl (· + ·) 0)).length
    let width :=
      if names.length = 1 && chosen.length = 1 then 1
      else if names.all regular then total else max 7 total
    let row (ns : List Nat) (name : Text) : Text :=
      Text.join [' '] (ns.map fun n => Text.padStart width (Text.ofNat n)) ++
        (if name = [] then [] else ' ' :: name) ++ ['\n']
    let rows := found.map fun (name, t) => row (counts t) (if g.operands = [] then [] else name)
    let sums := (found.map fun (_, t) => counts t).foldl (List.zipWith (· + ·)) (chosen.map fun _ => 0)
    s.emit (rows.flatten ++ if 1 < names.length then row sums "total" else [])

/-- Copy the input to the output and into files. -/
def tee : Tool := fun words s =>
  ({ tool := "tee", flags := "ai" } : Usage).apply words s fun g =>
    let (t, s) := s.takeInput
    let s := (s.finish 0).emit t
    g.operands.foldl (fun s name =>
      let old := if g.has 'a' then (s.textOf name).toOption.getD [] else []
      match s.store name (.text (old ++ t)) with
      | .ok files => { s with files }
      | .error fault => (s.complain ("tee: ".toList ++ quotedIfNeeded name ++ ": ".toList ++ fault.cause)).finish 1) s

/-- The rows that lines next to one another make. The first argument bounds their number. -/
def besides : Nat → (separators : Text) → List (List Text) → List Text
  | 0, _, _ => []
  | n + 1, separators, columns =>
    if columns.all (· = []) then []
    else
      let firsts := columns.map fun column => column.headD []
      let rec put (i : Nat) : List Text → Text
        | [] => []
        | [t] => t
        | t :: rest => t ++ (separators[i % separators.length]?).toList ++ put (i + 1) rest
      put 0 firsts :: besides n separators (columns.map (·.drop 1))

/-- Put the lines of texts next to one another, or all lines of each into one. -/
def paste : Tool := fun words s =>
  ({ tool := "paste", flags := "s", valued := "d" } : Usage).apply words s fun g =>
    let (found, s) := s.sources "paste" g.operands
    let separators := (g.value? 'd').getD ['\t']
    let columns := found.map fun (_, t) => bodiesOf t
    if g.has 's' then
      s.emit (ofBodies (columns.flatMap fun lines => besides 1 separators (lines.map fun line => [line])))
    else
      s.emit (ofBodies (besides (columns.foldl (fun n lines => n + lines.length) 1) separators columns))

/-- The column behind a character that stands in a column. -/
def columnAfter (inBytes : Bool) (column : Nat) (c : Char) : Nat :=
  if inBytes then column + 1
  else if c = '\t' then column / 8 * 8 + 8
  else if c = '\x08' then column - 1
  else if c = '\r' then 0
  else column + 1

/-- A line cut where it gets too wide, or behind the last blank before that place. `held` is what has
been read since the last cut, latest first. The first argument bounds the cuts and characters. -/
def foldLine (inBytes atBlanks : Bool) (width : Nat) : Nat → (held : Text) → (column : Nat) → Text → Text
  | 0, held, _, t => held.reverse ++ t
  | _ + 1, held, _, [] => held.reverse
  | n + 1, held, column, c :: t =>
    let after := columnAfter inBytes column c
    if after ≤ width || held = [] then foldLine inBytes atBlanks width n (c :: held) after t
    else
      match if atBlanks then held.dropWhile fun d => !(d = ' ' || d = '\t') else [] with
      | [] => held.reverse ++ '\n' :: foldLine inBytes atBlanks width n [] 0 (c :: t)
      | front =>
        let kept := held.take (held.length - front.length)
        front.reverse ++ '\n' ::
          foldLine inBytes atBlanks width n kept (kept.reverse.foldl (columnAfter inBytes) 0) (c :: t)

/-- Cut long lines. -/
def fold : Tool := fun words s =>
  ({ tool := "fold", flags := "bs", valued := "w" } : Usage).apply words s fun g =>
    let (found, s) := s.sources "fold" g.operands
    let width := max 1 (((g.value? 'w').bind natOf?).getD 80)
    s.emit (found.flatMap fun (_, t) =>
      mapLines (fun line => foldLine (g.has 'b') (g.has 's') width (2 * line.length) [] 0 line) t)

/-- A line with blanks up to the next multiple of a width in place of each tab. -/
def expandTabs (width column : Nat) : Text → Text
  | [] => []
  | c :: t =>
    if c = '\t' then
      let blanks := width - column % width
      List.replicate blanks ' ' ++ expandTabs width (column + blanks) t
    else c :: expandTabs width (column + 1) t

/-- Replace tabs by blanks. -/
def expand : Tool := fun words s =>
  ({ tool := "expand", flags := "i", valued := "t" } : Usage).apply words s fun g =>
    let (found, s) := s.sources "expand" g.operands
    let width := max 1 (((g.value? 't').bind natOf?).getD 8)
    s.emit (mapLines (expandTabs width 0) (found.flatMap (·.2)))

/-- A line with tabs in place of the blanks that reach to a multiple of a width. `held` counts blanks that
have been met last. With `all` unset only those at the front are replaced. -/
def unexpandFrom (all : Bool) (width column held : Nat) : Text → Text
  | [] => List.replicate held ' '
  | c :: t =>
    if c = ' ' then
      if (column + 1) % width = 0 then
        (if held = 0 && t.head? != some ' ' then [' '] else ['\t']) ++ unexpandFrom all width (column + 1) 0 t
      else unexpandFrom all width (column + 1) (held + 1) t
    else if c = '\t' then '\t' :: unexpandFrom all width ((column / width + 1) * width) 0 t
    else
      List.replicate held ' ' ++ c :: if all then unexpandFrom all width (column + 1) 0 t else t

/-- Replace blanks by tabs. -/
def unexpand : Tool := fun words s =>
  ({ tool := "unexpand", flags := "a", valued := "t" } : Usage).apply words s fun g =>
    let (found, s) := s.sources "unexpand" g.operands
    let width := max 1 (((g.value? 't').bind natOf?).getD 8)
    s.emit (mapLines (unexpandFrom (g.has 'a' || g.has 't') width 0 0) (found.flatMap (·.2)))

end Shell
end ExEditor
