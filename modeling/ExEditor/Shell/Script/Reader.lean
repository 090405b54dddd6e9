import ExEditor.Shell.Expression.Reader
import ExEditor.Shell.Script.Program

/-! Except Fault (scripts × Text) that edit lines. -/
namespace ExEditor
namespace Shell
namespace Script

/-- What is wrong with a script, and how much of it is left behind that place; none if the place is not
known. -/
structure Fault where
  message : Text
  left : Option Nat

/-- A complaint about the text in front of `rest`. -/
def refuse {α : Type} (message : Text) (rest : Text) : Except Fault α :=
  .error ⟨message, some rest.length⟩

/-- Skip blanks. -/
def skip (t : Text) : Text := t.dropWhile fun c => c = ' ' || c = '\t'

/-- Skip blanks, line ends and semicolons. -/
def skipEnds (t : Text) : Text := t.dropWhile fun c => c = ' ' || c = '\t' || c = '\n' || c = ';'

/-- A character that stands for itself in an expression where a quoted delimiter stood. -/
def plainly (form : ExpressionForm) (c : Char) : Text :=
  if ".*[]^$".toList.contains c || (form.extended && "+?|()\x7b\x7d".toList.contains c) then ['\\', c] else [c]

/-- The text of an expression up to a delimiter that is neither quoted nor in brackets, and what follows
it. The first argument bounds the characters, and `inSet` counts those since the set began. -/
def takeExpression (form : ExpressionForm) (delimiter : Char) : Nat → (inSet : Option Nat) → Text →
    Option (Text × Text)
  | 0, _, _ => none
  | n + 1, inSet, t =>
    let keep (k : Nat) (inSet : Option Nat) : Option (Text × Text) :=
      (takeExpression form delimiter n inSet (t.drop k)).map fun (l, r) => (t.take k ++ l, r)
    match t with
    | [] | ['\\'] | '\n' :: _ => none
    | '\\' :: c :: rest =>
      if inSet.isSome then keep 1 (inSet.map (· + 1))
      else if c = delimiter then
        (takeExpression form delimiter n none rest).map fun (l, r) => (plainly form c ++ l, r)
      else keep 2 none
    | '[' :: ':' :: rest =>
      match inSet with
      | none => keep 1 (some 0)
      | some k =>
        let name := rest.takeWhile fun c => c.isAlpha
        if ":]".toList.isPrefixOf (rest.drop name.length) then keep (name.length + 4) (some (k + 1)) else keep 1 (some (k + 1))
    | c :: rest =>
      match inSet with
      | none => if c = delimiter then some ([], rest) else keep 1 (if c = '[' then some 0 else none)
      | some k =>
        if c = ']' && 0 < k then keep 1 none
        else if c = '^' && k = 0 then
          if rest.head? = some ']' then keep 2 (some 1) else keep 1 (some 1)
        else keep 1 (some (k + 1))

/-- Text up to a delimiter that is not quoted, and what follows it. A quoted delimiter stands for
itself. -/
def takeUntil (delimiter : Char) : Text → Option (Text × Text)
  | [] => none
  | ['\\'] => none
  | '\\' :: c :: t =>
    (takeUntil delimiter t).map fun (l, r) =>
      (if c = delimiter && c ≠ '&' then c :: l else '\\' :: c :: l, r)
  | c :: t =>
    if c = delimiter then some ([], t)
    else if c = '\n' then none
    else (takeUntil delimiter t).map fun (l, r) => (c :: l, r)

/-- How a script is to be read. -/
structure Dialect where
  extended : Bool := false

/-- The form of the expressions. -/
def Dialect.form (d : Dialect) : ExpressionForm :=
  { extended := d.extended, strict := d.extended, hasControls := true }

/-- What an expression of the script looks for; nothing of its own if it is empty. `rest` is what is left
of the script. -/
def Dialect.finder (d : Dialect) (ignoreCase byLine : Bool) (t rest : Text) : Except Fault (Option Finder) :=
  if t = [] then .ok none
  else
    match Expression.read d.form t with
    | .ok expression => .ok (some { expression, ignoreCase, byLine })
    | .error fault => refuse fault.message rest

/-- The letters behind an expression in an address: whether case is ignored, and whether lines count. -/
def addressFlags : Text → (Bool × Bool) × Text
  | 'I' :: t => let ((_, byLine), t) := addressFlags t; ((true, byLine), t)
  | 'M' :: t => let ((ignoreCase, _), t) := addressFlags t; ((ignoreCase, true), t)
  | t => ((false, false), t)

/-- The address at the front of a text, if there is one. -/
def Dialect.place? (d : Dialect) (t : Text) : Except Fault (Option Place × Text) := do
  let pattern (delimiter : Char) (t : Text) : Except Fault (Option Place × Text) := do
    match takeExpression d.form delimiter (t.length + 1) none t with
    | none => refuse "unterminated address regex" []
    | some (p, rest) =>
      let ((ignoreCase, byLine), rest) := addressFlags rest
      return (some (.matching (← d.finder ignoreCase byLine p rest)), rest)
  let number (t : Text) : Nat × Text := (Text.numeralValue (t.takeWhile Char.isDigit), t.dropWhile Char.isDigit)
  match t with
  | '$' :: t => return (some .last, t)
  | '/' :: t => pattern '/' t
  | '\\' :: c :: t => pattern c t
  | c :: t =>
    if c.isDigit then
      let (n, rest) := number (c :: t)
      match skip rest with
      | '~' :: rest =>
        let (step, rest) := number (skip rest)
        return (some (.every n step), rest)
      | _ => return (some (.line n), rest)
    else return (none, c :: t)
  | [] => return (none, [])

/-- The second address of a range. -/
def Dialect.second? (d : Dialect) (t : Text) : Except Fault (Option Place × Text) :=
  let number (t : Text) : Nat × Text := (Text.numeralValue (t.takeWhile Char.isDigit), t.dropWhile Char.isDigit)
  match t with
  | '+' :: t => let (n, t) := number t; .ok (some (.behind n), t)
  | '~' :: t => let (n, t) := number t; .ok (some (.multiple n), t)
  | t => d.place? t

/-- The text of a step that puts text in: up to the end of the line, without the backslashes that quote
in it. -/
def takeLine : Nat → Text → Text × Text
  | 0, t => ([], t)
  | n + 1, t =>
    match t with
    | [] => ([], [])
    | '\n' :: t => ([], t)
    | ['\\'] => ([], [])
    | '\\' :: c :: t =>
      match Expression.controlOf? c, Expression.takeCode (c :: t) with
      | some control, _ => let (l, r) := takeLine n t; (control :: l, r)
      | none, some (code, t) => let (l, r) := takeLine n t; (code :: l, r)
      | none, none => let (l, r) := takeLine n t; (c :: l, r)
    | c :: t => let (l, r) := takeLine n t; (c :: l, r)

/-- The text that follows the letter of such a step; none if nothing follows. -/
def takeText (t : Text) : Except Fault (Text × Text) :=
  let line (t : Text) : Except Fault (Text × Text) := let (l, r) := takeLine (t.length + 1) t; .ok (l ++ ['\n'], r)
  match skip t with
  | [] => refuse "expected \\ after `a', `c' or `i'" []
  | ['\\'] => .ok ([], [])
  | '\\' :: '\n' :: t => line t
  | '\\' :: c :: t =>
    if c = ' ' || c = '\t' then
      match skip (c :: t) with
      | '\n' :: t => line t
      | _ => line (c :: t)
    else if c = '\\' then line (c :: t)
    else let (l, r) := takeLine (t.length + 1) t; .ok (c :: l ++ ['\n'], r)
  | t => line t

/-- Check that a step ends here. -/
def endOf (t : Text) : Except Fault Text :=
  match skip t with
  | [] => .ok []
  | c :: t =>
    if c = ';' || c = '\n' then .ok t
    else if c = '\x7d' || c = '#' then .ok (c :: t)
    else refuse "extra characters after command" t

/-- The name of a file up to the end of the line. -/
def takePath (t : Text) : Except Fault (Text × Text) :=
  let t := skip t
  match t.takeWhile (· ≠ '\n') with
  | [] => refuse "missing filename in r/R/w/W commands" t
  | path => .ok (path, t.drop path.length)

/-- The flags of a substitution, as far as they have been read. -/
structure SubstituteFlags where
  all : Bool := false
  shows : Bool := false
  ignoreCase : Bool := false
  byLine : Bool := false
  nth : Option Nat := none
  target : Option Text := none

/-- Read flags, and what ends them. The first argument bounds their number. -/
def readFlags : Nat → SubstituteFlags → Text → Except Fault (SubstituteFlags × Text)
  | 0, f, t => .ok (f, t)
  | n + 1, f, t =>
    match t with
    | [] => .ok (f, [])
    | c :: t =>
      match c with
      | 'g' => if f.all then refuse "multiple `g' options to `s' command" t else readFlags n { f with all := true } t
      | 'p' => if f.shows then refuse "multiple `p' options to `s' command" t else readFlags n { f with shows := true } t
      | 'i' | 'I' => readFlags n { f with ignoreCase := true } t
      | 'm' | 'M' => readFlags n { f with byLine := true } t
      | 'w' => do
        let (path, t) ← takePath t
        return ({ f with target := some path }, t)
      | ' ' | '\t' | '\r' => readFlags n f t
      | '\n' | ';' => .ok (f, t)
      | '\x7d' | '#' => .ok (f, c :: t)
      | c =>
        if c.isDigit then
          let digits := (c :: t).takeWhile Char.isDigit
          let rest := (c :: t).drop digits.length
          if f.nth.isSome then refuse "multiple number options to `s' command" rest
          else if Text.numeralValue digits = 0 then refuse "number option to `s' command may not be zero" rest
          else readFlags n { f with nth := some (Text.numeralValue digits) } rest
        else refuse "unknown option to `s'" t

/-- A text without the backslashes that make signs in it. -/
def withoutQuotes : Text → Text
  | '\\' :: '\\' :: t => '\\' :: withoutQuotes t
  | '\\' :: c :: t =>
    match Expression.controlOf? c with
    | some control => control :: withoutQuotes t
    | none => '\\' :: c :: withoutQuotes t
  | c :: t => c :: withoutQuotes t
  | [] => []

/-- The last group that a replacement asks for. -/
def lastGroup : Text → Nat
  | '\\' :: c :: t => max (if c.isDigit then c.toNat - 48 else 0) (lastGroup t)
  | _ :: t => lastGroup t
  | [] => 0

/-- What follows the place where a part of a step breaks off: the end of its line, or of the text. -/
def brokenOff : Text → Text
  | [] => []
  | '\n' :: t => '\n' :: t
  | '\\' :: _ :: t => brokenOff t
  | _ :: t => brokenOff t

/-- A substitution behind its letter. -/
def Dialect.substitution (d : Dialect) (t : Text) : Except Fault (Action × Text) := do
  let unended {α : Type} : Except Fault α := refuse "unterminated `s' command" (brokenOff t)
  match t with
  | [] => unended
  | delimiter :: t =>
    match takeExpression d.form delimiter (t.length + 1) none t with
    | none => unended
    | some (p, t) =>
      match takeUntil delimiter t with
      | none => unended
      | some (replacement, t) =>
        let (f, rest) ← readFlags (t.length + 1) {} t
        let finder ← d.finder f.ignoreCase f.byLine p rest
        let wanted := lastGroup replacement
        if finder.any fun m => m.expression.groupCount < wanted then
          refuse ("invalid reference \\".toList ++ Text.ofNat wanted ++ " on `s' command's RHS".toList) rest
        else
          return (.substitute { finder, replacement, all := f.all, shows := f.shows, nth := f.nth.getD 1,
                                target := f.target }, rest)

/-- A translation behind its letter. -/
def translation (t : Text) : Except Fault (Action × Text) := do
  let unended {α : Type} : Except Fault α := refuse "unterminated `y' command" (brokenOff t)
  match t with
  | [] => unended
  | delimiter :: t =>
    match takeUntil delimiter t with
    | none => unended
    | some (a, t) =>
      match takeUntil delimiter t with
      | none => unended
      | some (b, t) =>
        let (a, b) := (withoutQuotes a, withoutQuotes b)
        if a.length = b.length then return (.translate (a.zip b), ← endOf t)
        else refuse "strings for `y' command are different lengths" t

/-- The name of a label, which ends at white space, a semicolon or, where one is named, a brace. -/
def takeLabel (closes : Bool) (t : Text) : Text × Text :=
  let t := skip t
  let name := t.takeWhile fun c => !(" \t\n;".toList.contains c || (closes && c = '\x7d'))
  (name, t.drop name.length)

/-- A number behind a letter. -/
def takeNumber (t : Text) : Option Nat × Text :=
  let t := skip t
  match t.takeWhile Char.isDigit with
  | [] => (none, t)
  | digits => (some (Text.numeralValue digits), t.drop digits.length)

/-- An action with `count` addresses in front of it. -/
def Dialect.action (d : Dialect) (count : Nat) : Text → Except Fault (Action × Text)
  | [] => refuse "missing command" []
  | c :: t =>
    let simple (a : Action) (t : Text) : Except Fault (Action × Text) := (endOf t).map (a, ·)
    let ofText (f : Text → Action) : Except Fault (Action × Text) := (takeText t).map fun (text, t) => (f text, t)
    let ofPath (f : Text → Action) : Except Fault (Action × Text) := (takePath t).map fun (path, t) => (f path, t)
    let jump (ifReplaced : Option Bool) : Except Fault (Action × Text) :=
      let (name, t) := takeLabel true t
      .ok (.jump ifReplaced name, t)
    let quit (shows : Bool) : Except Fault (Action × Text) :=
      if count = 2 then refuse "command only uses one address" t
      else
        let (status, t) := takeNumber t
        simple (.quit shows (status.getD 0)) t
    match c with
    | 's' => d.substitution t
    | 'y' => translation t
    | 'a' => ofText .after
    | 'i' => ofText .before
    | 'c' => ofText .change
    | 'r' => ofPath .insertFile
    | 'w' => ofPath (.writeTo · false)
    | 'W' => ofPath (.writeTo · true)
    | ':' =>
      if count ≠ 0 then refuse ": doesn't want any addresses" t
      else
        match takeLabel false t with
        | ([], t) => refuse "\":\" lacks a label" t
        | (name, t) => .ok (.label name, t)
    | 'b' => jump none
    | 't' => jump (some true)
    | 'T' => jump (some false)
    | 'q' => quit true
    | 'Q' => quit false
    | 'l' => let (width, t) := takeNumber t; simple (.showPlainly width) t
    | 'd' => simple .delete t
    | 'D' => simple .deleteFirst t
    | 'p' => simple .shows t
    | 'P' => simple .showFirst t
    | '=' => simple .number t
    | 'n' => simple .next t
    | 'N' => simple .append t
    | 'h' => simple (.hold false) t
    | 'H' => simple (.hold true) t
    | 'g' => simple (.recall false) t
    | 'G' => simple (.recall true) t
    | 'x' => simple .exchange t
    | 'z' => simple .empty t
    | c => refuse ("unknown command: `".toList ++ [c, '\'']) t

/-- The steps of a script, of which the first has the number `at'`, up to a closing brace where one is
due. The first argument bounds their number. -/
def Dialect.steps (d : Dialect) : Nat → (inBraces : Bool) → (at' : Nat) → Text → Except Fault (List Step × Text)
  | 0, _, _, t => .ok ([], t)
  | n + 1, inBraces, at', t => do
    match skipEnds t with
    | [] => if inBraces then throw ⟨"unmatched `\x7b'", none⟩ else return ([], [])
    | '#' :: t => steps d n inBraces at' (t.dropWhile (· ≠ '\n'))
    | '\x7d' :: t => if inBraces then return ([], ← endOf t) else refuse "unexpected `\x7d'" t
    | t =>
      let (first, t) ← d.place? t
      let (second, t) : Option Place × Text ← match if first.isSome then skip t else [] with
        | ',' :: rest => do
          match ← d.second? (skip rest) with
          | (none, rest) => refuse "unexpected `,'" (rest.drop 1)
          | found => pure found
        | _ => pure (none, t)
      let isFind : Option Place → Bool := fun
        | some (.matching _) => true
        | _ => false
      if first = some (.line 0) && !isFind second then
        let _ ← (refuse "invalid usage of line address 0" ((skip t).drop 1) : Except Fault Unit)
      let (negated, t) : Bool × Text := match skip t with
        | '!' :: rest => (true, skip rest)
        | rest => (false, rest)
      let count := if second.isSome then 2 else if first.isSome then 1 else 0
      match t with
      | '!' :: t => refuse "multiple `!'s" t
      | '#' :: t => refuse "comments don't accept any addresses" t
      | '\x7d' :: t => refuse (if inBraces then "\x7d doesn't want any addresses" else "unexpected `\x7d'") t
      | '\x7b' :: t =>
        let (inner, t) ← steps d n true (at' + 1) t
        let (rest, t) ← steps d n inBraces (at' + 1 + inner.length) t
        let head : Step := { first, second, negated := !negated, action := .skipTo (at' + 1 + inner.length) }
        return (head :: inner ++ rest, t)
      | t =>
        let (action, t) ← d.action count t
        let (rest, t) ← steps d n inBraces (at' + 1) t
        return ({ first, second, negated, action } :: rest, t)

/-- The steps of a script. -/
def read (d : Dialect) (t : Text) : Except Fault (List Step) := (d.steps (t.length + 1) false 0 t).map (·.1)

end Script
end Shell
end ExEditor
