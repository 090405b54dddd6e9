import ExEditor.Shell.Expression.Basic
import ExEditor.Shell.Glob

/-! Reading regular expressions in the basic and the extended form. The first argument of each function
bounds the characters that are left. -/
namespace ExEditor
namespace Shell

/-- What is wrong with a regular expression. -/
inductive ExpressionFault
  | emptySet
  | unclosedSet
  | unclosedGroup
  | unopenedGroup
  | unclosedBraces
  | badBraces
  | nothingToRepeat
  | badRange
  | badClass
  | bareClass
  | badReference
  | trailingBackslash
  | tooBig
  deriving DecidableEq, Repr

/-- The fault as shown. -/
def ExpressionFault.message : ExpressionFault → Text
  | emptySet => "Invalid regular expression"
  | unclosedSet => "Unmatched [, [^, [:, [., or [="
  | unclosedGroup => "Unmatched ( or \\("
  | unopenedGroup => "Unmatched ) or \\)"
  | unclosedBraces => "Unmatched \\\x7b"
  | badBraces => "Invalid content of \\\x7b\\\x7d"
  | nothingToRepeat => "Invalid preceding regular expression"
  | badRange => "Invalid range end"
  | badClass => "Invalid character class name"
  | bareClass => "character class syntax is [[:space:]], not [:space:]"
  | badReference => "Invalid back reference"
  | trailingBackslash => "Trailing backslash"
  | tooBig => "Regular expression too big"

/-- How regular expressions are written. -/
structure ExpressionForm where
  /-- Whether groups, braces, bars, `+` and `?` are signs without a backslash. -/
  extended : Bool := false
  /-- Whether signs that stand where they mean nothing are refused. -/
  strict : Bool := false
  /-- Whether a backslash and a letter may stand for a control character. -/
  hasControls : Bool := false
  /-- Whether a backslash quotes inside brackets. -/
  quotesInSets : Bool := false
  deriving DecidableEq, Repr

namespace Expression

/-- The control character that a letter stands for behind a backslash. -/
def controlOf? (c : Char) : Option Char :=
  [('n', '\n'), ('t', '\t'), ('r', '\r'), ('a', '\x07'), ('f', '\x0c'), ('v', '\x0b')].lookup c

/-- The character whose number is written behind a letter that names its base, and what follows. -/
def takeCode (t : Text) : Option (Char × Text) :=
  let code (base size : Nat) (t : Text) : Option (Char × Text) :=
    let isDigit (c : Char) : Bool := (digitValue? c).any (· < base)
    match (t.take size).takeWhile isDigit with
    | [] => none
    | digits =>
      let n := digits.foldl (fun n c => base * n + (digitValue? c).getD 0) 0
      some (Char.ofNat (n % 256), t.drop digits.length)
  match t with
  | 'x' :: t => code 16 2 t
  | 'o' :: t => code 8 3 t
  | 'd' :: t => code 10 3 t
  | _ => none
where
  /-- The value of a digit of any base up to sixteen. -/
  digitValue? (c : Char) : Option Nat :=
    if c.isDigit then some (c.toNat - 48)
    else if 'a' ≤ c && c ≤ 'f' then some (c.toNat - 87)
    else if 'A' ≤ c && c ≤ 'F' then some (c.toNat - 55)
    else none

/-- Ranges of the characters of words. -/
def wordRanges : List (Char × Char) := [('0', '9'), ('A', 'Z'), ('_', '_'), ('a', 'z')]

/-- Names of the classes between colons. -/
def classNames : List Text :=
  ["alpha", "digit", "alnum", "upper", "lower", "space", "blank", "punct", "xdigit", "cntrl", "print",
   "graph"].map String.toList

/-- The character at the front of what is left of a set, and what follows it. -/
def takeInSet (form : ExpressionForm) : Text → Option (Char × Text)
  | [] => none
  | '[' :: '.' :: c :: '.' :: ']' :: t => some (c, t)
  | '[' :: '=' :: c :: '=' :: ']' :: t => some (c, t)
  | '\\' :: c :: t =>
    match if form.hasControls then controlOf? c else none with
    | some control => some (control, t)
    | none => if form.quotesInSets then some (c, t) else some ('\\', c :: t)
  | c :: t => some (c, t)

/-- The ranges of a set, up to its closing bracket, and what follows it. A closing bracket may stand first
in it. -/
def readRanges (form : ExpressionForm) : Nat → (first : Bool) → Text →
    Except ExpressionFault (List (Char × Char) × Text)
  | 0, _, _ => .error .unclosedSet
  | n + 1, first, t => do
    match t with
    | '[' :: ':' :: rest =>
      let name := rest.takeWhile (· ≠ ':')
      match rest.drop name.length with
      | ':' :: ']' :: rest =>
        if !classNames.contains name then throw .badClass
        let (ranges, rest) ← readRanges form n false rest
        return (namedClass name ++ ranges, rest)
      | _ => throw .unclosedSet
    | t =>
      if !first && t.head? = some ']' then return ([], t.drop 1)
      match takeInSet form t with
      | none => throw .unclosedSet
      | some (a, '-' :: rest) =>
        if rest.head? = some ']' then
          let (ranges, rest) ← readRanges form n false ('-' :: rest)
          return ((a, a) :: ranges, rest)
        match takeInSet form rest with
        | none => throw .unclosedSet
        | some (b, rest) =>
          if b < a then throw .badRange
          let (ranges, rest) ← readRanges form n false rest
          return ((a, b) :: ranges, rest)
      | some (a, rest) =>
        let (ranges, rest) ← readRanges form n false rest
        return ((a, a) :: ranges, rest)

/-- A set behind its opening bracket, and what follows it. -/
def readSet (form : ExpressionForm) (t : Text) : Except ExpressionFault (Expression × Text) := do
  let (negated, body) : Bool × Text := match t with
    | '^' :: body => (true, body)
    | body => (false, body)
  if t = [] then throw .emptySet
  let (ranges, rest) ← readRanges form (body.length + 1) true body
  let inside := t.take (t.length - rest.length)
  if inside.head? = some ':' && ":]".toList.isSuffixOf inside && 3 < inside.length && !form.quotesInSets then
    throw .bareClass
  return (.one negated ranges, rest)

/-- What an escape stands for: the character behind a backslash, if it makes a sign. -/
def escape? (form : ExpressionForm) (c : Char) : Option Expression :=
  match c with
  | 'w' => some (.one false wordRanges)
  | 'W' => some (.one true wordRanges)
  | 's' => some (.one false (namedClass "space".toList))
  | 'S' => some (.one true (namedClass "space".toList))
  | 'b' => some (.border .wordEdge)
  | 'B' => some (.border .noWordEdge)
  | '<' => some (.border .wordStart)
  | '>' => some (.border .wordEnd)
  | '`' => some (.border .textStart)
  | '\'' => some (.border .textEnd)
  | c => ((if form.hasControls then controlOf? c else none)).map char

/-- How often something is repeated. -/
structure Times where
  least : Nat
  most : Option Nat

/-- A number of repetitions behind an opening brace, and what follows the closing one. -/
def readTimes (form : ExpressionForm) (t : Text) : Except ExpressionFault (Times × Text) := do
  let first : Text := t.takeWhile Char.isDigit
  let rest := t.drop first.length
  let (times, rest) : Times × Text ← match rest with
    | ',' :: rest =>
      let last : Text := rest.takeWhile Char.isDigit
      pure (⟨first.numeralValue, if last = [] then none else some last.numeralValue⟩, rest.drop last.length)
    | rest =>
      if first = [] then throw (if rest = [] then ExpressionFault.unclosedBraces else .badBraces)
      else pure (⟨first.numeralValue, some first.numeralValue⟩, rest)
  let closing : Text := if form.extended then ['\x7d'] else ['\\', '\x7d']
  if rest = [] then throw .unclosedBraces
  if !closing.isPrefixOf rest then throw .badBraces
  if times.most.any (· < times.least) then throw .badBraces
  if 32767 < max times.least (times.most.getD 0) then throw .tooBig
  return (times, rest.drop closing.length)

/-- The repetition at the front of a text. In a lenient form a brace that is no repetition is none. -/
def takeTimes? (form : ExpressionForm) (t : Text) : Except ExpressionFault (Option (Times × Text)) :=
  let braces (t : Text) : Except ExpressionFault (Option (Times × Text)) :=
    match readTimes form t with
    | .ok found => .ok (some found)
    | .error fault =>
      if form.extended && !form.strict && fault ≠ .tooBig &&
          !(fault = .badBraces && (t.dropWhile fun c => c.isDigit || c = ',').head? = some '\x7d' &&
            t.head?.any Char.isDigit) then .ok none
      else .error fault
  match t with
  | '*' :: t => .ok (some (⟨0, none⟩, t))
  | '\\' :: c :: t =>
    if form.extended then .ok none
    else if c = '+' then .ok (some (⟨1, none⟩, t))
    else if c = '?' then .ok (some (⟨0, some 1⟩, t))
    else if c = '\x7b' then braces t
    else .ok none
  | c :: t =>
    if !form.extended then .ok none
    else if c = '+' then .ok (some (⟨1, none⟩, t))
    else if c = '?' then .ok (some (⟨0, some 1⟩, t))
    else if c = '\x7b' then braces t
    else .ok none
  | [] => .ok none

/-- An expression with the repetitions at the front of a text. -/
def repeatAll (form : ExpressionForm) : Nat → Expression → Text → Except ExpressionFault (Expression × Text)
  | 0, e, t => .ok (e, t)
  | n + 1, e, t => do
    match ← takeTimes? form t with
    | none => return (e, t)
    | some (times, t) => repeatAll form n (.repeated times.least times.most e) t

/-- What follows a sign that has a backslash in the basic form alone. -/
def afterSign? (form : ExpressionForm) (sign : Char) : Text → Option Text
  | '\\' :: c :: t => if !form.extended && c = sign then some t else none
  | c :: t => if form.extended && c = sign then some t else none
  | [] => none

/-- Whether a dollar sign in front of a text stands for the end. -/
def endsHere (form : ExpressionForm) (t : Text) : Bool :=
  form.extended || t = [] || (afterSign? form ')' t).isSome || (afterSign? form '|' t).isSome

mutual

/-- Branches with bars between them. `depth` is the number of open groups, and `count` that of groups so
far; the last result is that number afterwards. -/
def readEither (form : ExpressionForm) : Nat → (depth count : Nat) → Text →
    Except ExpressionFault (Expression × Text × Nat)
  | 0, _, count, t => .ok (.empty, t, count)
  | n + 1, depth, count, t => do
    let (first, t, count) ← readBranch form n depth count true t
    match afterSign? form '|' t with
    | some t =>
      let (second, t, count) ← readEither form n depth count t
      return (.either first second, t, count)
    | none => return (first, t, count)

/-- The parts of a branch. `first` is set as long as there has been none but the start of the text. -/
def readBranch (form : ExpressionForm) : Nat → (depth count : Nat) → (first : Bool) → Text →
    Except ExpressionFault (Expression × Text × Nat)
  | 0, _, count, _, t => .ok (.empty, t, count)
  | n + 1, depth, count, first, t => do
    let onward (e : Expression) (count : Nat) (t : Text) : Except ExpressionFault (Expression × Text × Nat) := do
      let (e, t) ← repeatAll form (t.length + 1) e t
      let (rest, t, count) ← readBranch form n depth count false t
      return (.sequence e rest, t, count)
    if t = [] || (afterSign? form '|' t).isSome then return (.empty, t, count)
    if (afterSign? form ')' t).isSome then
      if 0 < depth then return (.empty, t, count)
      if !form.extended || form.strict then throw .unopenedGroup
    match afterSign? form '(' t with
    | some body =>
      let index := count + 1
      let (e, t, count) ← readEither form n (depth + 1) index body
      match afterSign? form ')' t with
      | some t => onward (.group index e) count t
      | none => throw .unclosedGroup
    | none =>
      let starts := first && (form.extended || t.head? != some '*')
      match ← if starts then takeTimes? form t else pure none with
      | some (_, rest) =>
        if form.extended then
          if form.strict then throw .nothingToRepeat else readBranch form n depth count true rest
        else if (afterSign? form '\x7b' t).isSome then throw .nothingToRepeat
        else onward (char ((t.drop 1).headD ' ')) count (t.drop 2)
      | none =>
        match t with
        | '^' :: t =>
          if form.extended && !form.strict then onward (.border .lineStart) count t
          else if form.extended || first then
            let (rest, t, count) ← readBranch form n depth count true t
            return (.sequence (.border .lineStart) rest, t, count)
          else onward (char '^') count t
        | '$' :: t =>
          if endsHere form t then onward (.border .lineEnd) count t else onward (char '$') count t
        | '.' :: t => onward (.one true []) count t
        | '[' :: t =>
          let (e, t) ← readSet form t
          onward e count t
        | ['\\'] => throw .trailingBackslash
        | '\\' :: c :: t =>
          match escape? form c, if form.hasControls then takeCode (c :: t) else none with
          | some e, _ => onward e count t
          | none, some (code, t) => onward (char code) count t
          | none, none =>
            if '1' ≤ c && c ≤ '9' then
              if c.toNat - 48 ≤ count then onward (.again (c.toNat - 48)) count t else throw .badReference
            else onward (char c) count t
        | c :: t => onward (char c) count t
        | [] => return (.empty, [], count)

end

/-- The expression that a text is. -/
def read (form : ExpressionForm) (t : Text) : Except ExpressionFault Expression := do
  let (e, _, _) ← readEither form (2 * t.length + 4) 0 0 t
  return e

end Expression
end Shell
end ExEditor
