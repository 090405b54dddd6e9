import ExEditor.Json.Basic

/-! Reading JSON. A text is read only if it is one value and nothing else but blanks. A value that is of
no use to the reader has to be well formed only, but one that is used must not be nested too deeply, its
numbers must not be too large, and its strings must hold whole characters. -/
namespace ExEditor
namespace Json

/-- What of a value is of use. -/
inductive Use
  | all
  | nothing
  /-- The one field of an object, or all of an array. -/
  | field (name : String)
  deriving DecidableEq, Repr

/-- What is of use of the value of a field. -/
def Use.ofField : Use → Text → Use
  | field name, found => if found = name.toList then all else nothing
  | use, _ => use

/-- What is of use of an item of an array. -/
def Use.ofItem : Use → Use
  | nothing => nothing
  | _ => all

/-- Blanks between the parts of a value. -/
def isBlank (c : Char) : Bool := c = ' ' || c = '\n' || c = '\t' || c = '\r'

/-- Skip blanks. -/
def skip (t : Text) : Text := t.dropWhile isBlank

/-- Value of a hexadecimal digit. -/
def hexDigit? (c : Char) : Option Nat :=
  if c.isDigit then some (c.toNat - 48)
  else if 'a' ≤ c ∧ c ≤ 'f' then some (c.toNat - 87)
  else if 'A' ≤ c ∧ c ≤ 'F' then some (c.toNat - 55)
  else none

/-- Value of four hexadecimal digits. -/
def hex4? (a b c d : Char) : Option Nat := do
  return ((← hexDigit? a) * 16 + (← hexDigit? b)) * 256 + ((← hexDigit? c) * 16 + (← hexDigit? d))

/-- The character of a pair of code units, or of one that needs no second. -/
def ofUnits? (high : Nat) (low : Option Nat) : Option Char :=
  match low with
  | none => if 0xD800 ≤ high ∧ high ≤ 0xDFFF then none else some (Char.ofNat high)
  | some low =>
    if 0xD800 ≤ high ∧ high ≤ 0xDBFF ∧ 0xDC00 ≤ low ∧ low ≤ 0xDFFF then
      some (Char.ofNat (0x10000 + (high - 0xD800) * 0x400 + (low - 0xDC00)))
    else none

/-- The character that a letter after a backslash stands for. -/
def escape? (c : Char) : Option Char :=
  match c with
  | '"' | '\\' | '/' => some c
  | 'b' => some '\x08'
  | 'f' => some '\x0c'
  | 'n' => some '\n'
  | 'r' => some '\r'
  | 't' => some '\t'
  | _ => none

/-- The rest of a string, after its opening quote, and what follows it. -/
def readString : Text → Option (Text × Text)
  | [] => none
  | '"' :: t => some ([], t)
  | '\\' :: 'u' :: a :: b :: c :: d :: t => do
    let high ← hex4? a b c d
    if 0xD800 ≤ high ∧ high ≤ 0xDBFF then
      match t with
      | '\\' :: 'u' :: a :: b :: c :: d :: t => do
        let ch ← ofUnits? high (some (← hex4? a b c d))
        let (s, rest) ← readString t
        return (ch :: s, rest)
      | _ => none
    else do
      let ch ← ofUnits? high none
      let (s, rest) ← readString t
      return (ch :: s, rest)
  | '\\' :: c :: t => do
    let ch ← escape? c
    let (s, rest) ← readString t
    return (ch :: s, rest)
  | c :: t =>
    if c.toNat < 0x20 ∨ c = '\\' then none
    else do
      let (s, rest) ← readString t
      return (c :: s, rest)

/-- What follows a string, after its opening quote. Any code unit may be named in it. -/
def skipString : Text → Option Text
  | [] => none
  | '"' :: t => some t
  | '\\' :: 'u' :: a :: b :: c :: d :: t => do
    let _ ← hex4? a b c d
    skipString t
  | '\\' :: c :: t => do
    let _ ← escape? c
    skipString t
  | c :: t => if c.toNat < 0x20 ∨ c = '\\' then none else skipString t

/-- A string that may be of no use, and what follows it. -/
def readStringFor (use : Use) (t : Text) : Option (Text × Text) :=
  if use = .nothing then (skipString t).map ([], ·) else readString t

/-- A number that may be of no use, and what follows it. -/
def readNumberFor (use : Use) (t : Text) : Option (Json × Text) := do
  let (written, tooLarge, rest) ← readNumber t
  guard (use = .nothing ∨ !tooLarge)
  return (number written, rest)

/-- How deeply what is inside an array or an object may be nested, if that may be nested so deeply. -/
def inner? (use : Use) (depth : Nat) : Option Nat :=
  match use, depth with
  | .nothing, depth => some depth
  | _, depth + 1 => some depth
  | _, 0 => none

/-- What follows a word at the front of a text. -/
def readWord? (word : String) (t : Text) : Option Text :=
  if word.toList.isPrefixOf t then some (t.drop word.length) else none

mutual

/-- A value. The first argument of this and the next functions bounds the values still to come, and
`depth` how deeply they may be nested. -/
def readValue : Nat → (use : Use) → (depth : Nat) → Text → Option (Json × Text)
  | 0, _, _, _ => none
  | n + 1, use, depth, t =>
    match skip t with
    | '"' :: t => (readStringFor use t).map fun (s, rest) => (string s, rest)
    | '[' :: t => do
      let depth ← inner? use depth
      match skip t with
      | ']' :: rest => return (array [], rest)
      | _ => (readItems n use depth t).map fun (items, rest) => (array items, rest)
    | '\x7b' :: t => do
      let depth ← inner? use depth
      match skip t with
      | '\x7d' :: rest => return (object [], rest)
      | _ => (readFields n use depth t).map fun (fields, rest) => (object fields, rest)
    | 'n' :: t => (readWord? "ull" t).map (null, ·)
    | 't' :: t => (readWord? "rue" t).map (bool true, ·)
    | 'f' :: t => (readWord? "alse" t).map (bool false, ·)
    | t => readNumberFor use t

/-- The items of an array, of which there is one. -/
def readItems : Nat → (use : Use) → (depth : Nat) → Text → Option (List Json × Text)
  | 0, _, _, _ => none
  | n + 1, use, depth, t => do
    let (item, rest) ← readValue n use.ofItem depth t
    match skip rest with
    | ',' :: rest => do
      let (items, rest) ← readItems n use depth rest
      return (item :: items, rest)
    | ']' :: rest => return ([item], rest)
    | _ => none

/-- The fields of an object, of which there is one. -/
def readFields : Nat → (use : Use) → (depth : Nat) → Text → Option (List (Text × Json) × Text)
  | 0, _, _, _ => none
  | n + 1, use, depth, t =>
    match skip t with
    | '"' :: t => do
      let (name, rest) ← readStringFor use t
      match skip rest with
      | ':' :: rest => do
        let (value, rest) ← readValue n (use.ofField name) depth rest
        match skip rest with
        | ',' :: rest => do
          let (fields, rest) ← readFields n use depth rest
          return ((name, value) :: fields, rest)
        | '\x7d' :: rest => return ([(name, value)], rest)
        | _ => none
      | _ => none
    | _ => none

end

/-- How deeply arrays and objects that are of use may be nested. -/
def depthLimit : Nat := 127

/-- The value that a text writes, of which some is of use. -/
def read? (use : Use) (t : Text) : Option Json := do
  let (j, rest) ← readValue (2 * t.length + 2) use depthLimit t
  guard (skip rest = [])
  return j

end Json
end ExEditor
