import ExEditor.Pattern.Tree
import ExEditor.Text.Basic

/-! Reading characters of a pattern. Where the flag `x` is set, which is the first argument of most of
these functions, white space and comments between characters do not count. -/
namespace ExEditor
namespace Pattern

/-- Skip white space and comments, which run to the end of their line. -/
def skipBlank : (inComment : Bool) → Text → Text
  | _, [] => []
  | true, c :: t => skipBlank (c ≠ '\n') t
  | false, c :: t =>
    if Unicode.isBlank c then skipBlank false t
    else if c = '#' then skipBlank true t
    else c :: t

/-- Skip white space where it does not count. -/
def skip (x : Bool) (t : Text) : Text := if x then skipBlank false t else t

/-- The first character that is not white space or the sign that begins a comment. -/
def firstVisible : (inComment : Bool) → Text → Option Char
  | _, [] => none
  | inComment, c :: t =>
    if Unicode.isBlank c then firstVisible inComment t
    else if !inComment && c = '#' then firstVisible true t
    else some c

/-- A look at the character that comes next. Where white space does not count, one sign of a comment is
passed over, but not what the comment says. -/
def peek (x : Bool) (t : Text) : Option Char :=
  if x then (firstVisible false t).orElse fun _ => t.head? else t.head?

/-- The characters that count up to a closing brace, and what is behind it. -/
def readBraced (x : Bool) : (inComment : Bool) → Text → Option (Text × Text)
  | _, [] => none
  | true, c :: t => readBraced x (c ≠ '\n') t
  | false, c :: t =>
    if x && Unicode.isBlank c then readBraced x false t
    else if x && c = '#' then readBraced x true t
    else if c = '\x7d' then some ([], t)
    else (readBraced x false t).map fun (inside, rest) => (c :: inside, rest)

/-- The character with a given code point. -/
def scalar? (n : Nat) : Option Char :=
  if n < 0xD800 ∨ (0xDFFF < n ∧ n < 0x110000) then some (Char.ofNat n) else none

/-- Value of a hexadecimal digit. -/
def hexDigit? (c : Char) : Option Nat :=
  if c.isDigit then some (c.toNat - 48)
  else if 'a' ≤ c ∧ c ≤ 'f' then some (c.toNat - 87)
  else if 'A' ≤ c ∧ c ≤ 'F' then some (c.toNat - 55)
  else none

/-- Value of a sequence of hexadecimal digits. -/
def hexValue? (digits : Text) : Option Nat :=
  digits.foldlM (fun n c => (hexDigit? c).map (16 * n + ·)) 0

/-- A fixed number of characters that count, and what is behind them. -/
def readCounting (x : Bool) : Nat → Text → Option (Text × Text)
  | 0, t => some ([], t)
  | _ + 1, [] => none
  | n + 1, c :: t => (readCounting x n (skip x t)).map fun (cs, rest) => (c :: cs, rest)

/-- The character written in hexadecimal, either in braces or with a fixed number of digits. -/
def readHex (x : Bool) (width : Nat) (t : Text) : Option (Literal × Text) :=
  match skip x t with
  | '{' :: t => do
    let (digits, rest) ← readBraced x false t
    guard (digits ≠ [])
    return (⟨← scalar? (← hexValue? digits), false⟩, skip x rest)
  | t => do
    let (digits, rest) ← readCounting x width t
    return (⟨← scalar? (← hexValue? digits), width == 2⟩, rest)

/-- Decimal digits, between which white space need not count. -/
def readDigits (x : Bool) : (inComment : Bool) → Text → Text × Text
  | _, [] => ([], [])
  | true, c :: t => readDigits x (c ≠ '\n') t
  | false, c :: t =>
    if c.isDigit then let (digits, rest) := readDigits x false t; (c :: digits, rest)
    else if x && Unicode.isBlank c then readDigits x false t
    else if x && c = '#' then readDigits x true t
    else ([], c :: t)

/-- A count of at most 32 bits, with white space around it. -/
def readCount (x : Bool) (t : Text) : Option (Nat × Text) :=
  let (digits, rest) := readDigits x false t.trimStart
  if digits = [] || 4294967296 ≤ digits.numeralValue then none
  else some (digits.numeralValue, rest.trimStart)

/-- The bounds of a repetition, after the opening brace. -/
def readBounds (x : Bool) (t : Text) : Option ((Nat × Option Nat) × Text) := do
  let (least, rest) ← readCount x (skip x t)
  match rest with
  | '\x7d' :: rest => return ((least, some least), rest)
  | ',' :: rest =>
    match skip x rest with
    | '\x7d' :: rest => return ((least, none), rest)
    | rest =>
      let (most, rest) ← readCount x rest
      match rest with
      | '\x7d' :: rest => if least ≤ most then return ((least, some most), rest) else none
      | _ => none
  | _ => none

end Pattern
end ExEditor
