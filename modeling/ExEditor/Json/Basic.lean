import ExEditor.Text.Basic

/-! JSON values. A number is kept as it is written, because nothing here computes with one. -/
namespace ExEditor

/-- A JSON value. -/
inductive Json
  | null
  | bool (b : Bool)
  | number (written : Text)
  | string (t : Text)
  | array (items : List Json)
  | object (fields : List (Text × Json))

namespace Json

/-- The value of a field, the first one of that name. -/
def field? (j : Json) (name : String) : Option Json :=
  match j with
  | object fields => fields.lookup name.toList
  | _ => none

/-- The text of a string. -/
def string? : Json → Option Text
  | string t => some t
  | _ => none

/-- The items of an array. -/
def array? : Json → Option (List Json)
  | array items => some items
  | _ => none

/-- The truth value. -/
def bool? : Json → Option Bool
  | bool b => some b
  | _ => none

/-- The value of a number that is written as digits alone. -/
def nat? : Json → Option Nat
  | number written => if written.isNumeral then some written.numeralValue else none
  | _ => none

/-! Numbers in JSON: how they are written, and which of them are too large. The digits of a number are
read into a word of 64 bits and a power of ten, and both are rounded to 53 binary digits before they are
multiplied. -/

/-- The digits at the front, of which there must be one. -/
def readDigits (t : Text) : Option (Text × Text) :=
  let digits : Text := t.takeWhile Char.isDigit
  if digits = [] then none else some (digits, t.drop digits.length)

/-- The part of a number before its point: no zero in front of other digits. -/
def readWhole (t : Text) : Option (Text × Text) := do
  let (digits, rest) ← readDigits t
  guard (digits.head? ≠ some '0' ∨ digits.length = 1)
  return (digits, rest)

/-- The digits after the point of a number, if there is one. -/
def readFraction : Text → Option (Text × Text)
  | '.' :: t => readDigits t
  | t => some ([], t)

/-- The exponent of a number, which is nothing if none is written. -/
def readExponent : Text → Option (Int × Text)
  | c :: t =>
    if c = 'e' ∨ c = 'E' then
      match t with
      | '-' :: t => (readDigits t).map fun (digits, rest) => (-(digits.numeralValue : Int), rest)
      | '+' :: t => (readDigits t).map fun (digits, rest) => ((digits.numeralValue : Int), rest)
      | t => (readDigits t).map fun (digits, rest) => ((digits.numeralValue : Int), rest)
    else some (0, c :: t)
  | [] => some (0, [])

/-- Value of a digit. -/
def digitValue (c : Char) : Nat := c.toNat - 48

/-- Digits before the point as a word, and the number of those left out because they did not fit. -/
def wholeWord (digits : Text) : Nat × Nat :=
  digits.foldl (fun (n, left) c =>
    if left = 0 ∧ 10 * n + digitValue c < Text.wordCount then (10 * n + digitValue c, 0)
    else (n, left + 1)) (0, 0)

/-- A word with digits after the point, up to the first that does not fit, and their number. -/
def fractionWord (n : Nat) : Text → Nat × Nat
  | [] => (n, 0)
  | c :: t =>
    if 10 * n + digitValue c < Text.wordCount then
      let (n, taken) := fractionWord (10 * n + digitValue c) t
      (n, taken + 1)
    else (n, 0)

/-- A number rounded to 53 binary digits, a tie to the even one. -/
def round53 (n : Nat) : Nat :=
  let unit := Nat.pow 2 (Nat.log2 n + 1 - 53)
  let (q, r) := (n / unit, n % unit)
  if 2 * r > unit ∨ (2 * r = unit ∧ q % 2 = 1) then (q + 1) * unit else q * unit

/-- The least number that counts as infinite: half a unit above the largest one of 53 binary digits
and an exponent of ten bits. -/
def infinite : Nat := (Nat.pow 2 54 - 1) * Nat.pow 2 970

/-- Whether a word times a power of ten is too large to be a number. -/
def isTooLarge (word : Nat) (exponent : Int) : Bool :=
  word ≠ 0 && (exponent > 308 ||
    (exponent > 0 && round53 word * round53 (Nat.pow 10 exponent.toNat) ≥ infinite))

/-- A number: how it is written, whether it is too large, and what follows it. -/
def readNumber (t : Text) : Option (Text × Bool × Text) := do
  let unsigned := match t with
    | '-' :: t => t
    | t => t
  let (whole, rest) ← readWhole unsigned
  let (fraction, rest) ← readFraction rest
  let (exponent, rest) ← readExponent rest
  let (word, left) := wholeWord whole
  let (word, taken) := fractionWord word fraction
  return (t.take (t.length - rest.length), isTooLarge word (left - taken + exponent), rest)

end Json
end ExEditor
