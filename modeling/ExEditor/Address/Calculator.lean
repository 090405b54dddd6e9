import ExEditor.Address.Scan
import ExEditor.Failure
import ExEditor.Frame.Basic
import ExEditor.Text.Word

/-! The calculator for line numbers: sums of products over numerals, `.`, `$`, marks and sums in
parentheses. The operand of a sign may be left out and is then 1, and a sign at the very front starts
from the current line. -/
namespace ExEditor
namespace Calculator

/-- A value and the text after it. -/
abbrev Reading := Except Failure (Int × Text)

/-- A value, refused if it does not fit. -/
def fitting (n : Int) : Except Failure Int :=
  match word? n with
  | some n => .ok n
  | none => .error (.malformed .numberTooLarge)

/-- The numeral at the front of a text that begins with a digit. -/
def numeral (t : Text) : Reading :=
  let digits : Text := t.takeWhile Char.isDigit
  match word? digits.numeralValue with
  | some n => .ok (n, t.dropWhile Char.isDigit)
  | none => .error (.malformed (.numeralTooLarge digits))

/-- Line of a mark, given what follows its quote. -/
def markLine (f : Frame) : Text → Reading
  | [] => .error (.malformed .missingMarkName)
  | name :: t =>
    match MarkId.named? name with
    | none => .error (.malformed (.invalidMarkName [name]))
    | some id =>
      match f.mark? id with
      | none => .error (.unresolved (.markNotSet name))
      | some offset => .ok (f.lineAt offset + 1, t)

/-- A product of two values, or their quotient rounded toward zero. -/
def multiply (value : Int) (operator : Char) (operand : Int) : Except Failure Int :=
  if operator = '*' then fitting (value * operand)
  else if operand = 0 then .error (.malformed .divisionByZero)
  else fitting (value.tdiv operand)

/-- A sum or difference of two values. A term that does not fit with its sign is refused. -/
def add (value : Int) (operator : Char) (operand : Int) : Except Failure Int :=
  if operator = '+' then fitting (value + operand)
  else (fitting (-operand)).bind fun term => fitting (value + term)

mutual

/-- An operand. The first argument of this and the next functions bounds the length of the way. -/
def primary (f : Frame) : Nat → Text → Reading
  | 0, _ => .error (.malformed .incompleteAddress)
  | n + 1, t =>
    match t.trimStart with
    | [] => .error (.malformed .incompleteAddress)
    | c :: rest =>
      if c.isDigit then numeral (c :: rest)
      else if c = '.' then .ok (f.cursorLine + 1, rest)
      else if c = '$' then .ok (f.lastLine, rest)
      else if c = '\'' then markLine f rest
      else if c = '(' then do
        let (value, rest) ← sum f n rest
        match Text.trimStart rest with
        | ')' :: rest => return (value, rest)
        | _ => throw (.malformed .missingParenthesis)
      else .error (.malformed (.unexpectedInAddress c))

/-- A product. -/
def product (f : Frame) : Nat → Text → Reading
  | 0, _ => .error (.malformed .incompleteAddress)
  | n + 1, t => do
    let (value, rest) ← primary f n t
    factors f n value rest

/-- The factors after the first one. -/
def factors (f : Frame) : Nat → Int → Text → Reading
  | 0, _, _ => .error (.malformed .incompleteAddress)
  | n + 1, value, t =>
    match t.trimStart with
    | c :: rest =>
      if c = '*' ∨ c = '/' then do
        let (operand, rest) ← primary f n rest
        let value ← multiply value c operand
        factors f n value rest
      else .ok (value, c :: rest)
    | [] => .ok (value, [])

/-- A sum. -/
def sum (f : Frame) : Nat → Text → Reading
  | 0, _ => .error (.malformed .incompleteAddress)
  | n + 1, t => do
    let (value, rest) ← product f n t
    terms f n value rest

/-- The signed terms after the first one. -/
def terms (f : Frame) : Nat → Int → Text → Reading
  | 0, _, _ => .error (.malformed .incompleteAddress)
  | n + 1, value, t =>
    match t.trimStart with
    | c :: rest =>
      if c = '+' ∨ c = '-' then do
        let (operand, rest) ←
          if (Text.trimStart rest).head?.any Address.isOperandStart then product f n rest
          else .ok (1, Text.trimStart rest)
        let value ← add value c operand
        terms f n value rest
      else .ok (value, c :: rest)
    | [] => .ok (value, [])

end

/-- The value of an address. It counts lines from 1 and need not be a line of the text. -/
def evaluate (f : Frame) (expression : Text) : Except Failure Int :=
  let t := expression.trim
  let bound := 3 * t.length + 4
  match t with
  | [] => .error (.malformed .emptyAddress)
  | c :: _ => do
    let (value, rest) ←
      if c = '+' ∨ c = '-' then terms f bound (f.cursorLine + 1) t else sum f bound t
    match Text.trimStart rest with
    | [] => return value
    | c :: _ => throw (.malformed (.trailingInAddress c t))

end Calculator
end ExEditor
