import ExEditor.Shell.Printf
import ExEditor.Shell.Record.Reader

/-! Values of programs on records: texts and numbers, each of which can stand for the other. -/
namespace ExEditor
namespace Shell
namespace Record

/-- A number as shown. -/
def numberText (x : Rat) : Text :=
  if x.den = 1 && x.num.natAbs < 1000000000000000000 then Text.ofInt x.num
  else if x < 0 then '-' :: general 6 (-x)
  else general 6 x

/-- Values. A text that was read is compared as a number if it is one. -/
inductive Value
  | number (n : Rat)
  | text (t : Text)
  | input (t : Text)
  | unset
  deriving Repr

namespace Value

/-- A truth value. -/
def ofBool (b : Bool) : Value := number (if b then 1 else 0)

/-- A value as a text. -/
def toText : Value → Text
  | number n => numberText n
  | text t => t
  | input t => t
  | unset => []

/-- The number at the front of a text, with a sign, and what follows it. -/
def signed? (t : Text) : Option (Rat × Text) :=
  match t.trimStart with
  | '-' :: t => (numeral? t).map fun (n, rest) => (-double n, rest)
  | '+' :: t => (numeral? t).map fun (n, rest) => (double n, rest)
  | t => (numeral? t).map fun (n, rest) => (double n, rest)

/-- A value as a number. -/
def toNumber : Value → Rat
  | number n => n
  | text t => ((signed? t).map (·.1)).getD 0
  | input t => ((signed? t).map (·.1)).getD 0
  | unset => 0

/-- The number that a value is compared as, if it is. -/
def asNumber? : Value → Option Rat
  | number n => some n
  | input t =>
    match signed? t with
    | some (n, rest) => if rest.trimStart = [] then some n else none
    | none => none
  | unset => some 0
  | text _ => none

/-- Whether a value counts as true. -/
def isTrue (v : Value) : Bool :=
  match v.asNumber? with
  | some n => n ≠ 0
  | none => v.toText ≠ []

/-- Compare two values: as numbers if both are, else as texts. -/
def order (v w : Value) : Ordering :=
  match v.asNumber?, w.asNumber? with
  | some m, some n => if m < n then .lt else if m = n then .eq else .gt
  | _, _ => if v.toText = w.toText then .eq else if Text.before v.toText w.toText then .lt else .gt

/-- A number to the power of a whole number. -/
def raise (x : Rat) (n : Int) : Rat :=
  let power : Rat := (List.replicate n.natAbs x).foldl (· * ·) 1
  if n < 0 then 1 / power else power

/-- What is left when a number is divided and the quotient made whole. -/
def remainder (x y : Rat) : Rat := x - y * truncate (x / y)

/-- What an operator makes of two values. What is divided by nothing has no number, but a name. -/
def apply (operator : Operator) (v w : Value) : Value :=
  let x := v.toNumber
  let y := w.toNumber
  match operator with
  | .add => number (double (x + y))
  | .sub => number (double (x - y))
  | .mul => number (double (x * y))
  | .div =>
    if y ≠ 0 then number (double (x / y))
    else text (if x = 0 then "-nan" else if x < 0 then "-inf" else "inf" : String)
  | .mod => if y = 0 then text "-nan" else number (double (remainder x y))
  | .power => number (double (raise x (truncate y)))
  | .join => text (v.toText ++ w.toText)
  | .less => ofBool (v.order w == .lt)
  | .atMost => ofBool (v.order w != .gt)
  | .equal => ofBool (v.order w == .eq)
  | .unequal => ofBool (v.order w != .eq)
  | .greater => ofBool (v.order w == .gt)
  | .atLeast => ofBool (v.order w != .lt)

end Value

/-- What a directive makes of a value. There is nothing for other letters than those here. -/
def directed? (d : Directive) (v : Value) : Option Text :=
  let x := v.toNumber
  let size : Rat := if x < 0 then -x else x
  let decimal (digits : Text) : Text := { d with precision := none }.number (d.sign (x < 0)) digits
  match d.letter with
  | 's' =>
    some (d.fill (match d.precision with
      | some n => v.toText.take n
      | none => v.toText))
  | 'c' =>
    match v with
    | .number n => some (d.fill [Char.ofNat (truncate n % 256).toNat])
    | v => some (d.fill (v.toText.take 1))
  | 'd' | 'i' => some (d.number (d.sign (truncate x < 0)) (Text.ofNat (truncate x).natAbs))
  | 'u' => some (d.number [] (Text.ofNat (truncate size).toNat))
  | 'o' => some (d.number [] (Nat.toDigits 8 (truncate size).toNat))
  | 'x' => some (d.number [] (Nat.toDigits 16 (truncate size).toNat))
  | 'X' => some (d.number [] ((Nat.toDigits 16 (truncate size).toNat).map Char.toUpper))
  | letter => (decimalForm? letter (d.precision.getD 6)).map fun form => decimal (form size)

/-- A width or precision of a directive, which a star takes from the values. -/
def sizeOf (t : Text) (values : List Value) : Nat × Text × List Value :=
  match t with
  | '*' :: t => ((truncate (values.headD .unset).toNumber).toNat, t, values.drop 1)
  | t => (Text.numeralValue (t.takeWhile Char.isDigit), t.dropWhile Char.isDigit, values)

/-- Values in a format; none if the format asks for more than there are. The first argument bounds the
characters. -/
def formatted : Nat → Text → List Value → Option Text
  | 0, _, _ => some []
  | _ + 1, [], _ => some []
  | n + 1, '%' :: '%' :: t, values => (formatted n t values).map ('%' :: ·)
  | n + 1, '%' :: t, values => do
    let flags : Text := t.takeWhile "#-+ 0".toList.contains
    let (width, rest, values) := sizeOf (t.drop flags.length) values
    let (precision, rest, values) : Option Nat × Text × List Value := match rest with
      | '.' :: rest => let (k, rest, values) := sizeOf rest values; (some k, rest, values)
      | rest => (none, rest, values)
    match rest, values with
    | letter :: after, v :: values =>
      match directed? ⟨flags, width, precision, letter⟩ v with
      | some t => return t ++ (← formatted n after values)
      | none => return '%' :: t.take (t.length - after.length) ++ (← formatted n after (v :: values))
    | _, _ => none
  | n + 1, c :: t, values => (formatted n t values).map (c :: ·)

end Record
end Shell
end ExEditor
