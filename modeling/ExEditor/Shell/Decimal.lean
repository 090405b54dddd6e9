import ExEditor.Text.Basic

/-! Decimal numbers: reading them, and writing them with a number of digits behind the point, with an
exponent, or in the shorter one of these forms. -/
namespace ExEditor
namespace Shell

/-- A power of ten. -/
def tenTo (exponent : Int) : Rat :=
  if 0 ≤ exponent then (Nat.pow 10 exponent.toNat : Nat) else 1 / (Nat.pow 10 (-exponent).toNat : Nat)

/-- The number in front of a text, digits with a point and an exponent, and what follows it. -/
def numeral? (t : Text) : Option (Rat × Text) :=
  let whole : Text := t.takeWhile Char.isDigit
  let (part, rest) : Text × Text := match t.drop whole.length with
    | '.' :: t => (t.takeWhile Char.isDigit, t.dropWhile Char.isDigit)
    | t => ([], t)
  if whole = [] && part = [] then none
  else
    let value : Rat := (Text.numeralValue (whole ++ part) : Nat) * tenTo (-(part.length : Int))
    let scaled (negative : Bool) (digits after : Text) : Option (Rat × Text) :=
      if digits = [] then some (value, rest)
      else
        let exponent : Int := digits.numeralValue
        some (value * tenTo (if negative then -exponent else exponent), after)
    match rest with
    | e :: t =>
      if e = 'e' || e = 'E' then
        let (negative, t) : Bool × Text := match t with
          | '-' :: t => (true, t)
          | '+' :: t => (false, t)
          | t => (false, t)
        scaled negative (t.takeWhile Char.isDigit) (t.dropWhile Char.isDigit)
      else some (value, rest)
    | [] => some (value, [])

/-- The closest whole number, of two the even one. -/
def nearest (x : Rat) : Int :=
  let below := x.floor
  let rest := x - below
  if rest < 1 / 2 then below
  else if 1 / 2 < rest then below + 1
  else if below % 2 = 0 then below else below + 1

/-- A power of two. -/
def twoTo (exponent : Int) : Rat :=
  if 0 ≤ exponent then (Nat.pow 2 exponent.toNat : Nat) else 1 / (Nat.pow 2 (-exponent).toNat : Nat)

/-- The closest number of fifty-three binary digits, of two the one whose last digit is zero. -/
def double (x : Rat) : Rat :=
  if x = 0 || (x.den = 1 && x.num.natAbs < 9007199254740992) then x
  else
    let size : Rat := if x < 0 then -x else x
    let guess : Int := (Nat.log2 x.num.natAbs : Int) - Nat.log2 x.den - 52
    let exponent := if size < twoTo (guess + 52) then guess - 1 else guess
    let rounded : Rat := (nearest (size / twoTo exponent) : Int) * twoTo exponent
    if x < 0 then -rounded else rounded

/-- The whole number between zero and a number that is closest to the number. -/
def truncate (x : Rat) : Int := if x < 0 then -(-x).floor else x.floor

/-- The exponent of the first digit of a positive number. -/
def leadingExponent (x : Rat) : Int :=
  let guess : Int := (Text.ofNat x.num.natAbs).length - (Text.ofNat x.den).length
  if tenTo guess ≤ x then guess else guess - 1

/-- The first digits of a positive number as a whole number, rounded, and the exponent of the first of
them. -/
def leadingDigits (count : Nat) (x : Rat) : Nat × Int :=
  let exponent := leadingExponent x
  let digits := (nearest (x * tenTo (count - 1 - exponent))).toNat
  if Nat.pow 10 count ≤ digits then (digits / 10, exponent + 1) else (digits, exponent)

/-- Digits with a point behind the first. -/
def withPoint (digits : Text) : Text :=
  match digits with
  | c :: d :: rest => c :: '.' :: d :: rest
  | digits => digits

/-- An exponent of two digits or more. -/
def exponentText (exponent : Int) : Text :=
  let digits := Text.ofNat exponent.natAbs
  'e' :: (if exponent < 0 then '-' else '+') :: (if digits.length < 2 then '0' :: digits else digits)

/-- A number that is not negative, with an exponent. -/
def scientific (precision : Nat) (x : Rat) : Text :=
  if x = 0 then withPoint (List.replicate (precision + 1) '0') ++ exponentText 0
  else
    let (digits, exponent) := leadingDigits (precision + 1) x
    withPoint (Text.ofNat digits) ++ exponentText exponent

/-- A number that is not negative, with a number of digits behind the point, rounded to the nearest, a
tie to the even one. -/
def withPlaces (places : Nat) (x : Rat) : Text :=
  let digits := Text.ofNat (nearest (x * tenTo places)).toNat
  let digits := List.replicate (places + 1 - digits.length) '0' ++ digits
  let whole := digits.take (digits.length - places)
  if places = 0 then whole else whole ++ '.' :: digits.drop (digits.length - places)

/-- Digits without the zeros at the end of what stands behind the point. -/
def dropZeros (t : Text) : Text :=
  if t.contains '.' then
    let t := Text.dropEndWhile (· = '0') t
    (Text.dropEnding? t ['.']).getD t
  else t

/-- A number that is not negative, in the shorter one of its two forms. -/
def general (precision : Nat) (x : Rat) : Text :=
  let count := max 1 precision
  if x = 0 then ['0']
  else
    let (digits, exponent) := leadingDigits count x
    if exponent < -4 || count ≤ exponent then
      dropZeros (withPoint (Text.ofNat digits)) ++ exponentText exponent
    else dropZeros (withPlaces (count - 1 - exponent).toNat x)

/-- How a letter of a format writes numbers that are not negative. -/
def decimalForm? (letter : Char) (precision : Nat) : Option (Rat → Text) :=
  match letter with
  | 'f' | 'F' => some (withPlaces precision)
  | 'e' => some (scientific precision)
  | 'E' => some fun x => (scientific precision x).map Char.toUpper
  | 'g' => some (general precision)
  | 'G' => some fun x => (general precision x).map Char.toUpper
  | _ => none

end Shell
end ExEditor
