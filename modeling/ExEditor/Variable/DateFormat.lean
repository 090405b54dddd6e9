import ExEditor.Variable.Clock

/-! Formats of dates and times. A format is read into pieces, each of which is text as it stands or a
field that is filled in from a moment. -/
namespace ExEditor

/-- How a number is filled up to its width. -/
inductive Padding
  | nothing
  | zeros
  | blanks
  deriving DecidableEq, Repr

/-- A number, filled up. -/
def Padding.apply (width n : Nat) : Padding → Text
  | nothing => Text.ofNat n
  | zeros => List.replicate (width - (Text.ofNat n).length) '0' ++ Text.ofNat n
  | blanks => Text.padStart width (Text.ofNat n)

/-- A piece of a format. -/
inductive DatePiece
  | literal (c : Char)
  /-- What the letter after a percent sign stands for, filled up in a way of its own if there is one. -/
  | field (letter : Char) (padding : Option Padding)
  /-- The first digits of the fraction of the second, with a point before them or not. -/
  | fraction (point : Bool) (digits : Nat)
  /-- The point and as many groups of three digits as the fraction of the second needs. -/
  | wholeFraction
  /-- What the local time is ahead, with the number of colons that tells its form. -/
  | offset (colons : Nat)
  deriving DecidableEq, Repr

namespace Clock

/-- The number that a letter stands for, its width, and how it is filled up. -/
def number? (c : Clock) : Char → Option (Nat × Nat × Padding)
  | 'Y' => some (c.year, 4, .zeros)
  | 'C' => some (c.year / 100, 2, .zeros)
  | 'y' => some (c.year % 100, 2, .zeros)
  | 'G' => some (c.weekYear.1, 4, .zeros)
  | 'g' => some (c.weekYear.1 % 100, 2, .zeros)
  | 'q' => some ((c.month + 2) / 3, 1, .nothing)
  | 'm' => some (c.month, 2, .zeros)
  | 'd' => some (c.day, 2, .zeros)
  | 'e' => some (c.day, 2, .blanks)
  | 'j' => some (c.dayOfYear, 3, .zeros)
  | 'U' => some (c.weekFromSunday, 2, .zeros)
  | 'W' => some (c.weekFromMonday, 2, .zeros)
  | 'V' => some (c.weekYear.2, 2, .zeros)
  | 'u' => some (c.weekdayFromMonday, 1, .nothing)
  | 'w' => some (c.weekday, 1, .nothing)
  | 'H' => some (c.hour, 2, .zeros)
  | 'k' => some (c.hour, 2, .blanks)
  | 'I' => some (c.hour12, 2, .zeros)
  | 'l' => some (c.hour12, 2, .blanks)
  | 'M' => some (c.minute, 2, .zeros)
  | 'S' => some (c.second, 2, .zeros)
  | 'f' => some (c.nanosecond, 9, .zeros)
  | 's' => some (c.secondsSince1970.toNat, 9, .nothing)
  | _ => none

/-- The number that a letter stands for, filled up. -/
def numberText (c : Clock) (letter : Char) (padding : Option Padding) : Text :=
  match c.number? letter with
  | some (n, width, own) => (padding.getD own).apply width n
  | none => []

/-- The numbers that some letters stand for, with a character between them. -/
def numbers (c : Clock) (between : Char) (letters : String) : Text :=
  Text.join [between] (letters.toList.map fun letter => c.numberText letter none)

/-- The first digits of the fraction of the second. -/
def fraction (c : Clock) (digits : Nat) : Text := (Padding.zeros.apply 9 c.nanosecond).take digits

/-- The point and as many groups of three digits as the fraction of the second needs. -/
def wholeFraction (c : Clock) : Text :=
  if c.nanosecond = 0 then []
  else if c.nanosecond % 1000000 = 0 then '.' :: c.fraction 3
  else if c.nanosecond % 1000 = 0 then '.' :: c.fraction 6
  else '.' :: c.fraction 9

/-- What the local time is ahead: as hours and minutes without a colon or with one, with seconds too
for two colons, and as hours alone for three. -/
def offsetText (c : Clock) (colons : Nat) : Text :=
  let two (n : Nat) : Text := Padding.zeros.apply 2 n
  let hours := (if c.offset < 0 then '-' else '+') :: two (c.offset.natAbs / 60)
  let minutes := two (c.offset.natAbs % 60)
  match colons with
  | 0 => hours ++ minutes
  | 1 => hours ++ ':' :: minutes
  | 2 => hours ++ ':' :: minutes ++ ":00".toList
  | _ => hours

/-- Whether it is morning or not, in letters. -/
def halfDay (c : Clock) : Text := if c.hour < 12 then "AM" else "PM"

/-- The text that a letter stands for, if it is not a number alone. -/
def text? (c : Clock) : Char → Option Text
  | 'D' | 'x' => some (c.numbers '/' "mdy")
  | 'F' => some (c.numbers '-' "Ymd")
  | 'T' | 'X' => some (c.numbers ':' "HMS")
  | 'R' => some (c.numbers ':' "HM")
  | 'r' => some (c.numbers ':' "IMS" ++ ' ' :: c.halfDay)
  | 'c' => some (c.dayName.take 3 ++ ' ' :: c.monthName.take 3 ++ ' ' :: c.numberText 'e' none ++ ' ' ::
      c.numbers ':' "HMS" ++ ' ' :: c.numberText 'Y' none)
  | 'v' => some (c.numberText 'e' none ++ '-' :: c.monthName.take 3 ++ '-' :: c.numberText 'Y' none)
  | '+' => some (c.numbers '-' "Ymd" ++ 'T' :: c.numbers ':' "HMS" ++ c.wholeFraction ++ c.offsetText 1)
  | 'p' => some c.halfDay
  | 'P' => some (c.halfDay.map Char.toLower)
  | 'A' => some c.dayName
  | 'a' => some (c.dayName.take 3)
  | 'B' => some c.monthName
  | 'b' | 'h' => some (c.monthName.take 3)
  | 'z' => some (c.offsetText 0)
  | 'Z' => some (c.offsetText 1)
  | 'n' => some ['\n']
  | 't' => some ['\t']
  | '%' => some ['%']
  | _ => none

/-- A piece of a format, filled in from a moment. -/
def fill (c : Clock) : DatePiece → Text
  | .literal ch => [ch]
  | .field letter padding => (c.text? letter).getD (c.numberText letter padding)
  | .fraction point digits => (if point then ['.'] else []) ++ c.fraction digits
  | .wholeFraction => c.wholeFraction
  | .offset colons => c.offsetText colons

end Clock

namespace DatePiece

/-- Whether a letter stands for a number. -/
def isNumber (letter : Char) : Bool := (({} : Clock).number? letter).isSome

/-- Whether a letter stands for anything. -/
def isField (letter : Char) : Bool := isNumber letter || (({} : Clock).text? letter).isSome

/-- The way of filling up that a character between the percent sign and the letter asks for. -/
def padding? : Char → Option Padding
  | '-' => some .nothing
  | '0' => some .zeros
  | '_' => some .blanks
  | _ => none

/-- Read what follows a percent sign, as a piece and the number of characters in it. Only a letter that
stands for a number can be filled up in another way. -/
def ofText? : Text → Option (DatePiece × Nat)
  | '.' :: 'f' :: _ => some (.wholeFraction, 2)
  | '.' :: '3' :: 'f' :: _ => some (.fraction true 3, 3)
  | '.' :: '6' :: 'f' :: _ => some (.fraction true 6, 3)
  | '.' :: '9' :: 'f' :: _ => some (.fraction true 9, 3)
  | '3' :: 'f' :: _ => some (.fraction false 3, 2)
  | '6' :: 'f' :: _ => some (.fraction false 6, 2)
  | '9' :: 'f' :: _ => some (.fraction false 9, 2)
  | ':' :: 'z' :: _ => some (.offset 1, 2)
  | ':' :: ':' :: 'z' :: _ => some (.offset 2, 3)
  | ':' :: ':' :: ':' :: 'z' :: _ => some (.offset 3, 4)
  | c :: t =>
    match padding? c, t with
    | some padding, letter :: _ =>
      if isNumber letter then some (.field letter (some padding), 2) else none
    | some _, [] => none
    | none, _ => if isField c then some (.field c none, 1) else none
  | [] => none

/-- The pieces of a format, unless a percent sign is not followed by a field. -/
def ofFormat? : Text → Option (List DatePiece)
  | [] => some []
  | c :: t =>
    if c = '%' then do
      let (piece, size) ← ofText? t
      let rest ← ofFormat? (t.drop size)
      return piece :: rest
    else return .literal c :: (← ofFormat? t)
termination_by t => t.length
decreasing_by all_goals (simp; try omega)

end DatePiece

/-- A moment in a format, unless the format names a field that does not exist. -/
def Clock.render? (c : Clock) (format : Text) : Option Text :=
  (DatePiece.ofFormat? format).map fun pieces => pieces.flatMap c.fill

end ExEditor
