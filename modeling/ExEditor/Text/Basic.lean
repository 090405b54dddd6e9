import ExEditor.Unicode.Ranges
import ExEditor.Unicode.Case

/-! Text as a list of characters, with the cuts and joins that command lines need.
Every offset and every length in this library counts characters. -/
namespace ExEditor

/-- A text is the list of its characters. -/
abbrev Text := List Char

instance : Coe String Text := ⟨String.toList⟩

namespace Text

/-- Decimal digits of a number. -/
def ofNat (n : Nat) : Text := Nat.toDigits 10 n

/-- Decimal digits of a number, after a minus sign if it is negative. -/
def ofInt : Int → Text
  | .ofNat n => ofNat n
  | .negSucc n => '-' :: ofNat (n + 1)

/-- Number of bytes in UTF-8. -/
def utf8Size (t : Text) : Nat := t.foldl (fun n c => n + c.utf8Size) 0

/-- Drop white space at the front. -/
def trimStart (t : Text) : Text := t.dropWhile Unicode.isBlank

/-- Drop the characters at the end that satisfy `p`. -/
def dropEndWhile (p : Char → Bool) : Text → Text
  | [] => []
  | c :: t =>
    match dropEndWhile p t with
    | [] => if p c then [] else [c]
    | rest => c :: rest

/-- Drop white space at the end. -/
def trimEnd (t : Text) : Text := dropEndWhile Unicode.isBlank t

/-- Drop white space at both ends. -/
def trim (t : Text) : Text := trimEnd (trimStart t)

/-- Whether nothing but white space is left. -/
def isBlank (t : Text) : Bool := t.all Unicode.isBlank

/-- Whether `t` ends in `ending`. -/
def endsWith (t ending : Text) : Bool := ending.isSuffixOf t

/-- `t` without `ending`, if it ends so. -/
def dropEnding? (t ending : Text) : Option Text :=
  if t.endsWith ending then some (t.take (t.length - ending.length)) else none

/-- What stands before and after the first character that satisfies `p`. -/
def splitFirst? (p : Char → Bool) : Text → Option (Text × Text)
  | [] => none
  | c :: t => if p c then some ([], t) else (splitFirst? p t).map fun (l, r) => (c :: l, r)

/-- Cut after every character that satisfies `p`; no piece is empty. -/
def splitAfter (p : Char → Bool) : Text → List Text
  | [] => []
  | c :: t =>
    if p c then [c] :: splitAfter p t
    else
      match splitAfter p t with
      | [] => [[c]]
      | piece :: rest => (c :: piece) :: rest

/-- The words of a text: the pieces between runs of white space. -/
def words (t : Text) : List Text :=
  ((splitAfter Unicode.isBlank t).map trimEnd).filter (· ≠ [])

/-- Replace the pair of characters `a`, `b` by `new` wherever it stands, from left to right. -/
def replacePair (a b new : Char) : Text → Text
  | c :: d :: t =>
    if c = a ∧ d = b then new :: replacePair a b new t else c :: replacePair a b new (d :: t)
  | t => t

/-- Whether `a` stands directly before `b` somewhere. -/
def hasPair (a b : Char) : Text → Bool
  | c :: d :: t => (c = a && d = b) || hasPair a b (d :: t)
  | _ => false

/-- Put `separator` between the parts. -/
def join (separator : Text) : List Text → Text
  | [] => []
  | [t] => t
  | t :: rest => t ++ separator ++ join separator rest

/-- Fill up with blanks at the front to the given width. -/
def padStart (width : Nat) (t : Text) : Text := List.replicate (width - t.length) ' ' ++ t

/-- Upper case, character by character. -/
def toUpper (t : Text) : Text := t.flatMap Unicode.toUpper

/-- Lower case, character by character. -/
def toLower (t : Text) : Text := t.flatMap Unicode.toLower

/-- Lower case of the letters `A` to `Z` alone. -/
def toAsciiLower (t : Text) : Text := t.map Char.toLower

/-- Order of texts: by the first character that differs, a shorter text before its extensions. -/
def before : Text → Text → Bool
  | [], [] => false
  | [], _ :: _ => true
  | _ :: _, [] => false
  | a :: s, b :: t => a < b || (a == b && before s t)

/-- The rows of a plain text: what stands before each line feed, without a carriage return directly
before it, and the rest if it is not empty. -/
def rows (t : Text) : List Text :=
  (splitAfter (· = '\n') t).map fun row =>
    match dropEnding? row ['\n'] with
    | some body => (dropEnding? body ['\r']).getD body
    | none => row

/-- Whether all characters are digits `0` to `9` and there is one. -/
def isNumeral (t : Text) : Bool := t ≠ [] && t.all Char.isDigit

/-- The value of a list of digits. -/
def numeralValue (t : Text) : Nat := t.foldl (fun n c => 10 * n + (c.toNat - '0'.toNat)) 0

/-- How many numbers fit into 64 bits. -/
def wordCount : Nat := 18446744073709551616

/-- A decimal numeral, with or without a plus sign, of a number that fits into 64 bits. -/
def readWord? (t : Text) : Option Nat :=
  let digits : Text := match t with
    | '+' :: rest => rest
    | _ => t
  if digits.isNumeral && digits.numeralValue < wordCount then some digits.numeralValue else none

end Text
end ExEditor
