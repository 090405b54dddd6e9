/-! Sets of code points as ascending lists of closed ranges, and the operations that patterns use on
them. -/
namespace ExEditor
namespace Unicode

/-- Closed ranges of code points in ascending order. -/
abbrev Ranges := List (Nat × Nat)

namespace Ranges

/-- Whether a set holds a code point; the search ends at the first range above it. -/
def has : Ranges → Nat → Bool
  | [], _ => false
  | (first, last) :: rest, n => n ≥ first && (n ≤ last || has rest n)

/-- Largest code point. -/
def top : Nat := 0x10FFFF

/-- The code point after another, past the surrogates. -/
def next (n : Nat) : Nat := if n = 0xD7FF then 0xE000 else n + 1

/-- The code point before another, past the surrogates. -/
def previous (n : Nat) : Nat := if n = 0xE000 then 0xD7FF else n - 1

/-- Join ranges that overlap or follow one another, going on from the range `first` to `last`. -/
def joinFrom (first last : Nat) : Ranges → Ranges
  | [] => [(first, last)]
  | (a, b) :: rest =>
    if a ≤ last + 1 then joinFrom first (max last b) rest
    else (first, last) :: joinFrom a b rest

/-- The set of ranges that may overlap and stand in any order. -/
def ofList (ranges : List (Nat × Nat)) : Ranges :=
  match ranges.mergeSort fun r s => r.1 < s.1 || (r.1 == s.1 && r.2 ≤ s.2) with
  | [] => []
  | (a, b) :: rest => joinFrom a b rest

/-- What is in one of two sets or in both. -/
def union (r s : Ranges) : Ranges := ofList (r ++ s)

/-- What is in one of many sets. -/
def unions (sets : List Ranges) : Ranges := ofList sets.flatten

/-- What is in both of two sets. -/
def inter (r s : Ranges) : Ranges :=
  r.flatMap fun (a, b) => s.filterMap fun (c, d) =>
    if max a c ≤ min b d then some (max a c, min b d) else none

/-- What is left of the range from `a` up to `b` outside a set. -/
def cut (a b : Nat) : Ranges → Ranges
  | [] => [(a, b)]
  | (c, d) :: rest =>
    if d < a then cut a b rest
    else if b < c then [(a, b)]
    else (if a < c then [(a, previous c)] else []) ++ if d < b then cut (next d) b rest else []

/-- What is in the first of two sets only. -/
def diff (r s : Ranges) : Ranges := r.flatMap fun (a, b) => cut a b s

/-- What is in one of two sets only. -/
def symmDiff (r s : Ranges) : Ranges := diff (union r s) (inter r s)

/-- The gaps above a code point in a set, and what is above the set. A gap of surrogates alone counts
as the range from the code point before it up to the one behind it. -/
def gapsAbove (last : Nat) : Ranges → Ranges
  | [] => if last < top then [(next last, top)] else []
  | (a, b) :: rest => (min (next last) (previous a), max (next last) (previous a)) :: gapsAbove b rest

/-- What is not in a set. -/
def compl : Ranges → Ranges
  | [] => [(0, top)]
  | (a, b) :: rest => (if 0 < a then [(0, previous a)] else []) ++ gapsAbove b rest

/-- Value of a hexadecimal digit in capitals. -/
def hexDigit (c : Char) : Nat := if c.isDigit then c.toNat - 48 else c.toNat - 55

/-- Value of a hexadecimal numeral in capitals. -/
def hexValue (digits : List Char) : Nat := digits.foldl (fun n c => 16 * n + hexDigit c) 0

/-- The words of a table, each a row of hexadecimal numbers with hyphens between them. Blanks and line
ends stand between the words. -/
def hexWords (written : String) : List (List Nat) :=
  ((written.toList.splitOnP fun c => c = ' ' || c = '\n').filter (· ≠ [])).map fun word =>
    (word.splitOn '-').map hexValue

/-- The range that a word of one or two numbers stands for. -/
def ofWord? : List Nat → Option (Nat × Nat)
  | [n] => some (n, n)
  | [first, last] => some (first, last)
  | _ => none

/-- The set that is written as numbers and ranges `first-last`. -/
def ofHex (written : String) : Ranges := (hexWords written).filterMap ofWord?

end Ranges
/-! White space: the characters that are trimmed from command text and that separate words. -/

/-- Code points with the property White_Space. -/
def whiteSpace : Ranges :=
  [(0x9, 0xD), (0x20, 0x20), (0x85, 0x85), (0xA0, 0xA0), (0x1680, 0x1680), (0x2000, 0x200A),
   (0x2028, 0x2029), (0x202F, 0x202F), (0x205F, 0x205F), (0x3000, 0x3000)]

/-- Whether a character is white space. -/
def isBlank (c : Char) : Bool := whiteSpace.has c.toNat

end Unicode
end ExEditor
