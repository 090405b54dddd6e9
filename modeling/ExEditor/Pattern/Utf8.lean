import ExEditor.Unicode.Ranges

/-! Characters as sequences of bytes in UTF-8, and ranges of characters as sequences of byte ranges. -/
namespace ExEditor
namespace Utf8

/-- Bytes of the code point `n`. -/
def size (n : Nat) : Nat := if n < 0x80 then 1 else if n < 0x800 then 2 else if n < 0x10000 then 3 else 4

/-- The bytes of a code point. -/
def bytes (n : Nat) : List Nat :=
  if n < 0x80 then [n]
  else if n < 0x800 then [0xC0 + n / 64, 0x80 + n % 64]
  else if n < 0x10000 then [0xE0 + n / 4096, 0x80 + n / 64 % 64, 0x80 + n % 64]
  else [0xF0 + n / 262144, 0x80 + n / 4096 % 64, 0x80 + n / 64 % 64, 0x80 + n % 64]

theorem length_bytes (n : Nat) : (bytes n).length = size n := by
  unfold bytes size
  split
  · rfl
  · split
    · rfl
    · split <;> rfl

/-- Where a range that crosses a multiple of `step` is cut, if it does not fill up the blocks of that
size: the last code point before the cut. -/
def cutAtBlock (a b step : Nat) : Option Nat :=
  if a / step = b / step then none
  else if a % step ≠ 0 then some (a / step * step + (step - 1))
  else if b % step ≠ step - 1 then some (b / step * step - 1)
  else none

/-- Where a range is cut because its characters have not the same number of bytes, or because the later
bytes of some run through fewer values than those of others: the last code point before the cut. -/
def cutAt (a b : Nat) : Option Nat :=
  match [0x7F, 0x7FF, 0xFFFF].find? fun last => a ≤ last && last < b with
  | some last => some last
  | none => if b < 0x80 then none else [64, 4096, 262144].findSome? (cutAtBlock a b)

/-- A range of characters cut into ranges of which each is one sequence of byte ranges. Halves of pairs
are left out. The first argument bounds how often a range is cut. -/
def pieces : Nat → (a b : Nat) → List (Nat × Nat)
  | 0, _, _ => []
  | n + 1, a, b =>
    if a < 0xE000 ∧ 0xD7FF < b then pieces n a 0xD7FF ++ pieces n 0xE000 b
    else if b < a then []
    else
      match cutAt a b with
      | some last => pieces n a last ++ pieces n (last + 1) b
      | none => [(a, b)]

/-- The sequences of byte ranges of the characters of a set, in ascending order. -/
def sequences (set : Unicode.Ranges) : List (List (Nat × Nat)) :=
  set.flatMap fun (a, b) => (pieces 32 a b).map fun (a, b) => (bytes a).zip (bytes b)

end Utf8
end ExEditor
