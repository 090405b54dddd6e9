/-! Marks: named offsets that stay with the text they stand on when the text changes. -/
namespace ExEditor

/-- What a mark is for. -/
inductive MarkId
  /-- A mark set by name, `a` to `z` and the two ends `<` and `>`. -/
  | named (name : Char)
  /-- Start of the lines that a substitution works through. -/
  | rangeBegin
  /-- End of the lines that a substitution works through. -/
  | rangeEnd
  /-- A line that a global command has still to visit. -/
  | line (n : Nat)
  deriving DecidableEq, Repr

namespace MarkId

/-- The names that marks may have, in the order they are listed. -/
def names : List Char := "<>abcdefghijklmnopqrstuvwxyz".toList

/-- The mark of a name, if the name is one. -/
def named? (name : Char) : Option MarkId := if name ∈ names then some (.named name) else none

/-- Whether deleting the text under a mark removes it: so it is for named marks and line marks, and
not for the two ends of a range. -/
def diesWithText : MarkId → Bool
  | named _ => true
  | line _ => true
  | rangeBegin => false
  | rangeEnd => false

end MarkId

/-- The marks that are set, each with its offset. -/
abbrev Marks := List (MarkId × Nat)

namespace Marks

/-- Offset of a mark, if it is set. -/
def get? (marks : Marks) (id : MarkId) : Option Nat := marks.lookup id

/-- Remove a mark. -/
def unset (marks : Marks) (id : MarkId) : Marks := marks.filter (·.1 ≠ id)

/-- Set a mark, in place of the one of the same kind. -/
def set (marks : Marks) (id : MarkId) (offset : Nat) : Marks := (id, offset) :: marks.unset id

/-- Move every mark. -/
def mapOffset (f : Nat → Nat) (marks : Marks) : Marks := marks.map fun m => (m.1, f m.2)

/-- Bring every mark into a text of the given length. -/
def clamp (marks : Marks) (length : Nat) : Marks := marks.mapOffset (min · length)

/-- Where an offset is found after `length` characters were inserted at `place`. What stands there or
behind moves. -/
def afterInsert (place length offset : Nat) : Nat := if place ≤ offset then offset + length else offset

/-- Where an offset is found after the text between two others was deleted. What stood inside is
found at the front. -/
def afterDelete (first last offset : Nat) : Nat :=
  if offset ≤ first then offset else if offset < last then first else offset - (last - first)

/-- The marks after an insertion. -/
def inserted (marks : Marks) (place length : Nat) : Marks := marks.mapOffset (afterInsert place length)

/-- The marks after a deletion, the ends of which may come in either order. -/
def deleted (marks : Marks) (a b : Nat) : Marks := marks.mapOffset (afterDelete (min a b) (max a b))

/-- Remove named marks and line marks that stand between two offsets. -/
def clearWithin (marks : Marks) (first last : Nat) : Marks :=
  marks.filter fun m => !(m.1.diesWithText && first ≤ m.2 && m.2 < last)

/-- The named marks in the order of their names. -/
def listing (marks : Marks) : List (Char × Nat) :=
  MarkId.names.filterMap fun name => (marks.get? (.named name)).map (name, ·)

end Marks
end ExEditor
