import ExEditor.Failure
import ExEditor.Frame.Basic
import ExEditor.Text.Word

/-! Addresses of lines and ranges of two of them. Lines are counted from 1; a line 0 stands for an
address that has not been resolved, or for the place before the first line. -/
namespace ExEditor

/-- A line, with the text that named it. -/
structure Address where
  expression : Option Text := none
  line : Nat := 0
  deriving DecidableEq, Repr

/-- The lines that a command acts on. -/
structure AddressRange where
  first : Address := {}
  last : Address := {}
  deriving DecidableEq, Repr

namespace Address

/-- A line brought into a frame: at least 1, or 0 for a destination, and at most the last line. -/
def clampLine (f : Frame) (allowZero : Bool) (line : Int) : Nat :=
  let line := (max line (if allowZero then 0 else 1)).toNat
  match f.lineCount? with
  | some count => min line (max count 1)
  | none => line

/-- The address of a known line. -/
def ofLine (f : Frame) (line : Nat) : Address := { line := clampLine f false (min (line : Int) maxWord) }

end Address

namespace AddressRange

/-- The range between two known lines. -/
def ofLines (f : Frame) (first last : Nat) : AddressRange := ⟨.ofLine f first, .ofLine f last⟩

/-- Whether both ends are resolved and stand in order. -/
def isValid (r : AddressRange) : Bool := 0 < r.first.line && 0 < r.last.line && r.first.line ≤ r.last.line

/-- First and last line, counted from 0. -/
def checked (r : AddressRange) : Except Failure (Nat × Nat) :=
  if r.isValid then .ok (r.first.line - 1, r.last.line - 1) else .error .invalidRange

/-- Number of lines. -/
def length (r : AddressRange) : Nat := if r.isValid then r.last.line - r.first.line + 1 else 0

end AddressRange
end ExEditor
