import ExEditor.Frame.Basic
import ExEditor.Pattern.Search

/-! Finding matches in a part of a frame. The part is searched as a text of its own. -/
namespace ExEditor
namespace Frame

/-- First match between two offsets. -/
def findIn (f : Frame) (m : Matcher) (first last : Nat) : Option (Nat × Nat) :=
  if last < first then none
  else (m.find? (f.slice first last)).map fun hit => (first + hit.start, first + hit.stop)

/-- Last match between two offsets. -/
def findLastIn (f : Frame) (m : Matcher) (first last : Nat) : Option (Nat × Nat) :=
  if last < first then none
  else (m.findAll (f.slice first last)).getLast?.map fun hit => (first + hit.start, first + hit.stop)

end Frame
end ExEditor
