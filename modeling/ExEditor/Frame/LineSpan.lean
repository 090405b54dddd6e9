import ExEditor.Frame.Basic

/-! Whole lines of a frame: the spans they take, and putting lines into the text so that none is
joined to another. -/
namespace ExEditor
namespace Frame

/-- The offsets around some lines, the break of the last one included. -/
def linesSpan (f : Frame) (first last : Nat) : Nat × Nat := (f.lineStart first, f.lineStart (last + 1))

/-- The text of some lines with their breaks. -/
def linesText (f : Frame) (first last : Nat) : Text :=
  let (start, stop) := f.linesSpan first last
  f.slice start stop

/-- The offsets to delete so that some lines are gone. Where they reach the end of a text that has no
last break, the break before them goes instead of the one they lack. -/
def deletionSpan (f : Frame) (first last : Nat) : Nat × Nat :=
  let (start, stop) := f.linesSpan first last
  if stop = f.length ∧ 0 < first ∧ ¬ f.text.endsInBreak then (f.lineEnd (first - 1), stop)
  else (start, stop)

/-- Number of lines that a text makes when it is put. -/
def putCount (t : Text) : Nat := if t = [] then 0 else max 1 t.rows.length

/-- Insert whole lines after a line, or before the first one if it is 0. A text without a last break
gets one, unless it comes to stand at the end of a text that has none either. -/
def putLines (f : Frame) (line : Nat) (t : Text) : Frame :=
  if t = [] then f
  else if f.length = 0 ∧ line = 0 then f.insert 0 t
  else
    let offset := f.lineStart line
    if f.length ≤ offset ∧ ¬ f.text.endsInBreak then
      f.insert f.length (f.eol ++ (t.dropEnding? f.eol).getD t)
    else if offset < f.length ∧ ¬ t.endsInBreak then f.insert offset (t ++ f.eol)
    else f.insert offset t

end Frame
end ExEditor
