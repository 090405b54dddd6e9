import ExEditor.Frame.LineSpan
import ExEditor.Frame.Position

/-! Edits of whole lines: deleting, changing, copying, moving, joining, shifting and sorting them.
Lines are counted from 0, destinations from 1 with 0 for the place before the first line. -/
namespace ExEditor
namespace Frame

/-- Delete lines, with the named marks that stand on them. -/
def cutLines (f : Frame) (first last : Nat) : Frame :=
  let (start, stop) := f.deletionSpan first last
  (f.clearMarksWithin start stop).delete start stop

/-- Delete lines and go to the line that has taken their place, or to the last one. -/
def deleteLines (f : Frame) (first last : Nat) : Frame :=
  let f := f.cutLines first last
  f.goToLine (min first (f.lineCount?.getD 1 - 1))

/-- Put lines after a line and go to the last of them. -/
def putAndFollow (f : Frame) (line : Nat) (t : Text) : Frame :=
  (f.putLines line t).goToLine (line + putCount t - 1)

/-- Copy lines to a destination. -/
def copyLines (f : Frame) (first last destination : Nat) : Frame :=
  f.putAndFollow destination (f.linesText first last)

/-- Move lines to a destination outside of them. -/
def moveLines (f : Frame) (first last destination : Nat) : Frame :=
  let t := f.linesText first last
  let (start, stop) := f.deletionSpan first last
  let count := last - first + 1
  let destination := if last + 1 < destination then destination - count else destination
  ((f.delete start stop).putLines destination t).goToLine (destination + count - 1)

/-- Insert a line of text so that it becomes the given line. -/
def insertLine (f : Frame) (line : Nat) (t : Text) : Frame := (f.putLines line (t ++ f.eol)).goToLine line

/-- Put a line of text in place of lines. -/
def changeLines (f : Frame) (first last : Nat) (t : Text) : Frame :=
  let g := f.cutLines first last
  g.insertLine (if g.length = 0 then 0 else first) t

/-- One line made of several. Unless they are joined as they are, blanks at the front of each are
dropped and one is put between, except before a closing parenthesis and after blanks. -/
def joinTexts (asIs : Bool) (joined : Text) : List Text → Text
  | [] => joined
  | t :: rest =>
    if asIs then joinTexts asIs (joined ++ t) rest
    else
      let t := t.trimStart
      if t = [] then joinTexts asIs joined rest
      else
        let gap : Text :=
          if joined = [] || joined.getLast?.any Unicode.isBlank || t.head? == some ')' then []
          else [' ']
        joinTexts asIs (joined ++ gap ++ t) rest

/-- Lines from one up to another. -/
def lineRange (first last : Nat) : List Nat := List.range' first (last + 1 - first)

/-- Texts of lines. -/
def lineTexts (f : Frame) (first last : Nat) : List Text :=
  let segments := f.text.segments
  (lineRange first last).map fun n => Text.lineBody (segments.getD n [])

/-- Join lines into one. -/
def joinLines (f : Frame) (first last : Nat) (asIs : Bool) : Frame :=
  let joined := joinTexts asIs (f.line first) (f.lineTexts (first + 1) last)
  (f.replace (f.lineStart first) (f.lineEnd last) joined).goToLine first

/-- Indent one line that is not empty. -/
def indentLine (indent : Text) (f : Frame) (line : Nat) : Frame :=
  if f.line line = [] then f else f.insert (f.lineStart line) indent

/-- How many blanks and tabs at the front of a line take up the given columns. `used` counts the
columns before them. A tab is as wide as `tabWidth`; one that goes past the columns is dropped only
if nothing stands before it. -/
def outdentLength (columns tabWidth used : Nat) : Text → Nat
  | [] => 0
  | c :: t =>
    if c = ' ' ∨ c = '\t' then
      let used' := used + if c = ' ' then 1 else max tabWidth 1
      if columns < used' ∧ 0 < used then 0
      else if columns ≤ used' then 1
      else outdentLength columns tabWidth used' t + 1
    else 0

/-- Outdent one line. -/
def outdentLine (columns tabWidth : Nat) (f : Frame) (line : Nat) : Frame :=
  let start := f.lineStart line
  f.delete start (start + outdentLength columns tabWidth 0 (f.line line))

/-- Change lines one after the other, in a group of edits, and go to the last. -/
def eachLine (change : Frame → Nat → Frame) (f : Frame) (first last : Nat) : Frame :=
  ((lineRange first last).foldl change f.openGroup).closeGroup.goToLine last

/-- Put lines in place of lines. -/
def replaceLines (f : Frame) (first last : Nat) (lines : List Text) : Frame :=
  (f.replace (f.lineStart first) (f.lineEnd last) (Text.join f.eol lines)).goToLine first

end Frame
end ExEditor
