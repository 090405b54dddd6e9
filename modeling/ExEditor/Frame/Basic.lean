import ExEditor.Mark
import ExEditor.Text.Lines

/-! A frame: a text being edited, with a cursor, a selection, marks and a history to undo. -/
namespace ExEditor

/-- How the two ends of a selection are read. -/
inductive SelectionKind
  /-- The characters between the ends. -/
  | stream
  /-- The lines of the ends and those between them. -/
  | lines
  /-- The rectangle between the ends, both columns included. -/
  | block
  deriving DecidableEq, Repr

/-- A selection. It is empty when its ends meet. -/
structure Selection where
  anchor : Nat := 0
  head : Nat := 0
  kind : SelectionKind := .stream
  deriving DecidableEq, Repr

namespace Selection

/-- The empty selection at an offset. -/
def caret (offset : Nat) : Selection := ⟨offset, offset, .stream⟩

/-- Whether the ends meet. -/
def isEmpty (s : Selection) : Bool := s.anchor == s.head

/-- The lower end. -/
def start (s : Selection) : Nat := min s.anchor s.head

/-- The upper end. -/
def stop (s : Selection) : Nat := max s.anchor s.head

end Selection

/-- How a new line ends. -/
inductive LineBreak
  | feed
  | returnFeed
  deriving DecidableEq, Repr

/-- The characters of a line break. -/
def LineBreak.text : LineBreak → Text
  | feed => ['\n']
  | returnFeed => ['\r', '\n']

/-- A text being edited. -/
structure Frame where
  text : Text := []
  marks : Marks := []
  cursor : Nat := 0
  selection : Selection := {}
  /-- First line on the screen. -/
  firstVisible : Nat := 0
  /-- Number of lines on the screen. -/
  screenLines : Nat := 24
  readOnly : Bool := false
  binary : Bool := false
  /-- Whether the text is still being loaded, so that its number of lines is not known. -/
  streaming : Bool := false
  /-- The line break that new lines get. -/
  lineBreak : LineBreak := .feed
  /-- Texts from before each outermost group of edits, latest first. -/
  history : List Text := []
  /-- Number of groups of edits that are open. -/
  depth : Nat := 0
  deriving DecidableEq, Repr

namespace Frame

/-- A frame on a text. New lines end in a pair of breaks if some line of the text does. -/
def ofText (t : Text) : Frame :=
  { text := t, lineBreak := if t.hasPair '\r' '\n' then .returnFeed else .feed }

/-- A frame on lines, each ended by a line feed. -/
def ofLines (lines : List Text) : Frame := ofText (lines.flatMap (· ++ ['\n']))

/-- Number of characters. -/
def length (f : Frame) : Nat := f.text.length

/-- What ends a new line. -/
def eol (f : Frame) : Text := f.lineBreak.text

/-- Whether edits are allowed. -/
def isEditable (f : Frame) : Bool := !f.readOnly && !f.binary

/-- An offset brought into the text. -/
def clamp (f : Frame) (offset : Nat) : Nat := min offset f.length

/-- Number of lines, where it is known. -/
def lineCount? (f : Frame) : Option Nat := if f.streaming then none else some f.text.lineCount

/-- Number of the last line, counted from 1, also where the number of lines is not known. -/
def lastLine (f : Frame) : Nat := f.lineCount?.getD (f.text.lineAt f.length + 1)

/-- Offset of the start of a line. -/
def lineStart (f : Frame) (line : Nat) : Nat := f.text.lineStart line

/-- Offset of the end of a line, before its break. -/
def lineEnd (f : Frame) (line : Nat) : Nat := f.text.lineEnd line

/-- Line of an offset. -/
def lineAt (f : Frame) (offset : Nat) : Nat := f.text.lineAt (f.clamp offset)

/-- Text of a line without its break. -/
def line (f : Frame) (n : Nat) : Text := f.text.line n

/-- The lines, none while their number is not known. -/
def lines (f : Frame) : List Text := if f.streaming then [] else f.text.lines

/-- Line of the cursor. -/
def cursorLine (f : Frame) : Nat := f.lineAt f.cursor

/-- The text between two offsets. -/
def slice (f : Frame) (first last : Nat) : Text := f.text.slice first last

/-- Offset of a mark. -/
def mark? (f : Frame) (id : MarkId) : Option Nat := f.marks.get? id

/-- Move the cursor. -/
def setCursor (f : Frame) (offset : Nat) : Frame := { f with cursor := f.clamp offset }

/-- Move the cursor to the start of a line. -/
def goToLine (f : Frame) (line : Nat) : Frame := f.setCursor (f.lineStart line)

/-- Change the selection. -/
def select (f : Frame) (s : Selection) : Frame :=
  { f with selection := ⟨f.clamp s.anchor, f.clamp s.head, s.kind⟩ }

/-- Set a mark. -/
def setMark (f : Frame) (id : MarkId) (offset : Nat) : Frame :=
  { f with marks := f.marks.set id (f.clamp offset) }

/-- Remove a mark. -/
def unsetMark (f : Frame) (id : MarkId) : Frame := { f with marks := f.marks.unset id }

/-- Remove the named marks and line marks between two offsets. -/
def clearMarksWithin (f : Frame) (first last : Nat) : Frame :=
  { f with marks := f.marks.clearWithin first last }

/-- Keep the present text in the history, unless a group that is open has done so. -/
def remember (f : Frame) : Frame :=
  if f.depth = 0 then { f with history := f.text :: f.history } else f

/-- Insert text. The cursor and the marks at the place or behind it move along. -/
def insert (f : Frame) (offset : Nat) (t : Text) : Frame :=
  if t = [] then f
  else
    let offset := f.clamp offset
    { f.remember with
      text := f.text.take offset ++ (t ++ f.text.drop offset)
      marks := f.marks.inserted offset t.length
      cursor := Marks.afterInsert offset t.length f.cursor }

/-- Delete the text between two offsets, which may come in either order. The selection becomes empty
at its lower end. -/
def delete (f : Frame) (a b : Nat) : Frame :=
  let first := f.clamp (min a b)
  let last := f.clamp (max a b)
  if first = last then f
  else
    let text := f.text.take first ++ f.text.drop last
    { f.remember with
      text
      marks := f.marks.deleted first last
      cursor := Marks.afterDelete first last f.cursor
      selection := .caret (min f.selection.start text.length) }

/-- Put text in place of what stands between two offsets. -/
def replace (f : Frame) (first last : Nat) (t : Text) : Frame := (f.delete first last).insert first t

/-- Open a group of edits. Groups inside it are undone with it. -/
def openGroup (f : Frame) : Frame := { f.remember with depth := f.depth + 1 }

/-- Close a group of edits. -/
def closeGroup (f : Frame) : Frame := { f with depth := f.depth - 1 }

/-- Go back to the latest text in the history that differs from the present one, and say whether
there was one. -/
def undo (f : Frame) : Frame × Bool :=
  match f.history.dropWhile (· == f.text) with
  | [] => ({ f with history := [] }, false)
  | previous :: older =>
    let cursor := min f.cursor previous.length
    ({ f with
      text := previous
      history := older
      marks := f.marks.clamp previous.length
      cursor
      selection := .caret cursor }, true)

end Frame
end ExEditor
