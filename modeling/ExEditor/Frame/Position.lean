import ExEditor.Frame.Basic

/-! Positions by line and column, both counted from 0. -/
namespace ExEditor

/-- A line and a column in it. -/
structure Position where
  line : Nat
  column : Nat
  deriving DecidableEq, Repr

namespace Position

/-- Position of an offset. -/
def ofOffset (f : Frame) (offset : Nat) : Position :=
  let offset := f.clamp offset
  let line := f.lineAt offset
  ⟨line, offset - f.lineStart line⟩

/-- Offset of a position, brought into the text of its line. -/
def toOffset (f : Frame) (p : Position) : Nat :=
  let line := match f.lineCount? with
    | some count => min p.line (count - 1)
    | none => p.line
  f.lineStart line + min p.column (f.line line).length

end Position
end ExEditor
