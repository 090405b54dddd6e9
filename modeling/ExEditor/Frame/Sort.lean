import ExEditor.Failure
import ExEditor.Frame.Edit

/-! Sorting lines by a window of columns. The sort is stable. -/
namespace ExEditor

/-- How lines are sorted. -/
structure SortOptions where
  unique : Bool := false
  reverse : Bool := false
  /-- First column of the key, counted from 0. -/
  start : Nat := 0
  /-- Number of columns of the key; all that follow if it is not given. -/
  length : Option Nat := none
  deriving DecidableEq, Repr

namespace SortOptions

/-- The letters of the options and, apart from them, the characters of the column window. -/
def readLetters (options : SortOptions) (columns : Text) : Text → Except Failure (SortOptions × Text)
  | [] => .ok (options, columns)
  | c :: t =>
    if c = 'u' then readLetters { options with unique := true } columns t
    else if c = 'r' then readLetters { options with reverse := true } columns t
    else if c.isDigit || c = ',' then readLetters options (columns ++ [c]) t
    else .error (.malformed (.unsupportedSortFlag c))

/-- A column number of the window. -/
def readColumn (columns written : Text) : Except Failure Nat :=
  match written.readWord? with
  | some n => .ok n
  | none => .error (.malformed (.badSortColumn columns))

/-- The options that a text writes: `u`, `r` and `start,length`, in any order and with any blanks. -/
def read (t : Text) : Except Failure SortOptions := do
  let (options, columns) ← readLetters {} [] (t.filter (! Unicode.isBlank ·))
  if columns = [] then return options
  let (start, length) := match columns.splitFirst? (· = ',') with
    | some (start, length) => (start, some length)
    | none => (columns, none)
  let start ← readColumn columns start
  match length with
  | none => return { options with start := start - 1 }
  | some length => return { options with start := start - 1, length := ← readColumn columns length }

/-- The part of a line that it is sorted by. -/
def key (options : SortOptions) (line : Text) : Text :=
  let rest := line.drop options.start
  match options.length with
  | some n => rest.take n
  | none => rest

/-- Whether a line may stand before another. -/
def inOrder (options : SortOptions) (a b : Text) : Bool :=
  if options.reverse then !(options.key a).before (options.key b)
  else !(options.key b).before (options.key a)

/-- Drop each line whose key is that of the line kept before it; `a` is the first of those. -/
def dropRepeatsOf (options : SortOptions) (a : Text) : List Text → List Text
  | [] => []
  | b :: rest =>
    if options.key a = options.key b then dropRepeatsOf options a rest
    else b :: dropRepeatsOf options b rest

/-- The first of the lines that stand together with the same key. -/
def dropRepeats (options : SortOptions) : List Text → List Text
  | [] => []
  | a :: rest => a :: options.dropRepeatsOf a rest

/-- The lines in order. -/
def sorted (options : SortOptions) (lines : List Text) : List Text := lines.mergeSort options.inOrder

/-- The lines in order, without those that repeat a key if they are to be unique. -/
def arrange (options : SortOptions) (lines : List Text) : List Text :=
  if options.unique then options.dropRepeats (options.sorted lines) else options.sorted lines

/-- The lines with the pieces between two columns in order, each piece put where another was. -/
def arrangeBlock (options : SortOptions) (left right : Nat) (lines : List Text) : List Text :=
  let pieces := options.sorted (lines.map fun line => (line.take right).drop left)
  List.zipWith (fun line piece => line.take left ++ piece ++ line.drop right) lines pieces

end SortOptions

namespace Frame

/-- The columns of a block selection, the second one excluded. -/
def blockColumns (f : Frame) : Nat × Nat :=
  let a := (Position.ofOffset f f.selection.anchor).column
  let b := (Position.ofOffset f f.selection.head).column
  (min a b, max a b + 1)

/-- Lines as sorting leaves them: only the columns of a block selection are sorted, if there is one. -/
def sortedTexts (f : Frame) (options : SortOptions) (first last : Nat) : List Text :=
  let lines := f.lineTexts first last
  if f.selection.kind = .block ∧ ¬ f.selection.isEmpty then
    options.arrangeBlock f.blockColumns.1 f.blockColumns.2 lines
  else options.arrange lines

/-- Sort lines. -/
def sortLines (f : Frame) (options : SortOptions) (first last : Nat) : Frame :=
  f.replaceLines first last (f.sortedTexts options first last)

end Frame
end ExEditor
