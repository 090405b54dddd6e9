import ExEditor.Frame.Basic

/-! Modes of editing, and what entering and leaving them does to a frame. -/
namespace ExEditor

/-- A mode of editing. -/
inductive Mode
  /-- Keys are commands. -/
  | command
  /-- Keys are text. -/
  | insert
  /-- Keys are text put into a selected block, to which escape returns. -/
  | insertBlock
  | visual
  | visualLine
  | visualBlock
  deriving DecidableEq, Repr

namespace Mode

/-- Whether keys are text. -/
def isInsert : Mode → Bool
  | insert | insertBlock => true
  | _ => false

/-- Whether moving the cursor selects. -/
def isVisual : Mode → Bool
  | visual | visualLine | visualBlock => true
  | _ => false

/-- The name of a mode. -/
def label : Mode → Text
  | command => "Command"
  | insert => "Insert"
  | insertBlock => "InsertBlock"
  | visual => "Visual"
  | visualLine => "VisualLine"
  | visualBlock => "VisualBlock"

/-- All modes. -/
def all : List Mode := [command, insert, insertBlock, visual, visualLine, visualBlock]

/-- The mode of a name. -/
def ofLabel? (t : Text) : Option Mode := all.find? (·.label == t)

end Mode

/-- Commands that begin to insert, by where they put the cursor. -/
inductive InsertCommand
  /-- `a`: behind the cursor. -/
  | append
  /-- `i`: at the cursor. -/
  | insert
  /-- `o`: on a new line below. -/
  | openBelow
  /-- `A`: at the end of the line. -/
  | appendEol
  /-- `C`: in place of the rest of the line. -/
  | changeEol
  /-- `I`: before the first character of the line that is not blank. -/
  | insertBol
  /-- `O`: on a new line above. -/
  | openAbove
  /-- `R`: over what is there. -/
  | overtype
  /-- `c`: in place of the selection. -/
  | change
  deriving DecidableEq, Repr

namespace InsertCommand

/-- The command of a key. -/
def ofKey? : Char → Option InsertCommand
  | 'a' => some append
  | 'i' => some insert
  | 'o' => some openBelow
  | 'A' => some appendEol
  | 'C' => some changeEol
  | 'I' => some insertBol
  | 'O' => some openAbove
  | 'R' => some overtype
  | 'c' => some change
  | _ => none

/-- The frame as it is when inserting begins. -/
def prepare (c : InsertCommand) (f : Frame) : Frame :=
  let line := f.lineAt f.cursor
  let start := f.lineStart line
  let stop := f.lineEnd line
  match c with
  | insert | overtype => f
  | append => f.setCursor (min (f.cursor + 1) stop)
  | appendEol => f.setCursor stop
  | changeEol => (f.delete f.cursor stop).setCursor f.cursor
  | insertBol => f.setCursor (start + ((f.line line).takeWhile Unicode.isBlank).length)
  | openBelow => (f.insert stop f.eol).setCursor (stop + f.eol.length)
  | openAbove => (f.insert start f.eol).setCursor start
  | change =>
    if f.selection.isEmpty then f
    else (f.delete f.selection.start f.selection.stop).setCursor f.selection.start

end InsertCommand

/-- What may change the mode. -/
inductive ModeEvent
  | insert (command : InsertCommand)
  | visual
  | visualLine
  | visualBlock
  | escape
  deriving DecidableEq, Repr

namespace Mode

/-- The mode after an event. A text that may only be read is not inserted into. Events that lead
nowhere leave the mode as it is. -/
def after (mode : Mode) (event : ModeEvent) (readOnly : Bool) : Mode :=
  match event with
  | .insert _ =>
    if readOnly then mode
    else
      match mode with
      | command => insert
      | visualBlock => insertBlock
      | mode => mode
  | .visual =>
    match mode with
    | command | visualLine | visualBlock => visual
    | mode => mode
  | .visualLine =>
    match mode with
    | command | visual | visualBlock => visualLine
    | mode => mode
  | .visualBlock =>
    match mode with
    | command | visual | visualLine => visualBlock
    | mode => mode
  | .escape =>
    match mode with
    | insertBlock => visualBlock
    | _ => command

end Mode

/-- The mode of a session. -/
structure ModeState where
  mode : Mode := .command
  /-- Whether the last insert began with `R`. -/
  overtype : Bool := false
  deriving DecidableEq, Repr

namespace ModeState

/-- Whether typed text goes over what is there. -/
def isOvertype (s : ModeState) : Bool := s.overtype && s.mode.isInsert

/-- The selection extended to whole lines, from the side of its anchor to the side of its head. -/
def wholeLines (f : Frame) : Selection :=
  let (anchor, head) :=
    if f.selection.isEmpty then (f.cursor, f.cursor) else (f.selection.anchor, f.selection.head)
  if anchor ≤ head then ⟨f.lineStart (f.lineAt anchor), f.lineEnd (f.lineAt head), .lines⟩
  else ⟨f.lineEnd (f.lineAt anchor), f.lineStart (f.lineAt head), .lines⟩

/-- The frame with its selection as the new mode has it. -/
def reselect (source target : Mode) (f : Frame) : Frame :=
  let kept (kind : SelectionKind) : Selection :=
    if source.isVisual || source.isInsert then ⟨f.selection.anchor, f.selection.head, kind⟩
    else ⟨f.cursor, f.cursor, kind⟩
  match target with
  | .visual => f.select (kept .stream)
  | .visualBlock => f.select (kept .block)
  | .visualLine => f.select (wholeLines f)
  | .command => if source.isVisual then f.select (.caret f.selection.head) else f
  | _ => f

/-- What an event has done: the state and the frame after it, and the modes between which it went, if
the mode has changed. -/
structure Step where
  state : ModeState
  frame : Frame
  changed : Option (Mode × Mode)

/-- Take an event. -/
def handle (s : ModeState) (event : ModeEvent) (f : Frame) : Step :=
  let target := s.mode.after event f.readOnly
  if target = s.mode then ⟨s, f, none⟩
  else
    let (overtype, f) := match event with
      | .insert command => (command == .overtype, command.prepare f)
      | _ => (s.overtype, f)
    ⟨⟨target, overtype⟩, reselect s.mode target f, some (s.mode, target)⟩

end ModeState
end ExEditor
