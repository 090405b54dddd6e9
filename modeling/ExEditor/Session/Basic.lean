import ExEditor.Address.Resolve
import ExEditor.Command.Parse
import ExEditor.Host
import ExEditor.Mode
import ExEditor.Recorder
import ExEditor.Register
import ExEditor.Settings
import ExEditor.Substitution.Basic

/-! Sessions, what they share, and the shape of the functions that carry out commands. -/
namespace ExEditor

/-- One frame being edited. -/
structure Session where
  frame : Frame := {}
  modes : ModeState := {}
  recorder : Recorder := none
  filename : Option Text := none
  /-- Directory that scripts and commands are looked for in. -/
  cwd : Text := ['/']
  /-- Whether text is highlighted. -/
  highlight : Bool := true
  /-- Whether searches leave the last search alone, as those of a jump to a tag do. -/
  tagJump : Bool := false
  /-- Text typed since inserting began. -/
  inserted : Text := []

/-- What all sessions share. -/
structure Context where
  registers : Registers := {}
  settings : Settings := {}
  lastSearch : Option Text := none
  lastSubstitution : Option Substitution := none

/-- A session with all that it works on. -/
structure Editor where
  session : Session := {}
  context : Context := {}
  host : Host := {}

/-- What is under way around a command: scripts, command lines and macros, outermost first, and
whether a global command runs. -/
structure Running where
  sourcing : List Text := []
  invoking : List Text := []
  playing : List Text := []
  inGlobal : Bool := false

/-- An editor after a command, and how the command went. -/
abbrev Result := Editor × Outcome

/-- A way to run a command line inside what is under way. -/
abbrev Runner := Running → Text → Editor → Result

/-- A command that changes nothing if it fails. -/
abbrev Change := Except Failure Result

namespace Editor

/-- A new editor on a text. -/
def ofText (t : Text) : Editor := { session := { frame := .ofText t } }

/-- The frame of the session. -/
def frame (ed : Editor) : Frame := ed.session.frame

/-- The shelf that keeps macros and variables. -/
def shelf (ed : Editor) : Shelf := ed.context.registers.shelf

/-- Change the frame. -/
def mapFrame (g : Frame → Frame) (ed : Editor) : Editor :=
  { ed with session := { ed.session with frame := g ed.session.frame } }

/-- Put another shelf in place. -/
def setShelf (ed : Editor) (shelf : Shelf) : Editor :=
  { ed with context := { ed.context with registers := { ed.context.registers with shelf } } }

/-- Change the registers. -/
def mapRegisters (g : Registers → Registers) (ed : Editor) : Editor :=
  { ed with context := { ed.context with registers := g ed.context.registers } }

/-- Change the store, and write it. -/
def updateStore (ed : Editor) (store : Store) : Editor := ed.setShelf (ed.shelf.update store)

/-- Look whether everything is to stop. -/
def look (ed : Editor) : Bool × Editor := (ed.host.look.1, { ed with host := ed.host.look.2 })

/-- Show a message. -/
def tell (ed : Editor) (t : Text) : Editor := { ed with host := ed.host.tell t }

/-- Log a command. -/
def log (ed : Editor) (c : Command) : Editor := { ed with host := { ed.host with log := c :: ed.host.log } }

/-- Put another last search in place. -/
def setLastSearch (ed : Editor) (pattern : Option Text) : Editor :=
  { ed with context := { ed.context with lastSearch := pattern } }

/-- Remember a pattern as the last search, unless a jump to a tag is under way. -/
def rememberSearch (ed : Editor) (pattern : Text) : Editor :=
  if ed.session.tagJump then ed else ed.setLastSearch (some pattern)

/-- How addresses search. -/
def searchRule (ed : Editor) : Address.SearchRule where
  ignoreCase := ed.context.settings.ignoreCase
  wrapScan := ed.context.settings.wrapScan
  remember := !ed.session.tagJump

/-- The range that a text writes, or `default` if it is blank. Searches and semicolons in it move the
cursor and the last search, also if it fails. -/
def resolveRange (ed : Editor) (t default : Text) : Except Failure AddressRange × Editor :=
  let ((range, lastSearch), frame) :=
    Address.resolveRange ed.frame ed.searchRule ed.context.lastSearch (if t.isBlank then default else t)
  (range, (ed.mapFrame fun _ => frame).setLastSearch lastSearch)

/-- The line that a destination writes, which may be 0. -/
def resolveDestination (ed : Editor) (t : Text) : Except Failure Nat × Editor :=
  if t.isBlank then (.error (.malformed .missingDestination), ed)
  else
    let (line, lastSearch) :=
      Address.resolve ed.frame ed.searchRule true ed.context.lastSearch t
    (line, ed.setLastSearch lastSearch)

/-- The editor after a change, or as it was if the change failed. -/
def settle (ed : Editor) : Change → Result
  | .ok result => result
  | .error failure => (ed, .failure failure)

end Editor

/-- Lines, counted from 0, of a range that is valid in a frame that may be edited. -/
def AddressRange.editable (r : AddressRange) (f : Frame) : Except Failure (Nat × Nat) := do
  let lines ← r.checked
  if f.isEditable then return lines else throw .notEditable

/-- A count of what was done to some lines, shown only if there were several. -/
def reportLines (count : Nat) (done : Text) : Outcome :=
  if 1 < count then .message (plural count "line" ++ ' ' :: done) else .success

end ExEditor
