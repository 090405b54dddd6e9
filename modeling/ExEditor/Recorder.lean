import ExEditor.Failure
import ExEditor.Store.Shelf

/-! Recording commands into a macro. -/
namespace ExEditor

/-- A recording under way. -/
structure Recording where
  name : Text
  /-- Whether the commands are added to those that the macro has. -/
  append : Bool
  commands : List Text := []
  /-- Whether the last command is still being typed. -/
  isOpen : Bool := false
  deriving DecidableEq, Repr

/-- A recorder, with what it is recording. -/
abbrev Recorder := Option Recording

/-- Whether a macro is a register, as those of one character are. -/
def isRegisterMacro (name : Text) : Bool := name.length == 1

namespace Recording

/-- The commands as they are stored: in a register each is one line. -/
def stored (r : Recording) : List Text :=
  if isRegisterMacro r.name then r.commands.map (· ++ ['\n']) else r.commands

/-- Store what was recorded. A recording without commands leaves no macro, or the one it would have
added to. -/
def keep (r : Recording) (shelf : Shelf) : Shelf :=
  match r.stored with
  | [] => if r.append then shelf else (shelf.removeMacro r.name).1
  | commands =>
    if r.append then commands.foldl (fun shelf command => shelf.appendMacro r.name command) shelf
    else shelf.setMacro r.name commands

/-- Add a command. A lone blank is recorded as the command to move right. What follows a command that
is still being typed is joined to it. -/
def add (r : Recording) (command : Text) (complete : Bool) : Recording :=
  let command : Text := if command = [' '] then ['l'] else command
  let commands := match r.isOpen, r.commands.getLast? with
    | true, some last => r.commands.dropLast ++ [last ++ command]
    | _, _ => r.commands ++ [command]
  { r with commands, isOpen := !complete }

end Recording

namespace Recorder

/-- Name of the macro that is being recorded. -/
def name? (r : Recorder) : Option Text := r.map (·.name)

/-- Characters that a macro name may have. -/
def isNameChar (c : Char) : Bool := c.isAlphanum || c = '_'

/-- Start a recording. One capital letter adds to the register of the small letter; any other macro
starts from nothing. -/
def start (r : Recorder) (shelf : Shelf) (name : Text) : Except Failure (Recording × Shelf) :=
  match r with
  | some recording => .error (.malformed (.alreadyRecording recording.name))
  | none =>
    if name = [] || !name.all isNameChar then .error (.malformed (.invalidMacroName name))
    else if isRegisterMacro name && name.all Char.isUpper then
      .ok ({ name := name.toAsciiLower, append := true }, shelf)
    else .ok ({ name, append := false }, (shelf.removeMacro name).1)

/-- Record a command if a recording is under way. -/
def record (r : Recorder) (command : Text) (complete : Bool) : Recorder :=
  r.map fun recording => recording.add command complete

end Recorder
end ExEditor
