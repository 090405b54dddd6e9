import ExEditor.Session.Basic
import ExEditor.Variable.Expand

/-! What happens to a session outside of command lines: changes of mode, typed text, and variables. -/
namespace ExEditor
namespace Editor

/-- Put another mode in place, which leaving or entering insert modes goes along with. What was typed
is kept in the register for insertions when inserting ends, and forgotten when it begins. -/
def handleMode (ed : Editor) (event : ModeEvent) : Editor × Bool :=
  let step := ed.session.modes.handle event ed.frame
  let moved := { ed with session := { ed.session with modes := step.state, frame := step.frame } }
  match step.changed with
  | none => (moved, false)
  | some (source, target) =>
    let typed := ed.session.inserted
    let kept :=
      if source.isInsert && typed ≠ [] then moved.mapRegisters (·.inserted typed) else moved
    let inserted := if target.isInsert then [] else typed
    ({ kept with session := { kept.session with inserted } }, true)

/-- Why text was not typed. -/
inductive TypingFault
  /-- Keys are commands. -/
  | notInserting
  /-- The cursor stands inside a line break, past the end of its line, so there is nothing to type
  over. -/
  | insideBreak
  deriving DecidableEq, Repr

/-- How many characters up to the end of its line stand at the cursor or behind it. -/
def room? (f : Frame) : Option Nat :=
  let stop := f.lineEnd f.cursorLine
  if f.cursor ≤ stop then some (stop - f.cursor) else none

/-- Put typed text over what is there. No more is taken away than the line has, and nothing for what
follows a line feed. -/
def overtype (f : Frame) (t : Text) : Option Frame :=
  (room? f).map fun room =>
    f.replace f.cursor (f.cursor + min (t.takeWhile (· ≠ '\n')).length room) t

/-- Type text at the cursor. -/
def typeText (ed : Editor) (t : Text) : Except TypingFault Editor :=
  if !ed.session.modes.mode.isInsert then .error .notInserting
  else
    let cursor := ed.frame.cursor
    let typed :=
      if ed.session.modes.isOvertype then overtype ed.frame t else some (ed.frame.insert cursor t)
    match typed with
    | none => .error .insideBreak
    | some frame =>
      let frame := frame.setCursor (cursor + t.length)
      .ok { ed with session := { ed.session with frame, inserted := ed.session.inserted ++ t } }

/-- Expand a variable by its name. -/
def expandVariable (ed : Editor) (name : Text) : Except Failure Text × Editor :=
  let context : ExpansionContext :=
    { settings := ed.context.settings, filename := ed.session.filename, cwd := ed.session.cwd }
  let (result, state) := Variable.expand context name { shelf := ed.shelf, host := ed.host }
  (result, { ed with host := state.host }.setShelf state.shelf)

/-- Expand a variable and insert its text at the cursor. -/
def insertVariable (ed : Editor) (name : Text) : Result :=
  if !ed.frame.isEditable then (ed, .failure .notEditable)
  else
    match ed.expandVariable name with
    | (.error failure, ed) => (ed, .failure failure)
    | (.ok t, ed) =>
      let cursor := ed.frame.cursor
      (ed.mapFrame fun f => (f.insert cursor t).setCursor (cursor + t.length), .success)

end Editor
end ExEditor
