import ExEditor.Session.LineVerbs
import ExEditor.Session.Nested
import ExEditor.Session.StateVerbs

/-! Carrying out command lines. A line is one step to undo, whatever it runs. -/
namespace ExEditor
namespace Editor

/-- Carry out something on the range of a command, or on the one that `default` writes. -/
def onRange (ed : Editor) (c : Command) (default : Text) (action : Editor → AddressRange → Result) :
    Result :=
  match ed.resolveRange c.range default with
  | (.error failure, ed) => (ed, .failure failure)
  | (.ok r, ed) => action ed r

/-- Make a change on the range of a command. -/
def changeRange (ed : Editor) (c : Command) (default : Text)
    (change : Editor → AddressRange → Change) : Result :=
  ed.onRange c default fun ed r => ed.settle (change ed r)

/-- Make a change on the range of a command with a destination, which is resolved after the range. -/
def changeTo (ed : Editor) (c : Command) (change : Editor → AddressRange → Nat → Change) : Result :=
  ed.onRange c ['.'] fun ed r =>
    match ed.resolveDestination c.text with
    | (.error failure, ed) => (ed, .failure failure)
    | (.ok destination, ed) => ed.settle (change ed r destination)

/-- Whether a command is for the place before the first line. -/
def isBeforeFirst (c : Command) : Bool := c.range == ['0']

/-- Enter the text of a command. Before the first line there is nothing to append to. -/
def enter (ed : Editor) (c : Command) (placement : Placement) : Result :=
  if isBeforeFirst c && placement != .change then
    ed.settle (ed.enterText (.ofLines ed.frame 1 1) .insert c.text)
  else ed.changeRange c ['.'] fun ed r => ed.enterText r placement c.text

/-- Put a register after the last line of the range, or before the first line. -/
def putAt (ed : Editor) (c : Command) : Result :=
  if isBeforeFirst c then ed.settle (ed.put 0 c.text)
  else
    ed.changeRange c ['.'] fun ed r => do
      discard r.checked
      ed.put r.last.line c.text

/-- Carry out a command. `run` runs the lines that it leads to. -/
def dispatch (run : Runner) (running : Running) (c : Command) (ed : Editor) : Result :=
  let t := c.text
  match c.verb with
  | .goto => ed.changeRange c ['.'] goto
  | .append => ed.enter c .append
  | .insert => ed.enter c .insert
  | .change => ed.enter c .change
  | .delete => ed.changeRange c ['.'] fun ed r => ed.delete r t
  | .yank => ed.changeRange c ['.'] fun ed r => ed.yank r t
  | .put => ed.putAt c
  | .copy => ed.changeTo c copy
  | .move => ed.changeTo c move
  | .join => ed.changeRange c ['.'] fun ed r => ed.join r c.bang
  | .print => ed.changeRange c ['.'] fun ed r => ed.print r false
  | .number => ed.changeRange c ['.'] fun ed r => ed.print r true
  | .lineNumber => ed.changeRange c ['$'] showLineNumber
  | .mark => ed.changeRange c ['.'] fun ed r => ed.setMark r t
  | .shift forward count => ed.changeRange c ['.'] fun ed r => ed.shift r forward count
  | .sort => ed.changeRange c ['%'] fun ed r => ed.sort r t
  | .bang => if c.range = [] then ed.shell t else ed.onRange c ['.'] fun ed r => ed.filter r t
  | .substitute => ed.changeRange c ['.'] fun ed r => ed.substitute r t
  | .repeatSubstitute keepFlags =>
    ed.changeRange c ['.'] fun ed r => ed.repeatSubstitution r t keepFlags
  | .repeatWithSearch => ed.changeRange c ['.'] fun ed r => ed.repeatWithSearch r t
  | .global invert => ed.onRange c ['%'] fun ed r => global run running r t invert ed
  | .play => playCommand run running c.range t ed
  | .cd => ed.settle (ed.changeDirectory t)
  | .pwd => (ed, .message ed.session.cwd)
  | .source => source run running t ed
  | .syntaxState => ed.settle (ed.switchHighlight t)
  | .registers => (ed, ed.listRegisters)
  | .marks => (ed, ed.listMarks)
  | .set => ed.setOptions t
  | .abbreviate => ed.settle (ed.abbreviate t)
  | .unabbreviate => ed.settle (ed.unabbreviate t)
  | .map => ed.settle (ed.mapKeys t)
  | .unmap => ed.settle (ed.unmapKeys t)
  | .undo => ed.undo
  | .noHighlight => ed.clearHighlight
  | .record => ed.settle (ed.startRecording t)
  | .stop => ed.settle ed.stopRecording

/-- Parse a command line and carry it out. -/
def runParsed (run : Runner) (running : Running) (line : Text) (ed : Editor) : Result :=
  match Command.parse line with
  | .error failure => (ed, .failure failure)
  | .ok none => (ed, .success)
  | .ok (some c) =>
    let ed := ed.log c
    if !c.verb.takesRange && c.range ≠ [] then
      (ed, .failure (.malformed (.rangeRefused c.verb.label)))
    else dispatch run running c ed

/-- Run a command line inside what is under way. The first argument bounds how deep lines nest. -/
def runLine : Nat → Runner
  | 0, _, _, ed => (ed, .failure (.recursion .tooDeep))
  | n + 1, running, line, ed =>
    let inner := { running with invoking := running.invoking ++ [line] }
    let (ed, outcome) := runParsed (runLine n) inner line (ed.mapFrame Frame.openGroup)
    (ed.mapFrame Frame.closeGroup, outcome)

/-- How deep lines can nest: a macro or a script is not run inside itself and a global command only
once, and besides the macros that are kept no more can come to be than registers, which are 40. -/
def nestingBound (ed : Editor) : Nat := ed.shelf.store.macros.length + ed.shelf.files.entries.length + 48

/-- Take back a cancellation. -/
def resume (ed : Editor) : Editor := { ed with host := { ed.host with cancelled := false } }

/-- Record a command if a recording is under way. -/
def record (ed : Editor) (command : Text) (complete : Bool) : Editor :=
  ed.setRecorder (ed.session.recorder.record command complete)

/-- Show the result of a command. -/
def report (ed : Editor) (outcome : Outcome) : Editor := outcome.shown.elim ed ed.tell

/-- Execute a command line as typed. It is recorded if it succeeds and a recording is under way before
and after it. -/
def execute (ed : Editor) (line : Text) : Result :=
  let (after, outcome) := runLine ed.nestingBound {} line ed.resume
  let recorded :=
    ed.session.recorder.isSome && after.session.recorder.isSome && !outcome.isFailure
  ((if recorded then after.record line true else after).report outcome, outcome)

/-- Play a macro outside of any command. -/
def playMacro (ed : Editor) (name : Text) (count : Int) : Result :=
  play (runLine ed.nestingBound) {} name count ed

end Editor
end ExEditor
