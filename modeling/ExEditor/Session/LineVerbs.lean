import ExEditor.Frame.Edit
import ExEditor.Frame.Sort
import ExEditor.Session.Basic
import ExEditor.Substitution.Run

/-! Verbs that act on the lines of a range. Each looks at its range first, and fails without having
changed anything. -/
namespace ExEditor

/-- The register and the count that `d`, `y` and `pu` may be followed by. A count of 0 is none. -/
def readRegisterAndCount (t : Text) : Except Failure (Option RegisterName × Option Nat) := do
  let t := t.trim
  let (register, rest) ← (match t with
    | c :: rest =>
      if c.isDigit then .ok (none, t)
      else
        match RegisterName.ofChar? c with
        | some name => .ok (some name, Text.trimStart rest)
        | none => .error (.malformed (.invalidRegister c))
    | [] => .ok (none, []) : Except Failure (Option RegisterName × Text))
  if rest = [] then return (register, none)
  match rest.readWord? with
  | some n => return (register, if n = 0 then none else some n)
  | none => throw (.malformed (.trailingCharacters rest))

/-- As many lines as counted from the last line of a range, or the range itself without a count. -/
def AddressRange.counted (r : AddressRange) (f : Frame) : Option Nat → AddressRange
  | some count => if r.isValid then .ofLines f r.last.line (r.last.line + (count - 1)) else r
  | none => r

namespace Editor

/-- Go to the last line of the range. -/
def goto (ed : Editor) (r : AddressRange) : Change := do
  let (_, last) ← r.checked
  return (ed.mapFrame (·.goToLine last), .success)

/-- Delete lines into a register. -/
def delete (ed : Editor) (r : AddressRange) (arguments : Text) : Change := do
  let (register, count) ← readRegisterAndCount arguments
  let (first, last) ← (r.counted ed.frame count).editable ed.frame
  let t := ed.frame.linesText first last
  let ed := (ed.mapRegisters (·.delete register t)).mapFrame (·.deleteLines first last)
  return (ed, reportLines (last - first + 1) "deleted")

/-- Yank lines into a register. -/
def yank (ed : Editor) (r : AddressRange) (arguments : Text) : Change := do
  let (register, count) ← readRegisterAndCount arguments
  let (first, last) ← (r.counted ed.frame count).checked
  let t := ed.frame.linesText first last
  return (ed.mapRegisters (·.yank register t), reportLines (last - first + 1) "yanked")

/-- Put the text of a register after a line. -/
def put (ed : Editor) (line : Nat) (arguments : Text) : Change := do
  let (register, _) ← readRegisterAndCount arguments
  if !ed.frame.isEditable then throw .notEditable
  let t := ed.context.registers.get (register.getD .clipboard)
  if t = [] then throw (.malformed .nothingToPut)
  return (ed.mapFrame (·.putAndFollow line t), reportLines (Frame.putCount t) "put")

/-- Where `a`, `i` and `c` put their text. -/
inductive Placement
  | append
  | insert
  | change
  deriving DecidableEq, Repr

/-- A text with each word that is an abbreviation expanded. -/
def expandAbbreviations (abbreviations : Table Text) (t : Text) : Text :=
  (Text.splitAfter Unicode.isBlank t).flatMap fun piece =>
    let word := Text.trimEnd piece
    match abbreviations.find? word with
    | some expansion => expansion ++ piece.drop word.length
    | none => piece

/-- Lines with a text put after, before or in place of them. -/
def placeText (f : Frame) (first last : Nat) (t : Text) : Placement → Frame
  | .append => f.insertLine (last + 1) t
  | .insert => f.insertLine first t
  | .change => f.changeLines first last t

/-- Put a line of text at a range. -/
def enterText (ed : Editor) (r : AddressRange) (placement : Placement) (t : Text) : Change := do
  let (first, last) ← r.editable ed.frame
  let t := expandAbbreviations ed.shelf.store.abbreviations t
  let ed := (ed.mapRegisters (·.inserted t)).mapFrame fun f => placeText f first last t placement
  return (ed, .success)

/-- Copy lines to a destination. -/
def copy (ed : Editor) (r : AddressRange) (destination : Nat) : Change := do
  let (first, last) ← r.editable ed.frame
  let count := Frame.putCount (ed.frame.linesText first last)
  return (ed.mapFrame (·.copyLines first last destination), reportLines count "copied")

/-- Move lines to a destination that is not among them. -/
def move (ed : Editor) (r : AddressRange) (destination : Nat) : Change := do
  let (first, last) ← r.editable ed.frame
  if r.first.line ≤ destination ∧ destination ≤ r.last.line then throw .invalidRange
  return (ed.mapFrame (·.moveLines first last destination), reportLines (last - first + 1) "moved")

/-- Join the lines of a range, or one line with the next. -/
def join (ed : Editor) (r : AddressRange) (asIs : Bool) : Change := do
  let (first, last) ← r.editable ed.frame
  let lineCount := ed.frame.lineCount?.getD (last + 1)
  let last := if first = last then last + 1 else last
  if lineCount ≤ last then throw .invalidRange
  return (ed.mapFrame (·.joinLines first last asIs), .success)

/-- A line with its number, counted from 1, in front. -/
def numberedLine (f : Frame) (line : Nat) : Text :=
  Text.padStart 6 (Text.ofNat (line + 1)) ++ ' ' :: f.line line

/-- Show lines. -/
def print (ed : Editor) (r : AddressRange) (numbered : Bool) : Change := do
  let (first, last) ← r.checked
  let shownLine := if numbered then numberedLine ed.frame else ed.frame.line
  let shown := Text.join ['\n'] ((Frame.lineRange first last).map shownLine)
  return (ed.mapFrame (·.goToLine last), .message shown)

/-- Show the number of the last line of a range. -/
def showLineNumber (ed : Editor) (r : AddressRange) : Change := do
  let (_, last) ← r.checked
  return (ed, .message (Text.ofNat (last + 1)))

/-- Mark the last line of a range. -/
def setMark (ed : Editor) (r : AddressRange) (name : Text) : Change := do
  let (_, last) ← r.checked
  let id : Option MarkId := match name.trim with
    | [c] => MarkId.named? c
    | _ => none
  match id with
  | some id => return (ed.mapFrame fun f => f.setMark id (f.lineStart last), .success)
  | none => throw (.malformed (.invalidMarkName name.trim))

/-- Indent or outdent lines. -/
def shift (ed : Editor) (r : AddressRange) (forward : Bool) (count : Nat) : Change := do
  let (first, last) ← r.editable ed.frame
  let settings := ed.context.settings
  let change :=
    if forward then Frame.indentLine (List.replicate count settings.indentUnit).flatten
    else Frame.outdentLine (settings.shiftWidth * count) settings.shiftWidth
  return (ed.mapFrame (·.eachLine change first last), reportLines (last - first + 1) "shifted")

/-- Sort lines. -/
def sort (ed : Editor) (r : AddressRange) (arguments : Text) : Change := do
  let options ← SortOptions.read arguments
  let (first, last) ← r.editable ed.frame
  let removed := last - first + 1 - (ed.frame.sortedTexts options first last).length
  let outcome :=
    if 0 < removed then .message (plural removed "duplicate line" ++ " removed") else Outcome.success
  return (ed.mapFrame (·.sortLines options first last), outcome)

/-! Running shell commands: alone, or as filters of lines. -/

/-- Run a command in the directory of the session. A complaint of the command is a failure. -/
def runShell (ed : Editor) (command : Text) (file : Option Text) : Except Failure Text × Editor :=
  let (result, host, files) := ed.host.run ed.shelf.files command ed.session.cwd file
  let ed := { ed with host }.setShelf { ed.shelf with files }
  match result with
  | .refused reason => (.error (.process reason), ed)
  | .output o =>
    match o.complaint? with
    | some complaint => (.error (.process complaint), ed)
    | none => (.ok o.stdout, ed)

/-- Run a command and show its output. -/
def shell (ed : Editor) (command : Text) : Result :=
  let command := command.trim
  if command = [] then (ed, .failure (.malformed .missingShellCommand))
  else
    match ed.runShell command none with
    | (.error failure, ed) => (ed, .failure failure)
    | (.ok output, ed) =>
      (ed, if output.trimEnd = [] then .success else .message output.trimEnd)

/-- The output of a filter as it takes the place of lines. It ends in a break if they did, unless
there is none of it. -/
def filtered (f : Frame) (input output : Text) : Text :=
  if input.endsInBreak && output ≠ [] && output.getLast? ≠ some '\n' then output ++ f.eol else output

/-- Put the output of a command, which reads the lines of a range from a file, in their place. -/
def filter (ed : Editor) (r : AddressRange) (command : Text) : Result :=
  let checked : Except Failure (Nat × Nat) := do
    let lines ← r.editable ed.frame
    if command.trim = [] then throw (.malformed .missingFilterCommand)
    return lines
  match checked with
  | .error failure => (ed, .failure failure)
  | .ok (first, last) =>
    let (start, stop) := ed.frame.linesSpan first last
    let input := ed.frame.slice start stop
    match ed.runShell command.trim (some input) with
    | (.error failure, ed) => (ed, .failure failure)
    | (.ok output, ed) =>
      (ed.mapFrame fun f => (f.replace start stop (filtered f input output)).goToLine first,
        .message (plural (last - first + 1) "line" ++ " filtered".toList))

/-! The verbs that substitute: `s`, its repetitions `&` and `&&`, and `~`. -/

/-- Carry out a substitution, which becomes the last one. -/
def runSubstitution (ed : Editor) (r : AddressRange) (s : Substitution) : Change := do
  let (first, last) ← r.editable ed.frame
  let m ← s.matcher ed.context.settings.ignoreCase
  let p := s.run m first last ed.frame ed.host
  let ed := { ed.mapFrame (fun _ => p.frame) with host := p.host }
  let ed := ed.rememberSearch s.pattern
  let ed := { ed with context := { ed.context with lastSubstitution := some s } }
  return (ed, .message
    ("Replaced: " ++ Text.ofNat p.count ++ " occurrences of: ".toList ++ s.pattern))

/-- Repeat the last substitution, with its own flags or with others. -/
def repeatSubstitution (ed : Editor) (r : AddressRange) (flags : Text) (keepFlags : Bool) : Change :=
  match ed.context.lastSubstitution with
  | none => .error (.malformed .noPreviousSubstitution)
  | some s => do
    let flags ← if keepFlags then .ok s.flags else SubstituteFlags.read flags
    ed.runSubstitution r { s with flags }

/-- Repeat the last substitution with the last search as its pattern. -/
def repeatWithSearch (ed : Editor) (r : AddressRange) (flags : Text) : Change :=
  match ed.context.lastSubstitution, ed.context.lastSearch with
  | none, _ => .error (.malformed .noPreviousSubstitution)
  | some _, none => .error (.malformed .noPreviousSearch)
  | some s, some pattern => do
    let flags ← SubstituteFlags.read flags
    ed.runSubstitution r { s with pattern, flags }

/-- Substitute as a text writes it, or repeat the last substitution without flags if it is blank. -/
def substitute (ed : Editor) (r : AddressRange) (t : Text) : Change :=
  if t.isBlank then ed.repeatSubstitution r [] false
  else do
    let s ← Substitution.parse t (ed.context.lastSubstitution.map (·.replacement))
    ed.runSubstitution r s

end Editor
end ExEditor
