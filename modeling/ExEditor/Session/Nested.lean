import ExEditor.Address.Calculator
import ExEditor.Frame.Edit
import ExEditor.Session.Basic

/-! Commands that run other command lines: playing macros, sourcing scripts, and global commands. Each
is given a way to run a line. What is under way is handed on to the lines, so that a macro or script
is not run inside itself. -/
namespace ExEditor
namespace Editor

/-- The lines of a macro: those of a register's text, or the commands kept under a longer name. -/
def macroLines (ed : Editor) (name : Text) : Option (List Text) :=
  match name with
  | [c] => do
    let lines := (ed.context.registers.get (← RegisterName.ofChar? c)).rows
    if lines = [] then none else some lines
  | _ => ed.shelf.store.commands? name

/-- Run the lines of a macro, up to the first that fails. Nothing runs once everything is to stop. -/
def playLines (run : Text → Editor → Result) (name : Text) : List Text → Editor → Result
  | [], ed => (ed, .success)
  | line :: rest, ed =>
    match ed.look with
    | (true, ed) => (ed, .failure .cancelled)
    | (false, ed) =>
      match run line ed with
      | (ed, .failure failure) =>
        (ed.tell ("macro " ++ name ++ " failed at: ".toList ++ line), .failure failure)
      | (ed, _) => playLines run name rest ed

/-- Run the lines of a macro a number of times. -/
def playTimes (run : Text → Editor → Result) (name : Text) (lines : List Text) :
    Nat → Editor → Result
  | 0, ed => (ed, .success)
  | n + 1, ed =>
    match playLines run name lines ed with
    | (ed, .failure failure) => (ed, .failure failure)
    | (ed, _) => playTimes run name lines n ed

/-- The lines of a macro that may be played: it is not being recorded, not playing, and it is there. -/
def playable (running : Running) (ed : Editor) (name : Text) : Except Failure (List Text) :=
  if ed.session.recorder.name? = some name then .error (.recursion (.recordedMacro name))
  else if running.playing.contains name then .error (.recursion (.playingMacro name))
  else
    match ed.macroLines name with
    | none => .error (.malformed (.noSuchMacro name))
    | some lines => .ok lines

/-- Play a macro a number of times. The name of a register may be written with a capital letter. -/
def play (run : Runner) (running : Running) (name : Text) (count : Int) (ed : Editor) : Result :=
  if count ≤ 0 then (ed, .success)
  else
    let name := if isRegisterMacro name then name.toAsciiLower else name
    match playable running ed name with
    | .error failure => (ed, .failure failure)
    | .ok [] => (ed, .success)
    | .ok lines =>
      let inner := { running with playing := running.playing ++ [name] }
      let (ed, outcome) :=
        playTimes (run inner) name lines count.toNat (ed.mapFrame Frame.openGroup)
      (ed.mapFrame Frame.closeGroup, outcome)

/-- Play the macro that a command names, as often as its range text says. -/
def playCommand (run : Runner) (running : Running) (count name : Text) (ed : Editor) : Result :=
  let name := name.trim
  if name = [] then (ed, .failure (.malformed .missingMacroName))
  else if count = [] then play run running name 1 ed
  else
    match Calculator.evaluate ed.frame count with
    | .error failure => (ed, .failure failure)
    | .ok count => play run running name count ed

/-- A line of a script as it is run: without blanks around it and one colon in front. -/
def scriptLine (line : Text) : Text :=
  match line.trim with
  | ':' :: rest => Text.trimStart rest
  | t => t

/-- The lines of a script that are run: those that are not blank and no comments. -/
def scriptLines (script : Text) : List Text :=
  (script.rows.map scriptLine).filter fun line => line ≠ [] && line.head? ≠ some '"'

/-- A command line as compared with the lines of a script. -/
def bareInvocation (line : Text) : Text := Text.trim (line.trim.dropWhile (· = ':'))

/-- Run the lines of a script, up to the first that fails, and show their messages. A line that is
being run already is not run again. -/
def runScript (run : Runner) (running : Running) : List Text → Editor → Result
  | [], ed => (ed, .success)
  | line :: rest, ed =>
    if running.invoking.any fun under => bareInvocation under = line then
      (ed, .failure (.recursion (.scriptLine line)))
    else
      match ed.look with
      | (true, ed) => (ed, .failure .cancelled)
      | (false, ed) =>
        match run running line ed with
        | (ed, .success) => runScript run running rest ed
        | (ed, .message t) => runScript run running rest (ed.tell t)
        | (ed, .failure failure) => (ed, .failure failure)

/-- Run a script. -/
def source (run : Runner) (running : Running) (name : Text) (ed : Editor) : Result :=
  let name := name.trim
  if name = [] then (ed, .failure (.malformed .missingScriptName))
  else
    let path := ed.shelf.files.canonical (Path.join ed.session.cwd name)
    if running.sourcing.contains path then (ed, .failure (.recursion (.sourcing path)))
    else
      match ed.shelf.files.readText path with
      | .error fault => (ed, .failure (.io (.unreadable path fault.reason)))
      | .ok script =>
        runScript run { running with sourcing := running.sourcing ++ [path] } (scriptLines script) ed

/-- A global command in its parts. -/
structure GlobalCommand where
  pattern : Text
  command : Text

/-- A global command as a text writes it. An empty pattern stands for the last search, and an empty
command for `p`. -/
def readGlobal (ed : Editor) (t : Text) : Except Failure GlobalCommand :=
  match t with
  | [] => .error (.malformed .missingGlobalPattern)
  | delimiter :: body =>
    if Unicode.isAlphanumeric delimiter || delimiter = '\\' then
      .error (.malformed .missingGlobalPattern)
    else do
      let (written, command) := (Address.splitAtDelimiter delimiter body).getD (body, [])
      let pattern ← Address.searchPattern ed.context.lastSearch (Address.unescapeDelimiter delimiter written)
      let command := Text.trim command
      return { pattern, command := if command = [] then ['p'] else command }

/-- The lines from one up to another that match, or those that do not. -/
def matchedLines (f : Frame) (m : Matcher) (invert : Bool) (first last : Nat) : List Nat :=
  (((f.lineTexts first last).zipIdx first).filter fun (t, _) => m.isMatch t != invert).map (·.2)

/-- Mark lines, so that each can be found again. -/
def markLines (f : Frame) (lines : List Nat) : Frame :=
  lines.foldl (fun f line => f.setMark (.line line) (f.lineStart line)) f

/-- Remove the marks of lines. -/
def unmarkLines (f : Frame) (lines : List Nat) : Frame :=
  lines.foldl (fun f line => f.unsetMark (.line line)) f

/-- Run a command on each marked line that is still there, up to the first failure, and show the
messages. -/
def visitLines (run : Editor → Result) : List Nat → Editor → Result
  | [], ed => (ed, .success)
  | line :: rest, ed =>
    match ed.look with
    | (true, ed) => (ed, .failure .cancelled)
    | (false, ed) =>
      match ed.frame.mark? (.line line) with
      | none => visitLines run rest ed
      | some offset =>
        match run (ed.mapFrame fun f => (f.unsetMark (.line line)).setCursor offset) with
        | (ed, .success) => visitLines run rest ed
        | (ed, .message t) => visitLines run rest (ed.tell t)
        | (ed, .failure failure) => (ed, .failure failure)

/-- Run a command on the lines of a range that match a pattern, or on those that do not, in a group of
edits. The lines are marked first, so that one that is deleted meanwhile is passed over. -/
def global (run : Runner) (running : Running) (r : AddressRange) (t : Text) (invert : Bool)
    (ed : Editor) : Result :=
  let prepared : Except Failure (GlobalCommand × Matcher × Nat × Nat) := do
    if running.inGlobal then throw (.malformed .nestedGlobal)
    let (first, last) ← r.checked
    let g ← readGlobal ed t
    let m ← searchMatcher ed.context.settings.ignoreCase g.pattern
    return (g, m, first, last)
  match prepared with
  | .error failure => (ed, .failure failure)
  | .ok (g, m, first, last) =>
    let lines := matchedLines ed.frame m invert first last
    let ed := ed.rememberSearch g.pattern
    if lines = [] then (ed, .failure (.unresolved (.patternNotFound g.pattern)))
    else
      let inner := { running with inGlobal := true }
      let (ed, outcome) :=
        visitLines (run inner g.command) lines (ed.mapFrame fun f => (markLines f lines).openGroup)
      (ed.mapFrame fun f => (unmarkLines f lines).closeGroup, outcome)

end Editor
end ExEditor
