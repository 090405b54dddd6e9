import ExEditor.Session.Basic

/-! Verbs that take no range: those that look at or change the directory, the options, the names that
are kept, the history and the recording. -/
namespace ExEditor
namespace Editor

/-- The directory of the user: the one that the environment names, or else that of the account. -/
def home? (ed : Editor) : Option Text :=
  ((ed.host.environment.lookup "HOME".toList).filter (· ≠ [])).orElse fun _ => ed.host.account

/-- Go to a directory, or to that of the user. -/
def changeDirectory (ed : Editor) (t : Text) : Change := do
  let t := t.trim
  let target ←
    if t = [] then
      match ed.home? with
      | some home => pure home
      | none => throw (.malformed .noHomeDirectory)
    else pure (Path.join ed.session.cwd t)
  if !ed.shelf.files.isDirectory target then throw (.io (.notADirectory target))
  let cwd := ed.shelf.files.canonical target
  return ({ ed with session := { ed.session with cwd } }, .success)

/-- Turn highlighting on or off, or say how it is. -/
def switchHighlight (ed : Editor) (t : Text) : Change :=
  let turned (highlight : Bool) : Change :=
    .ok ({ ed with session := { ed.session with highlight } }, .success)
  match String.ofList t.trim with
  | "on" => turned true
  | "off" => turned false
  | "" => .ok (ed, .message ("syntax " ++ (if ed.session.highlight then "on" else "off" : String).toList))
  | _ => .error (.malformed (.syntaxState t.trim))

/-- Lines to show, or what is shown if there are none. -/
def listed (lines : List Text) (otherwise : Text) : Outcome :=
  .message (if lines = [] then otherwise else Text.join ['\n'] lines)

/-- The registers that hold text, with line feeds written `^J`. -/
def listRegisters (ed : Editor) : Outcome :=
  let visible (t : Text) : Text := t.flatMap fun c => if c = '\n' then ['^', 'J'] else [c]
  listed
    (ed.context.registers.listing.map fun (name, t) => '"' :: name :: ' ' :: ' ' :: ' ' :: visible t)
    "no registers"

/-- The named marks with the numbers of their lines. -/
def listMarks (ed : Editor) : Outcome :=
  listed
    (ed.frame.marks.listing.map fun (name, offset) =>
      name :: ' ' :: Text.padStart 6 (Text.ofNat (ed.frame.lineAt offset + 1)))
    "no marks set"

/-- Change options. Those before one that is refused stay changed. -/
def setOptions (ed : Editor) (t : Text) : Result :=
  let (settings, result) := ed.context.settings.apply (if t.isBlank then "all" else t)
  let ed := { ed with context := { ed.context with settings } }
  match result with
  | .ok (some listing) => (ed, .message listing)
  | .ok none => (ed, .success)
  | .error failure => (ed, .failure failure)

/-- A left-hand side, up to the first blank, and the right-hand side after it. -/
def splitDefinition (t : Text) : Text × Text :=
  match Text.splitFirst? Unicode.isBlank t.trim with
  | some (lhs, rhs) => (lhs, rhs.trimStart)
  | none => (t.trim, [])

/-- Definitions as they are listed. -/
def definitionLines (definitions : List (Text × Text)) : List Text :=
  definitions.map fun (lhs, rhs) => lhs ++ ' ' :: ' ' :: rhs

/-- Make an abbreviation, or list those there are. -/
def abbreviate (ed : Editor) (t : Text) : Change :=
  let store := ed.shelf.store
  match splitDefinition t with
  | ([], _) => .ok (ed, listed (definitionLines store.abbreviations) "no abbreviations")
  | (lhs, []) => .error (.malformed (.missingExpansion lhs))
  | (lhs, rhs) => .ok (ed.updateStore (store.setAbbreviation lhs rhs), .success)

/-- Remove an abbreviation. -/
def unabbreviate (ed : Editor) (t : Text) : Change :=
  match ed.shelf.store.removeAbbreviation? t.trim with
  | some store => .ok (ed.updateStore store, .success)
  | none => .error (.malformed (.noSuchAbbreviation t.trim))

/-- Make a mapping, or list those there are. -/
def mapKeys (ed : Editor) (t : Text) : Change :=
  let store := ed.shelf.store
  match splitDefinition t with
  | ([], _) => .ok (ed, listed (definitionLines store.mappings.listing) "no mappings")
  | (lhs, []) => .error (.malformed (.missingRightHandSide lhs))
  | (lhs, rhs) => .ok (ed.updateStore (store.setMapping lhs rhs), .success)

/-- Remove a mapping. -/
def unmapKeys (ed : Editor) (t : Text) : Change :=
  match ed.shelf.store.removeMapping? t.trim with
  | some store => .ok (ed.updateStore store, .success)
  | none => .error (.malformed (.noSuchMapping t.trim))

/-- Go back by one step of the history. -/
def undo (ed : Editor) : Result :=
  let (frame, undone) := ed.frame.undo
  (ed.mapFrame fun _ => frame, if undone then .success else .message "already at oldest change")

/-- Take back the selection, as after a search. -/
def clearHighlight (ed : Editor) : Result :=
  (ed.mapFrame fun f => f.select (.caret f.cursor), .success)

/-- Put another recorder in place. -/
def setRecorder (ed : Editor) (recorder : Recorder) : Editor :=
  { ed with session := { ed.session with recorder } }

/-- Begin to record commands into a macro. -/
def startRecording (ed : Editor) (t : Text) : Change := do
  let (recording, shelf) ← ed.session.recorder.start ed.shelf t.trim
  return ((ed.setRecorder (some recording)).setShelf shelf, .message ("recording " ++ recording.name))

/-- End the recording, and store what was recorded. -/
def stopRecording (ed : Editor) : Change :=
  match ed.session.recorder with
  | none => .error (.malformed .notRecording)
  | some recording =>
    .ok ((ed.setRecorder none).setShelf (recording.keep ed.shelf),
      .message ("recorded " ++ Text.ofNat recording.commands.length ++ " commands into ".toList
        ++ recording.name))

end Editor
end ExEditor
