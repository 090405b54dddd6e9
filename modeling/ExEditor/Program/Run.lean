import ExEditor.Program.Arguments
import ExEditor.Session.Execute

/-! A run of the program: command lines from the standard input are executed on a file, which is then
written back. The run is a function of what the program finds, so that everything it does can be
reasoned about. -/
namespace ExEditor
namespace Program

/-- What a run finds. -/
structure Setting where
  arguments : List Text := []
  /-- Lines of the standard input; `none` is one that is no text. -/
  input : List (Option Text) := []
  files : FileTree := {}
  environment : List (Text × Text) := []
  now : Clock := {}

/-- What a run leaves. -/
structure Completed where
  exitCode : Nat
  output : Text := []
  /-- What is shown to explain a failure. -/
  complaint : Text := []
  files : FileTree

/-- Why a run ends early. -/
inductive RunFault
  | unreadable (path : Text)
  | inputNotText
  | noBackup (path : Text)
  | unwritable (path : Text)
  | storeNotSaved
  deriving DecidableEq, Repr

/-- The fault as shown. -/
def RunFault.message : RunFault → Text
  | unreadable path => "failed to read " ++ path
  | inputNotText => "failed to read stdin"
  | noBackup path => "failed to back up " ++ path
  | unwritable path => "failed to write " ++ path
  | storeNotSaved => "failed to save the store"

/-- Directory of the user's settings. -/
def configDirectory? (environment : List (Text × Text)) : Option Text :=
  match environment.lookup "XDG_CONFIG_HOME".toList with
  | some path => if Path.isAbsolute path then some path else home?
  | none => home?
where
  home? : Option Text :=
    ((environment.lookup "HOME".toList).filter (· ≠ [])).map fun home => Path.join home ".config"

/-- Path of the store, none if the store is to be kept in memory. -/
def storePath? (environment : List (Text × Text)) (a : Arguments) : Option Text :=
  if a.noStore then none
  else a.store.orElse fun _ =>
    (configDirectory? environment).map fun directory =>
      Path.join (Path.join directory "vicmd") "macros.json"

/-- The shelf that a run begins with. A store that cannot be loaded is left alone. -/
def openShelf (s : Setting) (a : Arguments) : Shelf :=
  let shelf : Shelf := { path := storePath? s.environment a, files := s.files }
  match shelf.load with
  | .ok loaded => loaded
  | .error _ => shelf

/-- The text of the file to edit. -/
def readFile (files : FileTree) (a : Arguments) : Except RunFault Text :=
  match a.file with
  | none => .ok []
  | some path =>
    match files.readText path with
    | .ok t => .ok t
    | .error fault => if a.create && fault == .notFound then .ok [] else .error (.unreadable path)

/-- The editor that a run begins with. Questions are answered with yes, and a shell runs commands. -/
def openEditor (s : Setting) (a : Arguments) (shelf : Shelf) (t : Text) : Editor where
  session :=
    { frame := { Frame.ofText t with readOnly := a.readOnly }
      filename := a.file
      cwd := s.files.workDir }
  context := { registers := { shelf } }
  host :=
    { environment := s.environment
      now := s.now
      unanswered := .yes
      withoutProcess := .shell }

/-- Execute lines up to the first failure, and say whether there was one. -/
def executeLines : List (Option Text) → Editor → Except RunFault Bool × Editor
  | [], ed => (.ok false, ed)
  | none :: _, ed => (.error .inputNotText, ed)
  | some line :: rest, ed =>
    match ed.execute line with
    | (ed, .failure _) => (.ok true, ed)
    | (ed, _) => executeLines rest ed

/-- Execute the first script and then the lines of the standard input. -/
def executeAll (s : Setting) (a : Arguments) (ed : Editor) : Except RunFault Bool × Editor :=
  executeLines ((a.initScript.map fun script => some ("so ".toList ++ script)).toList ++ s.input) ed

/-- Where the version of a file from before it is written is kept. -/
def backupPath (path : Text) : Text := path ++ ['~', '1']

/-- Keep the present version of a file, and write the new one. -/
def writeBack (files : FileTree) (path t : Text) : Except RunFault FileTree := do
  let files ←
    if files.has path then
      match files.rename path (backupPath path) with
      | .ok files => pure files
      | .error _ => throw (.noBackup path)
    else pure files
  match files.write path (.text t) with
  | .ok files => return files
  | .error _ => throw (.unwritable path)

/-- What is said about a file that has been written. -/
def writtenMessage (path t : Text) : Text :=
  path ++ " written (".toList ++ plural t.rows.length "line" ++ ").".toList

/-- Write the file back after lines that have all succeeded, unless it was opened to be read. -/
def keepFile (a : Arguments) (ed : Editor) : Except RunFault (FileTree × List Text) :=
  match a.file with
  | some path =>
    if a.readOnly then .ok (ed.shelf.files, [])
    else
      (writeBack ed.shelf.files path ed.frame.text).map fun files =>
        (files, [writtenMessage path ed.frame.text])
  | none => .ok (ed.shelf.files, [])

/-- A run that ends early. -/
def abandon (fault : RunFault) (shown : List Text) (files : FileTree) : Completed :=
  { exitCode := 1, output := shown.flatMap (· ++ ['\n']), complaint := "Error: " ++ fault.message, files }

/-- Save the store at the end of a run. -/
def closeShelf (shelf : Shelf) (failed : Bool) (shown : List Text) : Completed :=
  match shelf.save with
  | (.ok _, saved) =>
    { exitCode := if failed then 1 else 0, output := shown.flatMap (· ++ ['\n']), files := saved.files }
  | (.error _, saved) => abandon .storeNotSaved shown saved.files

/-- What is shown last if a command failed. -/
def failureNotice : Text := '\x07' :: "COMMAND FAILED"

/-- Edit a file. -/
def edit (s : Setting) (a : Arguments) : Completed :=
  let shelf := openShelf s a
  match readFile shelf.files a with
  | .error fault => abandon fault [] shelf.files
  | .ok t =>
    match executeAll s a (openEditor s a shelf t) with
    | (.error fault, ed) => abandon fault ed.host.messages ed.shelf.files
    | (.ok true, ed) => closeShelf ed.shelf true (ed.host.messages ++ [failureNotice])
    | (.ok false, ed) =>
      match keepFile a ed with
      | .error fault => abandon fault ed.host.messages ed.shelf.files
      | .ok (files, notice) => closeShelf { ed.shelf with files } false (ed.host.messages ++ notice)

/-- Run the program. -/
def run (s : Setting) : Completed :=
  match readArguments s.arguments with
  | .error fault => { exitCode := 2, complaint := "error: " ++ fault.message, files := s.files }
  | .ok .help => { exitCode := 0, output := helpText, files := s.files }
  | .ok .version => { exitCode := 0, output := versionText, files := s.files }
  | .ok (.edit a) => edit s a

end Program
end ExEditor
