import ExEditor.Shell.Run

/-! Running a command text to its end, as another program would: what it writes is caught, and there is
nothing for it to read. -/
namespace ExEditor

/-- What a command that ran has left. -/
structure ProcessOutput where
  stdout : Text := []
  stderr : Text := []
  success : Bool := true
  deriving DecidableEq, Repr

/-- The complaint of a command that wrote to its error output or failed. -/
def ProcessOutput.complaint? (o : ProcessOutput) : Option Text :=
  if !o.stderr.isBlank then some o.stderr.trimEnd
  else if !o.success then some "command failed"
  else none

/-- What comes of running a command: its output, or the reason why it could not be run. -/
inductive ProcessResult
  | output (o : ProcessOutput)
  | refused (reason : Text)
  deriving DecidableEq, Repr

namespace Shell

/-- How many commands may run one inside the other or one after the other. -/
def bound : Nat := 1000000

/-- Number of bytes in the longest command. -/
def commandLimit : Nat := 131071

/-- Names on the way to the file that a filter reads. -/
def scratchNames : List Text := ["tmp", ".tmpExEdit"].map String.toList

/-- The variables that a shell begins with. -/
def startVariables (environment : List (Text × Text)) (directory : Text) : List (Text × Text) :=
  ("PWD".toList, directory) :: (withPath environment).filter (·.1 ≠ "PWD".toList)

/-- Run a command text in a directory. Inside the shell each character stands for one byte. -/
def execute (command : Text) (environment : List (Text × Text)) (directory : Text) (files : FileTree) :
    ProcessOutput × FileTree :=
  let values := startVariables (environment.map fun (name, t) => (name.spread, t.spread)) directory.spread
  let files' := { files with workDir := directory }.map Text.spread Content.spread
  let s : State := { files := files', values, exported := values.map (·.1) }
  let s := atEnd bound (runText bound command.spread s)
  let written (place : Nat) : Text := match s.streams[place]? with
    | some (.text t) => t.gather
    | _ => []
  ({ stdout := written 1, stderr := written 2, success := s.status = 0 && s.flow != .killed },
    { s.files.map Text.gather Content.gather with workDir := files.workDir })

/-- Run a command text in a directory if that can be done. What is in `file` is put into a file, whose
path is the last word of the command. -/
def runProcess (command : Text) (file : Option Text) (environment : List (Text × Text)) (directory : Text)
    (files : FileTree) : ProcessResult × FileTree :=
  let (whole, place) : Text × FileTree := match file with
    | none => (command, files)
    | some t => (command ++ ' ' :: Path.ofNames scratchNames, files.put scratchNames (.file (.text t)))
  let refuse (reason : String) : ProcessResult × FileTree :=
    (.refused ("failed to run ".toList ++ whole ++ ": ".toList ++ reason.toList), files)
  if whole.contains '\x00' then refuse "nul byte found in provided data"
  else if !files.isDirectory directory then refuse "No such file or directory (os error 2)"
  else if whole.utf8Size > commandLimit then refuse "Argument list too long (os error 7)"
  else
    let (o, left) := execute whole environment directory place
    (.output o, if file.isSome then left.removeUnder scratchNames else left)

end Shell
end ExEditor
