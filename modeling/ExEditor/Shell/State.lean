import ExEditor.Disk.FileTree
import ExEditor.Shell.Command

/-! What a shell works on: files, variables, and numbered streams that text is read from and written
to. In all of them each character stands for one byte. -/
namespace ExEditor
namespace Shell

/-- What a stream leads to. Reading a file goes on where the last reading ended, and writing adds to its
end. -/
inductive Stream
  | nothing
  /-- Nothing, and writing to it fails. -/
  | closed
  | text (t : Text)
  | file (path : Text) (offset : Nat)
  deriving DecidableEq, Repr

/-- What is done after a command. -/
inductive Flow
  | onward
  /-- Leave as many loops as the number says. -/
  | leave (loops : Nat)
  /-- Go on with the next round of the loop that has so many loops inside. -/
  | next (loops : Nat)
  | fromFunction
  | exited
  | killed
  deriving DecidableEq, Repr

/-- A shell. -/
structure State where
  /-- The files, seen from the directory that the shell is in. -/
  files : FileTree := {}
  values : List (Text × Text) := []
  exported : List Text := []
  functions : List (Text × Command) := []
  /-- The name that the shell was started by. -/
  name : Text := "sh"
  parameters : List Text := []
  status : Nat := 0
  flow : Flow := .onward
  streams : List Stream := [.nothing, .text [], .text []]
  /-- The stream that a number stands for. -/
  places : List (Nat × Nat) := [(0, 0), (1, 1), (2, 2)]
  /-- Letters of the ways to run commands that are set. -/
  options : List Char := []
  /-- Whether the status of the present command is looked at, so that a failure does not end the
  shell. -/
  guarded : Bool := false
  /-- Variables that may not be changed. -/
  constants : List Text := []
  /-- What variables held before the present function took them for its own; none outside of
  functions. -/
  shadowed : Option (List (Text × Option Text)) := none
  /-- What is run when a signal comes, and at the end. -/
  traps : List (Text × Text) := []
  aliases : List (Text × Text) := []
  /-- The script that is being read, as it is named in complaints. -/
  script : Text := []
  /-- How many letters of the present word of options have been looked at. -/
  optionOffset : Nat := 0
  /-- Number of line ends in the text that is being read and in front of it. -/
  lineEnds : Nat := 0
  /-- The line of the present command. -/
  line : Nat := 1

/-- Variables with the directories that programs are looked for in as the first of them. -/
def withPath (values : List (Text × Text)) : List (Text × Text) :=
  let path := "PATH".toList
  let value := (values.lookup path).getD "/usr/local/sbin:/usr/local/bin:/usr/sbin:/usr/bin:/sbin:/bin".toList
  (path, value) :: values.filter (·.1 ≠ path)

namespace State

/-- The number of the process that runs the shell. -/
def process : Text := "4242"

/-- The stream that a number stands for. -/
def stream? (s : State) (number : Nat) : Option Stream :=
  (s.places.lookup number).bind fun place => s.streams[place]?

/-- Put another stream in the place of the one that a number stands for. -/
def setStream (s : State) (number : Nat) (stream : Stream) : State :=
  match s.places.lookup number with
  | some place => { s with streams := s.streams.set place stream }
  | none => s

/-- Let a number stand for a stream. -/
def place (s : State) (number place : Nat) : State :=
  { s with places := (number, place) :: s.places.filter (·.1 ≠ number) }

/-- Let a number stand for a new stream. -/
def openStream (s : State) (number : Nat) (stream : Stream) : State :=
  { s with streams := s.streams ++ [stream] }.place number s.streams.length

/-- The text of a file. -/
def textOf (s : State) (path : Text) : Except FileFault Text := do
  match ← s.files.at? path with
  | .directory => throw .isADirectory
  | .file (.text t) => return t
  | .file (.bytes bs) => return bs.map fun byte => Char.ofNat byte.toNat

/-- Path of the file that stays empty whatever is written to it. -/
def nullPath : Text := "/dev/null"

/-- The files after content has been put into one of them. -/
def store (s : State) (path : Text) (content : Content) : Except FileFault FileTree :=
  if path = nullPath then .ok s.files else s.files.write path content

/-- Put a text into a file. What cannot be written is lost. -/
def writeFile (s : State) (path t : Text) : State :=
  { s with files := (s.store path (.text t)).toOption.getD s.files }

/-- Write a text to a numbered stream. -/
def write (s : State) (number : Nat) (t : Text) : State :=
  match s.stream? number with
  | some (.text old) => s.setStream number (.text (old ++ t))
  | some (.file path _) => s.writeFile path ((s.textOf path).toOption.getD [] ++ t)
  | _ => s

/-- Whether nothing can be written to the output. -/
def isMute (s : State) : Bool := s.stream? 1 = some .closed

/-- Write a text to the output. -/
def emit (s : State) (t : Text) : State := s.write 1 t

/-- Write a line to the error output. -/
def complain (s : State) (t : Text) : State := s.write 2 (t ++ ['\n'])

/-- Write a complaint of the shell itself to the error output. -/
def complainOf (s : State) (t : Text) : State := 
  s.complain (s.name ++ ": ".toList ++ Text.ofNat s.line ++ ": ".toList ++ s.script ++ t)

/-- End a command with a status. -/
def finish (s : State) (status : Nat) : State := { s with status }

/-- What is left to be read of the input. -/
def pending (s : State) : Text :=
  match s.stream? 0 with
  | some (.text t) => t
  | some (.file path offset) => ((s.textOf path).toOption.getD []).drop offset
  | _ => []

/-- Take a number of characters off the input. -/
def skipInput (s : State) (count : Nat) : State :=
  match s.stream? 0 with
  | some (.text t) => s.setStream 0 (.text (t.drop count))
  | some (.file path offset) => s.setStream 0 (.file path (offset + count))
  | _ => s

/-- All that is left of the input. -/
def takeInput (s : State) : Text × State := (s.pending, s.skipInput s.pending.length)

/-- The value of a variable. -/
def value? (s : State) (name : Text) : Option Text := s.values.lookup name

/-- Give a variable a value. -/
def set (s : State) (name value : Text) : State :=
  if (s.value? name).isSome then
    { s with values := s.values.map fun v => if v.1 = name then (name, value) else v }
  else { s with values := s.values ++ [(name, value)] }

/-- Take a variable away. -/
def unset (s : State) (name : Text) : State :=
  { s with values := s.values.filter (·.1 ≠ name), exported := s.exported.filter (· ≠ name) }

/-- Let programs see a variable. -/
def exportName (s : State) (name : Text) : State :=
  { s with exported := name :: s.exported.filter (· ≠ name) }

/-- The place of a variable among those that programs see. -/
def rank (name : Text) : Nat := (name.foldl (fun n c => n + c.toNat) (16 * ((name.map Char.toNat).headD 0))) % 39

/-- The variables that programs see, in the order in which they see them. -/
def environment (s : State) : List (Text × Text) :=
  (s.values.filter fun v => s.exported.contains v.1).mergeSort fun v w => rank v.1 ≤ rank w.1

/-- Go to a directory. -/
def enter (s : State) (path : Text) : State := { s with files := { s.files with workDir := path } }

/-- The value of a parameter, if it is set: a number, a sign or the name of a variable. -/
def parameter? (s : State) (name : Text) : Option Text :=
  match name with
  | ['?'] => some (Text.ofNat s.status)
  | ['#'] => some (Text.ofNat s.parameters.length)
  | ['$'] => some process
  | ['-'] => some s.options
  | ['!'] => none
  | ['@'] => if s.parameters = [] then none else some (Text.join [' '] s.parameters)
  | ['*'] =>
    if s.parameters = [] then none
    else some (Text.join (((s.value? "IFS".toList).getD [' ']).take 1) s.parameters)
  | name =>
    if name.isNumeral then
      if name.numeralValue = 0 then some s.name else s.parameters[name.numeralValue - 1]?
    else s.value? name

/-- Stop the shell after a complaint. -/
def abort (s : State) (complaint : Text) : State :=
  { s.complainOf complaint with status := 2, flow := .exited }

end State

/-- Something that a shell does with the words after its name. -/
abbrev Tool := List Text → State → State

end Shell
end ExEditor
