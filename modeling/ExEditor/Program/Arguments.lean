import ExEditor.Text.Basic

/-! The arguments of the program. They are read from left to right, and the first that is wrong ends
the reading. -/
namespace ExEditor
namespace Program

/-- What the program is to do. -/
structure Arguments where
  /-- File to edit. -/
  file : Option Text := none
  /-- Create the file if it does not exist. -/
  create : Bool := false
  /-- Script that is sourced before the standard input is read. -/
  initScript : Option Text := none
  store : Option Text := none
  /-- Neither read nor write the store. -/
  noStore : Bool := false
  readOnly : Bool := false
  deriving DecidableEq, Repr

/-- What is wrong with the arguments. -/
inductive UsageFault
  | unexpected (argument : Text)
  | repeated (name : Text)
  | missingValue (name : Text)
  | emptyValue (name : Text)
  | conflict
  deriving DecidableEq, Repr

/-- The fault as shown. -/
def UsageFault.message : UsageFault → Text
  | unexpected argument => "unexpected argument '" ++ argument ++ "' found".toList
  | repeated name => "the argument '" ++ name ++ "' cannot be used multiple times".toList
  | missingValue name => "a value is required for '" ++ name ++ "' but none was supplied".toList
  | emptyValue name => "a value is required for '" ++ name ++ "' but none was supplied".toList
  | conflict => "the argument '--store <FILE>' cannot be used with '--no-store'"

/-- What the arguments ask for. -/
inductive Request
  | edit (a : Arguments)
  | help
  | version
  deriving DecidableEq, Repr

/-- An option, by what it takes. -/
inductive Switch
  /-- Sets a flag. -/
  | flag (name : Text) (set : Arguments → Option Arguments)
  /-- Takes a value. -/
  | value (name : Text) (set : Arguments → Text → Option Arguments)
  | help
  | version

namespace Switch

/-- Ask for the file to be created. -/
def create : Switch :=
  flag "--create" fun a => if a.create then none else some { a with create := true }

/-- Name a script to begin with. -/
def init : Switch :=
  value "--init <FILE>" fun a v => if a.initScript.isSome then none else some { a with initScript := v }

/-- Name the store. -/
def store : Switch :=
  value "--store <FILE>" fun a v => if a.store.isSome then none else some { a with store := v }

/-- Do without a store. -/
def noStore : Switch :=
  flag "--no-store" fun a => if a.noStore then none else some { a with noStore := true }

/-- Leave the file alone. -/
def readOnly : Switch :=
  flag "--read-only" fun a => if a.readOnly then none else some { a with readOnly := true }

/-- The option of a long name. -/
def ofName? (name : Text) : Option Switch :=
  match String.ofList name with
  | "create" => some create
  | "init" => some init
  | "store" => some store
  | "no-store" => some noStore
  | "read-only" => some readOnly
  | "help" => some help
  | "version" => some version
  | _ => none

/-- The option of a letter. -/
def ofLetter? : Char → Option Switch
  | 'c' => some create
  | 'i' => some init
  | 'r' => some readOnly
  | 'h' => some help
  | 'V' => some version
  | _ => none

end Switch

/-- The result of reading: what is asked for, or the arguments so far. -/
inductive Progress
  | done (r : Request)
  | going (a : Arguments)
  /-- The value of an option is to follow. -/
  | pending (name : Text) (set : Text → Except UsageFault Arguments)

/-- Set the value of an option, which may not be empty and is given once. -/
def setValue (name : Text) (set : Arguments → Text → Option Arguments) (a : Arguments) (v : Text) :
    Except UsageFault Arguments :=
  if v = [] then .error (.emptyValue name)
  else
    match set a v with
    | some a => .ok a
    | none => .error (.repeated name)

/-- Take an option that may have a value attached. -/
def takeSwitch (a : Arguments) (written : Text) (attached : Option Text) :
    Switch → Except UsageFault Progress
  | .help => if attached.isSome then .error (.unexpected written) else .ok (.done .help)
  | .version => if attached.isSome then .error (.unexpected written) else .ok (.done .version)
  | .flag name set =>
    if attached.isSome then .error (.unexpected written)
    else
      match set a with
      | some a => .ok (.going a)
      | none => .error (.repeated name)
  | .value name set =>
    match attached with
    | some v => (setValue name set a v).map .going
    | none => .ok (.pending name (setValue name set a))

/-- Take the letters after one hyphen. What follows the letter of an option with a value is its value,
with or without an equals sign in front. -/
def takeLetters (a : Arguments) (written : Text) : Text → Except UsageFault Progress
  | [] => .ok (.going a)
  | c :: rest =>
    match Switch.ofLetter? c with
    | none => .error (.unexpected written)
    | some (.value name set) =>
      match rest with
      | [] => takeSwitch a written none (.value name set)
      | '=' :: v => takeSwitch a written (some v) (.value name set)
      | v => takeSwitch a written (some v) (.value name set)
    | some switch =>
      match takeSwitch a written none switch with
      | .ok (.going a) => takeLetters a written rest
      | other => other

/-- Take the file. -/
def takeFile (a : Arguments) (t : Text) : Except UsageFault Arguments :=
  if a.file.isSome then .error (.unexpected t)
  else if t = [] then .error (.emptyValue "[FILE]")
  else .ok { a with file := t }

/-- Whether an argument is an option or the sign that none follows. -/
def isOption (t : Text) : Bool := t.head? == some '-' && 1 < t.length

/-- Take one argument. -/
def takeArgument (a : Arguments) (t : Text) : Except UsageFault Progress :=
  match t with
  | '-' :: '-' :: long =>
    let (name, attached) := match Text.splitFirst? (· = '=') long with
      | some (name, v) => (name, some v)
      | none => (long, none)
    match Switch.ofName? name with
    | some switch => takeSwitch a t attached switch
    | none => .error (.unexpected t)
  | '-' :: c :: letters => takeLetters a t (c :: letters)
  | _ => (takeFile a t).map .going

/-- The arguments when all are read. -/
def finish (a : Arguments) : Except UsageFault Request :=
  if a.noStore && a.store.isSome then .error .conflict else .ok (.edit a)

/-- Read arguments in the light of those before them. -/
def readFrom : Progress → List Text → Except UsageFault Request
  | .done r, _ => .ok r
  | .going a, [] => finish a
  | .pending name _, [] => .error (.missingValue name)
  | .pending name set, t :: rest =>
    if isOption t then .error (.missingValue name)
    else (set t).bind fun a => readFrom (.going a) rest
  | .going a, t :: rest =>
    if t = ['-', '-'] then (rest.foldlM takeFile a).bind finish
    else (takeArgument a t).bind fun p => readFrom p rest

/-- Read the arguments. -/
def readArguments (arguments : List Text) : Except UsageFault Request := readFrom (.going {}) arguments

/-- The help text. -/
def helpText : Text := Text.join ['\n'] <| List.map String.toList
  ["A vi/ex command language engine over a line-oriented text buffer.",
   "",
   "Usage: vicmd [OPTIONS] [FILE]",
   "",
   "Arguments:",
   "  [FILE]  File to edit",
   "",
   "Options:",
   "  -c, --create        Create the file if it does not exist",
   "  -i, --init <FILE>   Script of ex commands to source before reading stdin",
   "      --store <FILE>  Macro, abbreviation and variable store",
   "      --no-store      Do not read or write the store",
   "  -r, --read-only     Open in read-only mode",
   "  -h, --help          Print help",
   "  -V, --version       Print version",
   ""]

/-- The version text. -/
def versionText : Text := "vicmd 0.1.0\n"

end Program
end ExEditor
