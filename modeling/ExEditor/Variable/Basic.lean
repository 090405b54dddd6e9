import ExEditor.Text.Basic

/-! Variables: named sources of text. -/
namespace ExEditor

/-- Where the text of a variable comes from. -/
inductive VariableKind
  /-- The session: dates, file names, comment delimiters. -/
  | builtin
  /-- The environment variable named by the value, or else by the name. -/
  | environment
  /-- The value. -/
  | fixed
  /-- The user, asked every time. -/
  | input
  /-- The user, asked until the answer is not empty. -/
  | inputOnce
  /-- The user, asked every time with the last answer as default. -/
  | inputSave
  /-- The output of the command in the value. -/
  | process
  /-- The file named by the value, with the names between `@` signs expanded. -/
  | template
  deriving DecidableEq, Repr

namespace VariableKind

/-- The name of a kind. -/
def name : VariableKind → Text
  | builtin => "BUILTIN"
  | environment => "ENVIRONMENT"
  | fixed => "FIXED"
  | input => "INPUT"
  | inputOnce => "INPUT_ONCE"
  | inputSave => "INPUT_SAVE"
  | process => "PROCESS"
  | template => "TEMPLATE"

/-- All kinds. -/
def all : List VariableKind :=
  [builtin, environment, fixed, input, inputOnce, inputSave, process, template]

/-- The kind of a name. -/
def ofName? (t : Text) : Option VariableKind := all.find? (·.name == t)

/-- Whether what the user answers is kept in the variable. -/
def isCached : VariableKind → Bool
  | inputOnce | inputSave => true
  | _ => false

/-- Whether a variable of this kind is kept in the store when it is first used. -/
def isPersistent : VariableKind → Bool
  | builtin | input | process => false
  | _ => true

end VariableKind

/-- A variable. -/
structure Variable where
  name : Text
  kind : VariableKind
  value : Option Text := none
  /-- Format of a date or time. -/
  format : Option Text := none
  /-- Text put in front of every line. -/
  linePrefix : Option Text := none
  /-- Whether the user is still to be asked. -/
  ask : Bool := true
  deriving DecidableEq, Repr

namespace Variable

/-- Names that stand for something of the session. -/
def builtins : List String :=
  ["Cb", "Ce", "Cl", "Date", "Datetime", "Filename", "Fullname", "Path", "Time", "Year"]

/-- The variable that the first use of an unknown name makes. -/
def firstReference (name : Text) : Variable :=
  { name, kind := if builtins.contains (String.ofList name) then .builtin else .input }

end Variable
end ExEditor
