import ExEditor.Text.Basic
import ExEditor.Variable.Basic

/-! Tables by name, kept in the order of the names, and what a session keeps in them: macros, which hold the
registers too, abbreviations, mappings of keys, and variables. -/
namespace ExEditor

/-- Values by name, in the order of the names. -/
abbrev Table (α : Type) := List (Text × α)

namespace Table

variable {α : Type}

/-- The value of a name. -/
def find? (table : Table α) (name : Text) : Option α := table.lookup name

/-- Give a name a value, in place of the one it had. -/
def insert (table : Table α) (name : Text) (value : α) : Table α :=
  match table with
  | [] => [(name, value)]
  | (other, v) :: rest =>
    if name = other then (name, value) :: rest
    else if name.before other then (name, value) :: (other, v) :: rest
    else (other, v) :: insert rest name value

/-- Give a name a value unless it has one. -/
def insertNew (table : Table α) (name : Text) (value : α) : Table α :=
  if (table.find? name).isSome then table else table.insert name value

/-- Remove a name. -/
def erase (table : Table α) (name : Text) : Table α := table.filter (·.1 ≠ name)

end Table

/-- Kinds of key mappings, by how the left-hand side is written. -/
inductive MapKind
  /-- Plain keys. -/
  | plain
  /-- `<A-x>` and `<M-x>`. -/
  | alt
  /-- `<C-x>`. -/
  | control
  /-- Any other `<name>`. -/
  | key
  deriving DecidableEq, Repr

namespace MapKind

/-- All kinds, in the order they are listed. -/
def all : List MapKind := [plain, alt, control, key]

/-- The kind of a left-hand side. -/
def ofKeys (lhs : Text) : MapKind :=
  let lower := lhs.toAsciiLower
  if "<a-".toList.isPrefixOf lower || "<m-".toList.isPrefixOf lower then alt
  else if "<c-".toList.isPrefixOf lower then control
  else if lhs.head? == some '<' && lhs.getLast? == some '>' && 2 < lhs.length then key
  else plain

end MapKind

/-- The mappings of each kind. A kind without a table has not been used yet. -/
structure Mappings where
  plain : Option (Table Text) := none
  alt : Option (Table Text) := none
  control : Option (Table Text) := none
  key : Option (Table Text) := none
  deriving DecidableEq, Repr

namespace Mappings

/-- The table of a kind, if the kind has been used. -/
def table? (m : Mappings) : MapKind → Option (Table Text)
  | .plain => m.plain
  | .alt => m.alt
  | .control => m.control
  | .key => m.key

/-- The mappings of a kind. -/
def table (m : Mappings) (kind : MapKind) : Table Text := (m.table? kind).getD []

/-- Change the table of a kind. -/
def setTable (m : Mappings) (kind : MapKind) (table : Table Text) : Mappings :=
  match kind with
  | .plain => { m with plain := some table }
  | .alt => { m with alt := some table }
  | .control => { m with control := some table }
  | .key => { m with key := some table }

/-- All mappings, kind by kind. -/
def listing (m : Mappings) : List (Text × Text) := MapKind.all.flatMap m.table

end Mappings

/-- Everything that is kept by name. -/
structure Store where
  macros : Table (List Text) := []
  abbreviations : Table Text := []
  mappings : Mappings := {}
  vars : Table Variable := []
  deriving DecidableEq, Repr

namespace Store

/-- The commands of a macro. -/
def commands? (s : Store) (name : Text) : Option (List Text) := s.macros.find? name

/-- Give a macro its commands. -/
def setMacro (s : Store) (name : Text) (commands : List Text) : Store :=
  { s with macros := s.macros.insert name commands }

/-- Add a command to a macro, which may be new. -/
def appendMacro (s : Store) (name command : Text) : Store :=
  s.setMacro name ((s.commands? name).getD [] ++ [command])

/-- The store without a macro, if there was one of that name. -/
def removeMacro? (s : Store) (name : Text) : Option Store :=
  (s.commands? name).map fun _ => { s with macros := s.macros.erase name }

/-- Give an abbreviation its expansion. -/
def setAbbreviation (s : Store) (lhs rhs : Text) : Store :=
  { s with abbreviations := s.abbreviations.insert lhs rhs }

/-- The store without an abbreviation, if there was one of that name. -/
def removeAbbreviation? (s : Store) (lhs : Text) : Option Store :=
  (s.abbreviations.find? lhs).map fun _ => { s with abbreviations := s.abbreviations.erase lhs }

/-- Map keys to keys. The mapping goes to the kind that its left-hand side is written as. -/
def setMapping (s : Store) (lhs rhs : Text) : Store :=
  let kind := MapKind.ofKeys lhs
  { s with mappings := s.mappings.setTable kind ((s.mappings.table kind).insert lhs rhs) }

/-- The store without a mapping, if there was one of that left-hand side. -/
def removeMapping? (s : Store) (lhs : Text) : Option Store :=
  let kind := MapKind.ofKeys lhs
  ((s.mappings.table kind).find? lhs).map fun _ =>
    { s with mappings := s.mappings.setTable kind ((s.mappings.table kind).erase lhs) }

/-- A variable by its name. -/
def findVariable? (s : Store) (name : Text) : Option Variable := s.vars.find? name

/-- Keep a variable. -/
def setVariable (s : Store) (v : Variable) : Store :=
  { s with vars := s.vars.insert v.name v }

end Store
end ExEditor
