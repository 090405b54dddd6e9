import ExEditor.Json.Reader
import ExEditor.Json.Writer
import ExEditor.Store.Basic

/-! The document that a store is kept in: a list of nodes, each with its kind and its name. Read back
it gives the same store. Of two nodes of one kind and name the first counts. -/
namespace ExEditor

/-- A node of the document. -/
inductive Node
  | abbreviation (name value : Text)
  | commandList (name : Text) (commands : List Text)
  | mapping (kind : MapKind) (name value : Text)
  | variableEntry (v : Variable)
  deriving DecidableEq, Repr

/-- The label of a kind of mapping. -/
def MapKind.label : MapKind → Text
  | plain => "map"
  | alt => "map-alt"
  | control => "map-control"
  | key => "map-key"

namespace Node

/-- A field that holds a text. -/
def field (name value : Text) : Text × Json := (name, .string value)

/-- A field that holds a text, if it is there. -/
def optionalField (name : Text) (value : Option Text) : List (Text × Json) :=
  match value with
  | some t => [field name t]
  | none => []

/-- The fields of a node. -/
def fields : Node → List (Text × Json)
  | abbreviation name value => [field "kind" "abbreviation", field "name" name, field "value" value]
  | commandList name commands =>
    [field "kind" "macro", field "name" name, ("commands".toList, .array (commands.map .string))]
  | mapping kind name value => [field "kind" kind.label, field "name" name, field "value" value]
  | variableEntry v =>
    [field "kind" "variable", field "name" v.name, field "type" v.kind.name]
      ++ optionalField "value" v.value ++ optionalField "format" v.format
      ++ optionalField "prefix" v.linePrefix ++ [("ask-for-input".toList, .bool v.ask)]

/-- A node as written. -/
def toJson (n : Node) : Json := .object n.fields

/-- The members of a record: the values of the named fields of an object, each given at most once
and other fields left out, or the items of an array in the order of the names. -/
def members? (names : List String) : Json → Option (List (Option Json))
  | .object fields =>
    if names.all fun name => (fields.filter (·.1 == name.toList)).length ≤ 1 then
      some (names.map fun name => fields.lookup name.toList)
    else none
  | .array items =>
    if items.length ≤ names.length then
      some (items.map some ++ List.replicate (names.length - items.length) none)
    else none
  | _ => none

/-- A text that must be there. -/
def required? (j : Option Json) : Option Text := j.bind Json.string?

/-- A text that may be missing or null. -/
def optional? : Option Json → Option (Option Text)
  | none => some none
  | some .null => some none
  | some (.string t) => some (some t)
  | some _ => none

/-- A flag that is set unless it is there and not. -/
def flag? : Option Json → Option Bool
  | none => some true
  | some j => j.bool?

/-- The kind of a variable: its name, or an object with its name alone and nothing in it. -/
def kind? : Option Json → Option VariableKind
  | some (.string name) => VariableKind.ofName? name
  | some (.object [(name, .null)]) => VariableKind.ofName? name
  | some (.object [(name, .object [])]) => VariableKind.ofName? name
  | _ => none

/-- A variable from its members. -/
def readVariable? (j : Json) : Option Variable := do
  match ← members? ["name", "type", "value", "format", "prefix", "ask-for-input"] j with
  | [name, kind, value, format, linePrefix, ask] =>
    return {
      name := ← required? name
      kind := ← kind? kind
      value := ← optional? value
      format := ← optional? format
      linePrefix := ← optional? linePrefix
      ask := ← flag? ask }
  | _ => none

/-- A name and a value from their members. -/
def readPair? (j : Json) : Option (Text × Text) := do
  match ← members? ["name", "value"] j with
  | [name, value] => return (← required? name, ← required? value)
  | _ => none

/-- A macro from its members. -/
def readCommands? (j : Json) : Option (Text × List Text) := do
  match ← members? ["name", "commands"] j with
  | [name, some commands] => return (← required? name, ← (← commands.array?).mapM Json.string?)
  | _ => none

/-- The kind of a node and the rest of it: the field `kind` of an object, or the first item of an
array. -/
def splitKind? : Json → Option (Text × Json)
  | .object fields =>
    match fields.filter (·.1 == "kind".toList) with
    | [(_, .string kind)] => some (kind, .object (fields.filter (·.1 != "kind".toList)))
    | _ => none
  | .array (.string kind :: rest) => some (kind, .array rest)
  | _ => none

/-- A node from its written form. -/
def ofJson? (j : Json) : Option Node := do
  let (kind, rest) ← splitKind? j
  if kind = "abbreviation" then (readPair? rest).map fun (n, v) => abbreviation n v
  else if kind = "macro" then (readCommands? rest).map fun (n, cs) => commandList n cs
  else if kind = "variable" then (readVariable? rest).map variableEntry
  else do
    let mapKind ← MapKind.all.find? (·.label == kind)
    (readPair? rest).map fun (n, v) => mapping mapKind n v

end Node

namespace Store

/-- The nodes of a store. -/
def nodes (s : Store) : List Node :=
  s.abbreviations.map (fun (n, v) => .abbreviation n v)
    ++ s.macros.map (fun (n, cs) => .commandList n cs)
    ++ MapKind.all.flatMap (fun kind => (s.mappings.table kind).map fun (n, v) => .mapping kind n v)
    ++ s.vars.map (fun (_, v) => .variableEntry v)

/-- The store with one more node, unless a node of its kind and name is there. -/
def absorb (s : Store) : Node → Store
  | .abbreviation n v => { s with abbreviations := s.abbreviations.insertNew n v }
  | .commandList n cs => { s with macros := s.macros.insertNew n cs }
  | .mapping kind n v =>
    { s with mappings := s.mappings.setTable kind ((s.mappings.table kind).insertNew n v) }
  | .variableEntry v => { s with vars := s.vars.insertNew v.name v }

/-- The document of a store. -/
def toText (s : Store) : Text :=
  Json.pretty 0 (.object [("nodes", .array (s.nodes.map Node.toJson))])

/-- The nodes of a document. Where it names none it has none. -/
def readNodes? (t : Text) : Option (List Node) := do
  match ← Node.members? ["nodes"] (← Json.read? (.field "nodes") t) with
  | [some nodes] => (← nodes.array?).mapM Node.ofJson?
  | _ => some []

end Store
end ExEditor
