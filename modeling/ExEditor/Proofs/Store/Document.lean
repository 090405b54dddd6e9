import ExEditor.Proofs.Json.RoundTrip
import ExEditor.Proofs.Store.Table
import ExEditor.Store.Document
import Mathlib.Data.List.Basic

/-! The document of a store is read back as the same nodes, and these give back the same store. -/
namespace ExEditor

namespace Node

theorem ofName?_name (kind : VariableKind) : VariableKind.ofName? kind.name = some kind := by
  cases kind <;> rfl

theorem optional?_string (value : Option Text) : optional? (value.map .string) = some value := by
  cases value <;> rfl

/-- The members of a variable, of which those without a value are missing. -/
theorem members?_variable (v : Variable) :
    members? ["name", "type", "value", "format", "prefix", "ask-for-input"]
        (.object ((variableEntry v).fields.drop 1)) =
      some [some (.string v.name), some (.string v.kind.name), v.value.map .string, v.format.map .string,
        v.linePrefix.map .string, some (.bool v.ask)] := by
  obtain ⟨name, kind, value, format, linePrefix, ask⟩ := v
  cases value <;> cases format <;> cases linePrefix <;> rfl

theorem splitKind?_variable (v : Variable) :
    splitKind? (variableEntry v).toJson =
      some ("variable".toList, .object ((variableEntry v).fields.drop 1)) := by
  obtain ⟨name, kind, value, format, linePrefix, ask⟩ := v
  cases value <;> cases format <;> cases linePrefix <;> rfl

theorem readVariable?_variable (v : Variable) :
    readVariable? (.object ((variableEntry v).fields.drop 1)) = some v := by
  simp only [readVariable?, members?_variable, bind, Option.bind, required?, Json.string?, kind?, ofName?_name,
    optional?_string, flag?, Json.bool?]
  rfl

theorem readCommands?_commands (name : Text) (commands : List Text) :
    readCommands? (.object ((commandList name commands).fields.drop 1)) = some (name, commands) := by
  have hcommands : (commands.map Json.string).mapM Json.string? = some commands := by
    induction commands with
    | nil => rfl
    | cons c commands ih => rw [List.map_cons, List.mapM_cons, ih]; rfl
  have hmembers : members? ["name", "commands"] (.object ((commandList name commands).fields.drop 1)) =
      some [some (.string name), some (.array (commands.map .string))] := rfl
  simp only [readCommands?, hmembers, bind, Option.bind, required?, Json.string?, Json.array?, hcommands]
  rfl

/-- A node is read back. -/
theorem ofJson?_toJson (n : Node) : ofJson? n.toJson = some n := by
  cases n with
  | abbreviation name value => rfl
  | commandList name commands =>
    have hsplit : splitKind? (commandList name commands).toJson =
        some ("macro".toList, .object ((commandList name commands).fields.drop 1)) := rfl
    simp only [ofJson?, hsplit, bind, Option.bind, readCommands?_commands]
    rfl
  | mapping kind name value => cases kind <;> rfl
  | variableEntry v =>
    have hread : (readVariable? (.object ((variableEntry v).fields.drop 1))).map variableEntry =
        some (variableEntry v) := by
      rw [readVariable?_variable]
      rfl
    unfold ofJson?
    rw [splitKind?_variable]
    exact hread

theorem fits_optionalField {depth : Nat} (name : Text) (value : Option Text) :
    ∀ f ∈ optionalField name value, Json.Fits depth f.2 := by
  intro f hf
  cases value with
  | none => cases hf
  | some t => cases List.mem_singleton.mp hf; exact .string t

theorem fits_toJson (n : Node) (depth : Nat) : Json.Fits (depth + 2) n.toJson := by
  refine .object fun f hf => ?_
  cases n with
  | abbreviation name value =>
    simp only [fields, List.mem_cons, List.not_mem_nil, or_false] at hf
    rcases hf with rfl | rfl | rfl <;> exact .string _
  | commandList name commands =>
    simp only [fields, List.mem_cons, List.not_mem_nil, or_false] at hf
    rcases hf with rfl | rfl | rfl
    · exact .string _
    · exact .string _
    · refine .array fun j hj => ?_
      obtain ⟨c, -, rfl⟩ := List.mem_map.mp hj
      exact .string c
  | mapping kind name value =>
    simp only [fields, List.mem_cons, List.not_mem_nil, or_false] at hf
    rcases hf with rfl | rfl | rfl <;> exact .string _
  | variableEntry v =>
    simp only [fields, List.mem_append, List.mem_cons, List.not_mem_nil, or_false] at hf
    rcases hf with ((((rfl | rfl | rfl) | hf) | hf) | hf) | rfl
    · exact .string _
    · exact .string _
    · exact .string _
    · exact fits_optionalField _ _ f hf
    · exact fits_optionalField _ _ f hf
    · exact fits_optionalField _ _ f hf
    · exact .bool _

/-- What a node adds to the abbreviations. -/
def abbreviation? : Node → Option (Text × Text)
  | abbreviation name value => some (name, value)
  | _ => none

/-- What a node adds to the macros. -/
def commandList? : Node → Option (Text × List Text)
  | commandList name commands => some (name, commands)
  | _ => none

/-- What a node adds to the mappings of a kind. -/
def mapping? (kind : MapKind) : Node → Option (Text × Text)
  | mapping kind' name value => if kind = kind' then some (name, value) else none
  | _ => none

/-- What a node adds to the variables. -/
def asVariable? : Node → Option (Text × Variable)
  | variableEntry v => some (v.name, v)
  | _ => none

end Node

namespace Mappings

@[simp] theorem table_setTable (m : Mappings) (kind kind' : MapKind) (table : Table Text) :
    (m.setTable kind table).table kind' = if kind' = kind then table else m.table kind' := by
  cases kind <;> cases kind' <;> rfl

end Mappings

namespace Store

/-- A store as changes leave it: its tables ascend, and a variable is kept under its own name. -/
structure WellFormed (s : Store) : Prop where
  macros : s.macros.Sorted
  abbreviations : s.abbreviations.Sorted
  mappings : ∀ kind, (s.mappings.table kind).Sorted
  vars : s.vars.Sorted
  named : ∀ e ∈ s.vars, e.1 = e.2.name

/-- Stores that hold the same. A kind without any mapping is the same as one that was never used. -/
structure Same (s s' : Store) : Prop where
  macros : s.macros = s'.macros
  abbreviations : s.abbreviations = s'.abbreviations
  mappings : ∀ kind, s.mappings.table kind = s'.mappings.table kind
  vars : s.vars = s'.vars

theorem Same.refl (s : Store) : s.Same s := ⟨rfl, rfl, fun _ => rfl, rfl⟩

theorem Same.symm {s s' : Store} (h : s.Same s') : s'.Same s :=
  ⟨h.macros.symm, h.abbreviations.symm, fun kind => (h.mappings kind).symm, h.vars.symm⟩

theorem Same.trans {s s' s'' : Store} (h : s.Same s') (h' : s'.Same s'') : s.Same s'' :=
  ⟨h.macros.trans h'.macros, h.abbreviations.trans h'.abbreviations,
    fun kind => (h.mappings kind).trans (h'.mappings kind), h.vars.trans h'.vars⟩

/-- The store with more nodes, added one after the other. -/
def absorbAll (s : Store) (nodes : List Node) : Store := nodes.foldl absorb s

section views
variable (s : Store) (nodes : List Node)

theorem absorbAll_macros :
    (s.absorbAll nodes).macros = s.macros.absorb (nodes.filterMap Node.commandList?) := by
  induction nodes generalizing s with
  | nil => rfl
  | cons n nodes ih => cases n <;> exact ih _

theorem absorbAll_abbreviations :
    (s.absorbAll nodes).abbreviations = s.abbreviations.absorb (nodes.filterMap Node.abbreviation?) := by
  induction nodes generalizing s with
  | nil => rfl
  | cons n nodes ih => cases n <;> exact ih _

theorem absorbAll_vars :
    (s.absorbAll nodes).vars = s.vars.absorb (nodes.filterMap Node.asVariable?) := by
  induction nodes generalizing s with
  | nil => rfl
  | cons n nodes ih => cases n <;> exact ih _

theorem absorbAll_mappings (kind : MapKind) :
    (s.absorbAll nodes).mappings.table kind =
      (s.mappings.table kind).absorb (nodes.filterMap (Node.mapping? kind)) := by
  induction nodes generalizing s with
  | nil => rfl
  | cons n nodes ih =>
    cases n with
    | mapping kind' name value =>
      have hrest := ih (s.absorb (.mapping kind' name value))
      have htable : (s.absorb (.mapping kind' name value)).mappings.table kind = _ :=
        Mappings.table_setTable s.mappings kind' kind _
      rw [htable] at hrest
      by_cases h : kind = kind'
      · subst h
        have hentry : Node.mapping? kind (.mapping kind name value) = some (name, value) := if_pos rfl
        rw [if_pos rfl] at hrest
        rw [List.filterMap_cons_some hentry]
        exact hrest
      · have hentry : Node.mapping? kind (.mapping kind' name value) = none := if_neg h
        rw [if_neg h] at hrest
        rw [List.filterMap_cons_none hentry]
        exact hrest
    | _ => exact ih _

end views

/-- Nodes that have been added change nothing the second time. -/
theorem absorbAll_again (s : Store) (nodes : List Node) :
    ((s.absorbAll nodes).absorbAll nodes).Same (s.absorbAll nodes) where
  macros := by
    rw [absorbAll_macros, absorbAll_macros]
    exact Table.absorb_absorb _ _
  abbreviations := by
    rw [absorbAll_abbreviations, absorbAll_abbreviations]
    exact Table.absorb_absorb _ _
  mappings kind := by
    rw [absorbAll_mappings, absorbAll_mappings]
    exact Table.absorb_absorb _ _
  vars := by
    rw [absorbAll_vars, absorbAll_vars]
    exact Table.absorb_absorb _ _

/-- Stores that hold the same do so with more nodes. -/
theorem Same.absorbAll {s s' : Store} (h : s.Same s') (nodes : List Node) :
    (s.absorbAll nodes).Same (s'.absorbAll nodes) where
  macros := by rw [absorbAll_macros, absorbAll_macros, h.macros]
  abbreviations := by rw [absorbAll_abbreviations, absorbAll_abbreviations, h.abbreviations]
  mappings kind := by rw [absorbAll_mappings, absorbAll_mappings, h.mappings]
  vars := by rw [absorbAll_vars, absorbAll_vars, h.vars]

/-! What the nodes of a store add to each of its tables is the table. -/

theorem nodes_commandLists (s : Store) : s.nodes.filterMap Node.commandList? = s.macros := by
  simp [nodes, MapKind.all, List.filterMap_append, List.filterMap_map, Function.comp_def, Node.commandList?]

theorem nodes_abbreviations (s : Store) : s.nodes.filterMap Node.abbreviation? = s.abbreviations := by
  simp [nodes, MapKind.all, List.filterMap_append, List.filterMap_map, Function.comp_def, Node.abbreviation?]

theorem nodes_mappings (s : Store) (kind : MapKind) :
    s.nodes.filterMap (Node.mapping? kind) = s.mappings.table kind := by
  cases kind <;>
    simp [nodes, MapKind.all, List.filterMap_append, List.filterMap_map, Function.comp_def, Node.mapping?]

theorem nodes_vars {s : Store} (h : s.WellFormed) : s.nodes.filterMap Node.asVariable? = s.vars := by
  have hvars : s.vars.map (fun e => (e.2.name, e.2)) = s.vars :=
    (List.map_congr_left fun e he => by rw [← h.named e he]; rfl).trans s.vars.map_id
  simpa [nodes, MapKind.all, List.filterMap_append, List.filterMap_map, Function.comp_def, Node.asVariable?]
    using hvars

/-- The nodes of a store make the store. -/
theorem absorbAll_nodes {s : Store} (h : s.WellFormed) : (absorbAll {} s.nodes).Same s where
  macros := by
    rw [absorbAll_macros, nodes_commandLists]
    exact Table.absorb_sorted h.macros
  abbreviations := by
    rw [absorbAll_abbreviations, nodes_abbreviations]
    exact Table.absorb_sorted h.abbreviations
  mappings kind := by
    rw [absorbAll_mappings, nodes_mappings]
    cases kind <;> exact Table.absorb_sorted (h.mappings _)
  vars := by
    rw [absorbAll_vars, nodes_vars h]
    exact Table.absorb_sorted h.vars

/-- The document of a store is read back as its nodes. -/
theorem readNodes?_toText (s : Store) : readNodes? s.toText = some s.nodes := by
  have hread : Json.read? (.field "nodes") s.toText =
      some (.object [("nodes".toList, .array (s.nodes.map Node.toJson))]) := by
    have huse : Json.Use.field "nodes" ≠ .nothing := nofun
    refine Json.read?_pretty huse fun f hf => ?_
    cases List.mem_singleton.mp hf
    refine ⟨.array fun j hj => ?_, rfl⟩
    obtain ⟨n, -, rfl⟩ := List.mem_map.mp hj
    exact n.fits_toJson _
  have hnodes : (s.nodes.map Node.toJson).mapM Node.ofJson? = some s.nodes := by
    rw [List.mapM_map]
    induction s.nodes with
    | nil => rfl
    | cons n nodes ih => rw [List.mapM_cons, ih, Function.comp_apply, Node.ofJson?_toJson]; rfl
  unfold readNodes?
  rw [hread]
  exact hnodes

namespace WellFormed

theorem empty : WellFormed {} where
  macros := .nil
  abbreviations := .nil
  mappings kind := by cases kind <;> exact .nil
  vars := .nil
  named := nofun

variable {s : Store}

theorem setTable (h : s.WellFormed) (kind : MapKind) {table : Table Text} (ht : table.Sorted) :
    WellFormed { s with mappings := s.mappings.setTable kind table } :=
  { h with
    mappings := fun kind' => by
      rw [Mappings.table_setTable]
      split
      · exact ht
      · exact h.mappings kind' }

theorem setMacro (h : s.WellFormed) (name : Text) (commands : List Text) : (s.setMacro name commands).WellFormed :=
  { h with macros := h.macros.insert name commands }

theorem removeMacro? (h : s.WellFormed) {name : Text} {s' : Store} (hs : s.removeMacro? name = some s') :
    s'.WellFormed := by
  obtain ⟨_, -, rfl⟩ := Option.map_eq_some_iff.mp hs
  exact { h with macros := h.macros.erase name }

theorem setAbbreviation (h : s.WellFormed) (lhs rhs : Text) : (s.setAbbreviation lhs rhs).WellFormed :=
  { h with abbreviations := h.abbreviations.insert lhs rhs }

theorem removeAbbreviation? (h : s.WellFormed) {lhs : Text} {s' : Store}
    (hs : s.removeAbbreviation? lhs = some s') : s'.WellFormed := by
  obtain ⟨_, -, rfl⟩ := Option.map_eq_some_iff.mp hs
  exact { h with abbreviations := h.abbreviations.erase lhs }

theorem setMapping (h : s.WellFormed) (lhs rhs : Text) : (s.setMapping lhs rhs).WellFormed :=
  h.setTable _ ((h.mappings _).insert lhs rhs)

theorem removeMapping? (h : s.WellFormed) {lhs : Text} {s' : Store} (hs : s.removeMapping? lhs = some s') :
    s'.WellFormed := by
  obtain ⟨_, -, rfl⟩ := Option.map_eq_some_iff.mp hs
  exact h.setTable _ ((h.mappings _).erase lhs)

theorem setVariable (h : s.WellFormed) (v : Variable) : (s.setVariable v).WellFormed :=
  { h with
    vars := h.vars.insert v.name v
    named := fun e he => by
      rcases Table.mem_insert he with rfl | he
      · rfl
      · exact h.named e he }

theorem absorb (h : s.WellFormed) (n : Node) : (s.absorb n).WellFormed := by
  cases n with
  | abbreviation name value => exact { h with abbreviations := h.abbreviations.insertNew name value }
  | commandList name commands => exact { h with macros := h.macros.insertNew name commands }
  | mapping kind name value => exact h.setTable kind ((h.mappings kind).insertNew name value)
  | variableEntry v =>
    by_cases hthere : (s.vars.find? v.name).isSome
    · have hsame : s.absorb (.variableEntry v) = s := by simp [Store.absorb, Table.insertNew, hthere]
      rw [hsame]
      exact h
    · have hnew : s.absorb (.variableEntry v) = s.setVariable v := by
        simp [Store.absorb, Store.setVariable, Table.insertNew, hthere]
      rw [hnew]
      exact h.setVariable v

theorem absorbAll (h : s.WellFormed) (nodes : List Node) : (s.absorbAll nodes).WellFormed :=
  List.foldlRecOn nodes _ h fun _ hs n _ => hs.absorb n

end WellFormed

end Store
end ExEditor
