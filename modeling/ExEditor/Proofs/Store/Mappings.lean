import ExEditor.Proofs.Store.Shelf

/-! Mappings and the kinds that they stand with. A mapping that is made or removed is looked for with the kind that
its left-hand side is written as, while one that a document holds comes to stand with the kind that the document
names. One that stands with another kind is astray: what is made and removed afterwards passes it by. -/
namespace ExEditor

namespace Table
variable {α : Type} {table : Table α}

theorem find?_insertNew (table : Table α) (name other : Text) (value : α) :
    (table.insertNew name value).find? other =
      (table.find? other).or (if other = name then some value else none) := by
  unfold insertNew
  split
  · next h =>
    split
    · next heq => rw [heq, Option.or_of_isSome h]
    · rw [Option.or_none]
  · next h =>
    rw [find?_insert]
    split
    · next heq => rw [heq, Option.not_isSome_iff_eq_none.mp h, Option.none_or]
    · rw [Option.or_none]

/-- Of the entries of a name the first one counts, and none if the name is there. -/
theorem find?_absorb (table : Table α) (entries : List (Text × α)) (name : Text) :
    (table.absorb entries).find? name = (table.find? name).or (find? entries name) := by
  induction entries generalizing table with
  | nil => exact (Option.or_none).symm
  | cons entry rest ih =>
    have hnext : (table.absorb (entry :: rest)).find? name = ((table.insertNew entry.1 entry.2).absorb rest).find? name :=
      rfl
    rw [hnext, ih, find?_insertNew, Option.or_assoc, find?_cons]
    split
    · rw [Option.some_or]
    · rw [Option.none_or]

/-- A name has one entry. -/
theorem Sorted.filter_name (h : table.Sorted) (name : Text) :
    (table.filter (·.1 = name)).map (·.2) = (table.find? name).toList := by
  induction table with
  | nil => rfl
  | cons entry rest ih =>
    obtain ⟨key, value⟩ := entry
    obtain ⟨hkey, hrest⟩ := List.pairwise_cons.mp h
    rw [find?_cons]
    by_cases heq : name = key
    · have hnone : rest.filter (·.1 = name) = [] := by
        refine List.filter_eq_nil_iff.mpr fun e he => ?_
        have hne := Text.ne_of_before (hkey e he)
        simpa [heq] using Ne.symm hne
      simp [heq ▸ hnone, heq]
    · rw [List.filter_cons_of_neg (by simpa using Ne.symm heq), ih hrest, if_neg heq]

end Table

/-- A kind has nothing of a document for a left-hand side if no node of that kind does. -/
theorem Node.find?_mapping_eq_none_iff {nodes : List Node} {kind : MapKind} {lhs : Text} :
    Table.find? (nodes.filterMap (mapping? kind)) lhs = none ↔ ∀ rhs, .mapping kind lhs rhs ∉ nodes := by
  have hadds : ∀ n lhs rhs, mapping? kind n = some (lhs, rhs) ↔ n = .mapping kind lhs rhs := by
    rintro (_ | _ | ⟨kind', name, value⟩ | _) lhs rhs <;> simp [mapping?, eq_comm]
  rw [Table.find?, List.lookup_eq_none_iff]
  constructor
  · intro h rhs hmem
    have hne := h (lhs, rhs) (List.mem_filterMap.mpr ⟨_, hmem, (hadds _ _ _).mpr rfl⟩)
    simp at hne
  · rintro h ⟨name, value⟩ he
    obtain ⟨n, hmem, hn⟩ := List.mem_filterMap.mp he
    rw [hadds] at hn
    subst hn
    rw [bne_iff_ne]
    rintro rfl
    exact h value hmem

namespace Store

/-- The right-hand side of a left-hand side among the mappings of a kind. -/
def mapped? (s : Store) (kind : MapKind) (lhs : Text) : Option Text := (s.mappings.table kind).find? lhs

/-- The right-hand sides that the listing shows for a left-hand side. -/
def shown (s : Store) (lhs : Text) : List Text := (s.mappings.listing.filter (·.1 = lhs)).map (·.2)

variable {s s' : Store} {kind : MapKind} {lhs rhs other : Text}

/-- A left-hand side is shown once for each kind that has it. -/
theorem WellFormed.shown_eq (h : s.WellFormed) (lhs : Text) :
    s.shown lhs = MapKind.all.flatMap fun kind => (s.mapped? kind lhs).toList := by
  rw [shown, Mappings.listing, List.filter_flatMap, List.map_flatMap]
  exact List.flatMap_congr fun kind _ => (h.mappings kind).filter_name lhs

theorem mapped?_setMapping (s : Store) (kind : MapKind) (lhs rhs other : Text) :
    (s.setMapping lhs rhs).mapped? kind other =
      if kind = MapKind.ofKeys lhs ∧ other = lhs then some rhs else s.mapped? kind other := by
  unfold mapped? setMapping
  rw [Mappings.table_setTable]
  by_cases hkind : kind = MapKind.ofKeys lhs
  · rw [if_pos hkind, Table.find?_insert, hkind]
    simp
  · rw [if_neg hkind, if_neg fun h => hkind h.1]

/-- A mapping is removed if it is found with the kind that its left-hand side is written as. -/
theorem mapped?_removeMapping? (h : s.removeMapping? lhs = some s') (kind : MapKind) (other : Text) :
    s'.mapped? kind other = if kind = MapKind.ofKeys lhs ∧ other = lhs then none else s.mapped? kind other := by
  obtain ⟨_, -, rfl⟩ := Option.map_eq_some_iff.mp h
  unfold mapped?
  rw [Mappings.table_setTable]
  by_cases hkind : kind = MapKind.ofKeys lhs
  · rw [if_pos hkind, Table.find?_erase, hkind]
    simp
  · rw [if_neg hkind, if_neg fun h => hkind h.1]

theorem isSome_removeMapping? (s : Store) (lhs : Text) :
    (s.removeMapping? lhs).isSome = (s.mapped? (MapKind.ofKeys lhs) lhs).isSome := Option.isSome_map

/-- Which mapping of a document comes to stand with a kind. -/
theorem mapped?_absorbAll (s : Store) (nodes : List Node) (kind : MapKind) (lhs : Text) :
    (s.absorbAll nodes).mapped? kind lhs =
      (s.mapped? kind lhs).or (Table.find? (nodes.filterMap (Node.mapping? kind)) lhs) := by
  rw [mapped?, absorbAll_mappings, Table.find?_absorb]
  rfl

/-- A left-hand side stands with no kind but the one that it is written as. -/
def Filed (s : Store) (lhs : Text) : Prop := ∀ kind, kind ≠ MapKind.ofKeys lhs → s.mapped? kind lhs = none

/-- A left-hand side that stands where it belongs is shown once at most. -/
theorem WellFormed.shown_of_filed (h : s.WellFormed) (hfiled : s.Filed lhs) :
    s.shown lhs = (s.mapped? (MapKind.ofKeys lhs) lhs).toList := by
  have hothers : ∀ kind, (s.mapped? kind lhs).toList =
      if kind = MapKind.ofKeys lhs then (s.mapped? (MapKind.ofKeys lhs) lhs).toList else [] := by
    intro kind
    split
    · next heq => rw [heq]
    · next hne => rw [hfiled kind hne, Option.toList_none]
  rw [h.shown_eq, List.flatMap_congr fun kind _ => hothers kind]
  generalize (s.mapped? (MapKind.ofKeys lhs) lhs).toList = entry
  cases MapKind.ofKeys lhs <;> simp [MapKind.all]

/-- What is astray is shown. -/
theorem WellFormed.mem_shown (h : s.WellFormed) (hmapped : s.mapped? kind lhs = some rhs) : rhs ∈ s.shown lhs := by
  rw [h.shown_eq]
  refine List.mem_flatMap.mpr ⟨kind, by cases kind <;> decide, ?_⟩
  rw [hmapped, Option.toList_some]
  exact List.mem_singleton_self rhs

end Store

namespace Shelf

/-- The nodes that the file holds, none if there is no file. -/
def nodes (s : Shelf) : List Node :=
  match s.path with
  | none => []
  | some path =>
    if s.files.has path then ((s.files.readText path).toOption.bind Store.readNodes?).getD [] else []

/-- A load adds the nodes that the file holds. -/
theorem load_nodes_eq {s r : Shelf} (h : s.load = .ok r) : r.store = s.store.absorbAll s.nodes := by
  unfold nodes
  rcases hpath : s.path with _ | path
  · unfold load at h
    rw [hpath] at h
    cases h
    rfl
  · obtain ⟨hhas, rfl⟩ | ⟨t, nodes, hhas, hread, hnodes, rfl⟩ := load_ok hpath h
    · simp [hhas, Store.absorbAll]
    · simp [hhas, hread, hnodes, Except.toOption]

end Shelf
end ExEditor
