import ExEditor.Store.Basic

/-! Tables in the order of their names: each name stands in one place, so that entries that are put in one
after the other give back the table that they come from. -/
namespace ExEditor

namespace Text

/-- The order of names is the order of their characters. -/
theorem before_iff (s t : Text) : s.before t ↔ s < t := by
  induction s generalizing t with
  | nil => cases t <;> simp [before]
  | cons a s ih =>
    cases t with
    | nil => simp [before]
    | cons b t => simp [before, List.cons_lt_cons_iff, ih]

theorem before_trans {s t u : Text} (h : s.before t) (h' : t.before u) : s.before u := by
  rw [before_iff] at *
  exact List.lt_trans h h'

theorem ne_of_before {s t : Text} (h : s.before t) : s ≠ t := by
  rintro rfl
  exact List.lt_irrefl s ((before_iff s s).mp h)

theorem before_of_not {s t : Text} (hne : s ≠ t) (h : ¬ s.before t) : t.before s := by
  rw [before_iff] at *
  rcases Std.lt_trichotomy s t with hlt | heq | hgt
  · exact absurd hlt h
  · exact absurd heq hne
  · exact hgt

end Text

namespace Table
variable {α : Type} {table : Table α}

/-- Whether the names ascend. -/
def Sorted (table : Table α) : Prop := table.Pairwise fun a b => a.1.before b.1

instance (table : Table α) : Decidable table.Sorted :=
  inferInstanceAs (Decidable (table.Pairwise fun a b => a.1.before b.1))

theorem find?_cons (name other : Text) (value : α) (table : Table α) :
    find? ((other, value) :: table) name = if name = other then some value else find? table name := by
  unfold find?
  rw [List.lookup_cons]
  by_cases h : name = other
  · simp [h]
  · have hb : (name == other) = false := by simpa using h
    rw [hb, if_neg h]

theorem find?_insert (table : Table α) (name other : Text) (value : α) :
    (table.insert name value).find? other = if other = name then some value else table.find? other := by
  induction table with
  | nil => exact find?_cons other name value []
  | cons entry rest ih =>
    obtain ⟨key, v⟩ := entry
    unfold insert
    split
    · next h =>
      subst h
      rw [find?_cons, find?_cons]
      split <;> rfl
    · next hne =>
      split
      · rw [find?_cons]
      · rw [find?_cons, find?_cons, ih]
        by_cases h : other = key
        · rw [if_pos h, if_pos h, if_neg (by rintro rfl; exact hne h)]
        · rw [if_neg h, if_neg h]

theorem erase_cons (name other : Text) (value : α) (table : Table α) :
    Table.erase ((other, value) :: table) name =
      if other = name then table.erase name else (other, value) :: table.erase name := by
  by_cases h : other = name <;> simp [Table.erase, h]

theorem find?_erase (table : Table α) (name other : Text) :
    (table.erase name).find? other = if other = name then none else table.find? other := by
  induction table with
  | nil => simp [Table.erase, find?]
  | cons entry rest ih =>
    obtain ⟨key, value⟩ := entry
    rw [erase_cons, find?_cons]
    by_cases hkey : key = name
    · rw [if_pos hkey, ih, hkey]
      by_cases ho : other = name <;> simp [ho]
    · rw [if_neg hkey, find?_cons, ih]
      by_cases ho : other = key
      · simp [ho, hkey]
      · simp [ho]

theorem mem_insert {name : Text} {value : α} {entry : Text × α} (h : entry ∈ table.insert name value) :
    entry = (name, value) ∨ entry ∈ table := by
  induction table with
  | nil => exact .inl (List.mem_singleton.mp h)
  | cons first rest ih =>
    obtain ⟨key, v⟩ := first
    unfold insert at h
    split at h
    · rcases List.mem_cons.mp h with h | h
      · exact .inl h
      · exact .inr (List.mem_cons_of_mem _ h)
    · split at h
      · exact List.mem_cons.mp h
      · rcases List.mem_cons.mp h with h | h
        · exact .inr (h ▸ List.mem_cons_self)
        · exact (ih h).imp_right (List.mem_cons_of_mem _)

theorem Sorted.insert (h : table.Sorted) (name : Text) (value : α) : (table.insert name value).Sorted := by
  induction table with
  | nil => exact List.pairwise_singleton _ _
  | cons entry rest ih =>
    obtain ⟨key, v⟩ := entry
    obtain ⟨hkey, hrest⟩ := List.pairwise_cons.mp h
    unfold Table.insert
    split
    · next heq =>
      subst heq
      exact List.pairwise_cons.mpr ⟨hkey, hrest⟩
    · next hne =>
      split
      · next hbefore =>
        refine List.pairwise_cons.mpr ⟨fun e he => ?_, h⟩
        rcases List.mem_cons.mp he with rfl | he
        · exact hbefore
        · exact Text.before_trans hbefore (hkey e he)
      · next hnot =>
        refine List.pairwise_cons.mpr ⟨fun e he => ?_, ih hrest⟩
        rcases mem_insert he with rfl | he
        · exact Text.before_of_not hne hnot
        · exact hkey e he

theorem Sorted.erase (h : table.Sorted) (name : Text) : (table.erase name).Sorted := h.filter _

theorem Sorted.insertNew (h : table.Sorted) (name : Text) (value : α) :
    (table.insertNew name value).Sorted := by
  unfold Table.insertNew
  split
  · exact h
  · exact h.insert name value

/-- A name that comes behind all others goes to the end. -/
theorem insert_last {name : Text} (value : α) (h : ∀ e ∈ table, e.1.before name) :
    table.insert name value = table ++ [(name, value)] := by
  induction table with
  | nil => rfl
  | cons entry rest ih =>
    obtain ⟨key, v⟩ := entry
    have hkey : key.before name := h _ List.mem_cons_self
    have hnot : ¬ name.before key := fun hback => Text.ne_of_before (Text.before_trans hkey hback) rfl
    rw [Table.insert, if_neg (Text.ne_of_before hkey).symm, if_neg hnot,
      ih fun e he => h e (List.mem_cons_of_mem _ he)]
    rfl

theorem find?_of_behind {name : Text} (h : ∀ e ∈ table, e.1.before name) : table.find? name = none := by
  unfold find?
  rw [List.lookup_eq_none_iff]
  intro e he
  simpa using (Text.ne_of_before (h e he)).symm

/-- Put entries into a table one after the other. Those whose name is there are left out. -/
def absorb (table : Table α) (entries : List (Text × α)) : Table α :=
  entries.foldl (fun table e => table.insertNew e.1 e.2) table

/-- The entries of a sorted table make the table. -/
theorem absorb_sorted {entries : List (Text × α)} (h : Sorted (table ++ entries)) :
    table.absorb entries = table ++ entries := by
  induction entries generalizing table with
  | nil => exact (List.append_nil _).symm
  | cons entry rest ih =>
    have hbehind : ∀ e ∈ table, e.1.before entry.1 := fun e he =>
      (List.pairwise_append.mp h).2.2 e he entry List.mem_cons_self
    have hnew : table.insertNew entry.1 entry.2 = table ++ [entry] := by
      rw [Table.insertNew, find?_of_behind hbehind]
      exact insert_last _ hbehind
    have hrest : Sorted (table ++ [entry] ++ rest) := by simpa using h
    calc table.absorb (entry :: rest)
        = (table ++ [entry]).absorb rest := by rw [← hnew]; rfl
      _ = table ++ entry :: rest := by rw [ih hrest]; simp

theorem Sorted.absorb (h : table.Sorted) (entries : List (Text × α)) : (table.absorb entries).Sorted := by
  induction entries generalizing table with
  | nil => exact h
  | cons entry rest ih => exact ih (h.insertNew _ _)

theorem find?_insertNew_self (table : Table α) (name : Text) (value : α) :
    ((table.insertNew name value).find? name).isSome := by
  unfold insertNew
  split
  · next h => exact h
  · rw [find?_insert, if_pos rfl]
    rfl

theorem find?_insertNew_isSome {name : Text} (h : (table.find? name).isSome) (other : Text) (value : α) :
    ((table.insertNew other value).find? name).isSome := by
  unfold insertNew
  split
  · exact h
  · rw [find?_insert]
    split
    · rfl
    · exact h

theorem find?_absorb_isSome {name : Text} (h : (table.find? name).isSome) (entries : List (Text × α)) :
    ((table.absorb entries).find? name).isSome := by
  induction entries generalizing table with
  | nil => exact h
  | cons entry rest ih => exact ih (find?_insertNew_isSome h _ _)

/-- All names of the entries are there afterwards. -/
theorem find?_absorb_of_mem {entries : List (Text × α)} {entry : Text × α} (h : entry ∈ entries) :
    ((table.absorb entries).find? entry.1).isSome := by
  induction entries generalizing table with
  | nil => cases h
  | cons first rest ih =>
    rcases List.mem_cons.mp h with rfl | h
    · exact find?_absorb_isSome (find?_insertNew_self _ _ _) rest
    · exact ih h

/-- Entries whose names are there change nothing. -/
theorem absorb_known {entries : List (Text × α)} (h : ∀ e ∈ entries, (table.find? e.1).isSome) :
    table.absorb entries = table := by
  induction entries with
  | nil => rfl
  | cons entry rest ih =>
    have hknown : table.insertNew entry.1 entry.2 = table := if_pos (h entry List.mem_cons_self)
    calc table.absorb (entry :: rest)
        = (table.insertNew entry.1 entry.2).absorb rest := rfl
      _ = table := by rw [hknown, ih fun e he => h e (List.mem_cons_of_mem _ he)]

/-- Entries that have been put in change nothing the second time. -/
theorem absorb_absorb (table : Table α) (entries : List (Text × α)) :
    (table.absorb entries).absorb entries = table.absorb entries :=
  absorb_known fun _ => find?_absorb_of_mem

end Table
end ExEditor
