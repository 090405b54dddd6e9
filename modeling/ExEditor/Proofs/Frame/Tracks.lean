import ExEditor.Proofs.Frame.Rows
import ExEditor.Proofs.Text.Feeds

/-! Where marks are found after an edit. -/
namespace ExEditor
namespace Marks

theorem get?_mapOffset (g : Nat → Nat) (marks : Marks) (id : MarkId) :
    (marks.mapOffset g).get? id = (marks.get? id).map g := by
  induction marks with
  | nil => rfl
  | cons m marks ih =>
    obtain ⟨id', offset⟩ := m
    simp only [get?, mapOffset, List.map_cons, List.lookup_cons] at ih ⊢
    cases h : id == id' with
    | true => rfl
    | false => exact ih

@[simp] theorem get?_set_self (marks : Marks) (id : MarkId) (offset : Nat) :
    (marks.set id offset).get? id = some offset := by
  simp [get?, set]

end Marks

namespace Frame

theorem mark?_insert (f : Frame) (id : MarkId) {offset : Nat} (h : offset ≤ f.length) (t : Text) :
    (f.insert offset t).mark? id = (f.mark? id).map (Marks.afterInsert offset t.length) := by
  unfold insert
  split
  · next ht =>
    subst ht
    have hstay : Marks.afterInsert offset 0 = fun k => k := by
      funext k
      simp [Marks.afterInsert]
    simp [hstay]
  · rw [clamp, Nat.min_eq_left h]
    exact Marks.get?_mapOffset _ _ id

theorem mark?_delete (f : Frame) (id : MarkId) {a b : Nat} (hab : a ≤ b) (hb : b ≤ f.length) :
    (f.delete a b).mark? id = (f.mark? id).map (Marks.afterDelete a b) := by
  have ha : f.clamp (min a b) = a := by simp [clamp]; omega
  have hb : f.clamp (max a b) = b := by simp [clamp]; omega
  unfold delete
  rw [ha, hb]
  by_cases h : a = b
  · subst h
    have hstay : Marks.afterDelete a a = fun k => k := by
      funext k
      simp only [Marks.afterDelete]
      split
      · rfl
      · rw [if_neg (by omega)]
        omega
    simp [hstay]
  · have hm := Marks.get?_mapOffset (Marks.afterDelete (min a b) (max a b)) f.marks id
    rw [Nat.min_eq_left hab, Nat.max_eq_right hab] at hm
    simpa [h, mark?, Marks.deleted, Nat.min_eq_left hab, Nat.max_eq_right hab] using hm

theorem replace_text (f : Frame) {a b : Nat} (hab : a ≤ b) (hb : b ≤ f.length) (t : Text) :
    (f.replace a b t).text = f.text.take a ++ (t ++ f.text.drop b) := by
  have htext := f.delete_text hab hb
  have hclamp : (f.delete a b).clamp a = a := by
    rw [clamp, length, htext, List.length_append, List.length_take]
    change b ≤ f.text.length at hb
    omega
  have hlength : (f.text.take a).length = a := by
    change b ≤ f.text.length at hb
    rw [List.length_take]
    omega
  rw [replace, insert_text, hclamp, htext, List.take_left' hlength, List.drop_left' hlength]

/-- A mark behind text that is replaced moves with the end of the new text. -/
theorem mark?_replace {f : Frame} {id : MarkId} {k : Nat} (hk : f.mark? id = some k) {a b : Nat}
    (hab : a ≤ b) (hbk : b ≤ k) (hb : b ≤ f.length) (t : Text) :
    (f.replace a b t).mark? id = some (k - (b - a) + t.length) := by
  have ha : a ≤ (f.delete a b).length := by
    rw [length, delete_text f hab hb, List.length_append, List.length_take]
    change b ≤ f.text.length at hb
    omega
  have hdelete : Marks.afterDelete a b k = k - (b - a) := by
    simp only [Marks.afterDelete]
    split
    · omega
    · rw [if_neg (by omega)]
  rw [replace, mark?_insert _ _ ha, mark?_delete _ _ hab hb, hk, Option.map_some, Option.map_some,
    hdelete, Marks.afterInsert, if_pos (by omega)]

end Frame

/-! The marks of lines through edits. An edit takes each line to another or removes it, and the mark of a line
is to stand where the line has come to, and to be gone with it. -/

/-- Where each line comes to, none if it is removed. Lines are counted from 0. -/
abbrev LineMove := Nat → Option Nat

namespace LineMove

/-- Lines are put in place of others: these are removed, and those behind follow. -/
def splice (first removed added : Nat) : LineMove := fun line =>
  if line < first then some line
  else if line < first + removed then none
  else some (line - removed + added)

/-- One move after another. -/
def andThen (m m' : LineMove) : LineMove := fun line => (m line).bind m'

end LineMove

namespace Frame

/-- The offsets of a mark, of which the first one counts. -/
def offsets (f : Frame) (id : MarkId) : List Nat := (f.marks.filter (·.1 = id)).map (·.2)

theorem mark?_eq_head? (f : Frame) (id : MarkId) : f.mark? id = (f.offsets id).head? := by
  unfold mark? Marks.get? offsets
  induction f.marks with
  | nil => rfl
  | cons m marks ih =>
    obtain ⟨id', offset⟩ := m
    by_cases h : id = id'
    · subst h
      simp
    · have h' : ¬ id' = id := fun he => h he.symm
      rw [List.lookup_cons, List.filter_cons_of_neg (by simpa using h'), beq_false_of_ne h]
      exact ih

section offsets
variable (f : Frame) (id : MarkId)

theorem offsets_mapOffset {marks : Marks} (g : Nat → Nat) (h : f.marks = marks.mapOffset g) :
    f.offsets id = ((marks.filter (·.1 = id)).map (·.2)).map g := by
  rw [offsets, h, Marks.mapOffset, List.filter_map, List.map_map, List.map_map]
  rfl

theorem offsets_insert {offset : Nat} (h : offset ≤ f.length) (t : Text) :
    (f.insert offset t).offsets id = (f.offsets id).map (Marks.afterInsert offset t.length) := by
  unfold insert
  split
  · next ht =>
    subst ht
    have hstay : Marks.afterInsert offset 0 = fun k => k := by
      funext k
      simp [Marks.afterInsert]
    rw [List.length_nil, hstay, List.map_id']
  · rw [clamp, Nat.min_eq_left h]
    exact offsets_mapOffset _ id _ rfl

theorem offsets_delete {a b : Nat} (hab : a ≤ b) (hb : b ≤ f.length) :
    (f.delete a b).offsets id = (f.offsets id).map (Marks.afterDelete a b) := by
  have ha : f.clamp (min a b) = a := by simp [clamp]; omega
  have hb : f.clamp (max a b) = b := by simp [clamp]; omega
  unfold delete
  rw [ha, hb]
  dsimp only
  split
  · next h =>
    subst h
    have hstay : Marks.afterDelete a a = (fun k => k) := by
      funext k
      simp only [Marks.afterDelete]
      split
      · rfl
      · rw [if_neg (by omega)]
        omega
    rw [hstay, List.map_id']
  · refine offsets_mapOffset _ id _ ?_
    simp [Marks.deleted, Nat.min_eq_left hab, Nat.max_eq_right hab]

theorem offsets_replace {a b : Nat} (hab : a ≤ b) (hb : b ≤ f.length) (t : Text) :
    (f.replace a b t).offsets id =
      (f.offsets id).map fun offset => Marks.afterInsert a t.length (Marks.afterDelete a b offset) := by
  have ha : a ≤ (f.delete a b).length := by
    rw [length, delete_text f hab hb, List.length_append, List.length_take]
    change b ≤ f.text.length at hb
    omega
  rw [replace, offsets_insert _ _ ha, offsets_delete _ _ hab hb, List.map_map]
  rfl

theorem offsets_clearMarksWithin (hid : id.diesWithText) (a b : Nat) :
    (f.clearMarksWithin a b).offsets id = (f.offsets id).filter fun offset => !(a ≤ offset && offset < b) := by
  unfold offsets
  rw [List.filter_map, List.filter_filter, clearMarksWithin, Marks.clearWithin, List.filter_filter]
  congr 1
  refine List.filter_congr fun m _ => ?_
  by_cases hm : m.1 = id
  · simp [hm, hid]
  · simp [hm]

@[simp] theorem offsets_setMark_self (offset : Nat) : (f.setMark id offset).offsets id = [f.clamp offset] := by
  simp [offsets, setMark, Marks.set, Marks.unset]

theorem offsets_setMark_ne {id id' : MarkId} (h : id ≠ id') (offset : Nat) :
    (f.setMark id' offset).offsets id = f.offsets id := by
  have hne : ¬ id' = id := fun he => h he.symm
  unfold offsets setMark Marks.set Marks.unset
  rw [List.filter_cons_of_neg (by simpa using hne), List.filter_filter]
  congr 1
  refine List.filter_congr fun m _ => ?_
  by_cases hm : m.1 = id
  · simp [hm, h]
  · simp [hm]

theorem offsets_unsetMark_ne {id id' : MarkId} (h : id ≠ id') : (f.unsetMark id').offsets id = f.offsets id := by
  unfold offsets unsetMark Marks.unset
  rw [List.filter_filter]
  congr 1
  refine List.filter_congr fun m _ => ?_
  by_cases hm : m.1 = id
  · simp [hm, h]
  · simp [hm]

@[simp] theorem offsets_openGroup : f.openGroup.offsets id = f.offsets id := by
  rw [offsets, openGroup, remember_marks, offsets]

end offsets

@[simp] theorem remember_streaming (f : Frame) : f.remember.streaming = f.streaming := by
  unfold remember
  split <;> rfl

@[simp] theorem openGroup_streaming (f : Frame) : f.openGroup.streaming = f.streaming := f.remember_streaming

@[simp] theorem insert_streaming (f : Frame) (offset : Nat) (t : Text) :
    (f.insert offset t).streaming = f.streaming := by
  unfold insert
  split
  · rfl
  · exact f.remember_streaming

@[simp] theorem delete_streaming (f : Frame) (a b : Nat) : (f.delete a b).streaming = f.streaming := by
  unfold delete
  dsimp only
  split
  · rfl
  · exact f.remember_streaming

/-- The mark of a line is where the line is, as told by `stands`, and is not there if the line is not. -/
def Tracks (stands : Text → Nat → Nat → Prop) (f : Frame) (k : Nat) (line : Option Nat) : Prop :=
  ∃ offset : Option Nat, f.offsets (.line k) = offset.toList ∧ Option.Rel (stands f.text) offset line

/-- An edit that takes the marks of lines where it takes the lines. -/
structure Carries (stands : Text → Nat → Nat → Prop) (f g : Frame) (move : LineMove) : Prop where
  streaming : g.streaming = f.streaming
  tracks : ∀ k line, Tracks stands f k line → Tracks stands g k (line.bind move)

section carries
variable {stands : Text → Nat → Nat → Prop} {f g h : Frame} {move move' : LineMove}

theorem Tracks.mark? {k : Nat} {line : Option Nat} (h : Tracks stands f k line) :
    Option.Rel (stands f.text) (f.mark? (.line k)) line := by
  obtain ⟨offset, ho, hrel⟩ := h
  rw [mark?_eq_head?, ho]
  cases offset <;> exact hrel

theorem Tracks.exists_mark {k line : Nat} (h : Tracks stands f k (some line)) :
    ∃ offset, f.mark? (.line k) = some offset ∧ stands f.text offset line := by
  have hrel := h.mark?
  generalize f.mark? (.line k) = mark at hrel
  cases hrel with
  | some hst => exact ⟨_, rfl, hst⟩

theorem Tracks.mono {stands' : Text → Nat → Nat → Prop} (hs : ∀ offset line, stands f.text offset line →
    stands' f.text offset line) {k : Nat} {line : Option Nat} (h : Tracks stands f k line) :
    Tracks stands' f k line := by
  obtain ⟨offset, ho, hrel⟩ := h
  refine ⟨offset, ho, ?_⟩
  cases hrel with
  | some hst => exact .some (hs _ _ hst)
  | none => exact .none

/-- What leaves the text and the mark of a line alone leaves it where it is. -/
theorem Tracks.of_eq {k : Nat} {line : Option Nat} (h : Tracks stands f k line) (ht : g.text = f.text)
    (ho : g.offsets (.line k) = f.offsets (.line k)) : Tracks stands g k line := by
  unfold Tracks
  rw [ht, ho]
  exact h

/-- Marks are taken along if each offset is. -/
theorem Carries.of_offsets (shift : Nat → Option Nat) (hstream : g.streaming = f.streaming)
    (ho : ∀ k, g.offsets (.line k) = (f.offsets (.line k)).filterMap shift)
    (hs : ∀ offset line, stands f.text offset line → Option.Rel (stands g.text) (shift offset) (move line)) :
    Carries stands f g move where
  streaming := hstream
  tracks k line := by
    rintro ⟨offset, hoff, hrel⟩
    cases hrel with
    | some hst =>
      next offset line =>
      exact ⟨shift offset, by rw [ho, hoff]; cases h : shift offset <;> simp [h], hs _ _ hst⟩
    | none => exact ⟨none, by rw [ho, hoff]; rfl, .none⟩

theorem Carries.refl (stands : Text → Nat → Nat → Prop) (f : Frame) : Carries stands f f some where
  streaming := rfl
  tracks k line h := by simpa using h

theorem Carries.trans (h₁ : Carries stands f g move) (h₂ : Carries stands g h move') :
    Carries stands f h (move.andThen move') where
  streaming := h₂.streaming.trans h₁.streaming
  tracks k line hk := by
    have hboth := h₂.tracks k _ (h₁.tracks k line hk)
    rwa [Option.bind_assoc] at hboth

/-- What is done besides has nothing to do with text and line marks. -/
theorem Carries.congr (hc : Carries stands f g move) (ht : h.text = g.text)
    (hm : ∀ k, h.offsets (.line k) = g.offsets (.line k)) (hs : h.streaming = g.streaming) :
    Carries stands f h move where
  streaming := hs.trans hc.streaming
  tracks k line hk := (hc.tracks k line hk).of_eq ht (hm k)

theorem Carries.goToLine (hc : Carries stands f g move) (n : Nat) : Carries stands f (g.goToLine n) move :=
  hc.congr rfl (fun _ => rfl) rfl

end carries

end Frame
end ExEditor
