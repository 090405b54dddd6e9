import ExEditor.Proofs.Frame.Tracks

/-! The positions of a frame: its cursor, the ends of its selection and its marks. They lie within the text whatever
is done, and edits take a cursor and a mark along with the character that they stand on. Which character that is, is
told by where it came from. -/
namespace ExEditor

/-- Characters, each with the offset that it had in an earlier text, none if it was not there. -/
abbrev Traced := List (Char × Option Nat)

/-- A text in which each character is where it came from. -/
def Text.traced (t : Text) : Traced := t.zipIdx.map fun (c, offset) => (c, some offset)

namespace Traced

/-- Characters are inserted that were not there. -/
def insert (chars : Traced) (offset : Nat) (t : Text) : Traced :=
  chars.take offset ++ (t.map (·, none) ++ chars.drop offset)

/-- The characters between two offsets, which may come in either order, are deleted. -/
def delete (chars : Traced) (a b : Nat) : Traced := chars.take (min a b) ++ chars.drop (max a b)

end Traced

namespace Marks

theorem afterInsert_zero (place offset : Nat) : afterInsert place 0 offset = offset := by simp [afterInsert]

theorem afterDelete_self (place offset : Nat) : afterDelete place place offset = offset := by
  unfold afterDelete
  split
  · rfl
  · rw [if_neg (by omega)]
    omega

theorem afterInsert_le {place length offset bound : Nat} (h : offset ≤ bound) :
    afterInsert place length offset ≤ bound + length := by
  unfold afterInsert
  split <;> omega

theorem afterDelete_le {first last offset bound : Nat} (hlast : last ≤ bound) (hfirst : first ≤ last)
    (h : offset ≤ bound) : afterDelete first last offset ≤ bound - (last - first) := by
  unfold afterDelete
  split
  · omega
  · split <;> omega

theorem mapOffset_self {g : Nat → Nat} (h : ∀ offset, g offset = offset) (marks : Marks) : marks.mapOffset g = marks :=
  (List.map_congr_left fun m _ => by rw [h]; rfl).trans marks.map_id

end Marks

namespace Frame

/-! ### What edits do to positions -/

section edits
variable (f : Frame)

theorem clamp_le (offset : Nat) : f.clamp offset ≤ f.length := Nat.min_le_right _ _

theorem clamp_min_le (a b : Nat) : f.clamp (min a b) ≤ f.clamp (max a b) := by
  unfold clamp
  omega

theorem take_clamp (offset : Nat) : f.text.take (f.clamp offset) = f.text.take offset := List.take_eq_take_min.symm

theorem drop_clamp (offset : Nat) : f.text.drop (f.clamp offset) = f.text.drop offset := by
  unfold clamp length
  rcases Nat.le_total offset f.text.length with h | h
  · rw [Nat.min_eq_left h]
  · rw [Nat.min_eq_right h, List.drop_length, List.drop_eq_nil_of_le h]

theorem insert_length (offset : Nat) (t : Text) : (f.insert offset t).length = f.length + t.length := by
  have hle := f.clamp_le offset
  unfold length at *
  rw [insert_text, List.length_append, List.length_append, List.length_take, List.length_drop]
  omega

theorem insert_cursor (offset : Nat) (t : Text) :
    (f.insert offset t).cursor = Marks.afterInsert (f.clamp offset) t.length f.cursor := by
  unfold insert
  split
  · next h =>
    rw [h]
    exact (Marks.afterInsert_zero _ _).symm
  · rfl

theorem insert_marks (offset : Nat) (t : Text) :
    (f.insert offset t).marks = f.marks.mapOffset (Marks.afterInsert (f.clamp offset) t.length) := by
  unfold insert
  split
  · next h =>
    rw [h]
    exact (Marks.mapOffset_self (Marks.afterInsert_zero _) _).symm
  · rfl

theorem insert_selection (offset : Nat) (t : Text) : (f.insert offset t).selection = f.selection := by
  unfold insert
  split
  · rfl
  · exact f.remember_selection

/-- The characters between two offsets are deleted, whichever comes first and how far they lie behind the text. -/
theorem delete_text_clamp (a b : Nat) : (f.delete a b).text = f.text.take (min a b) ++ f.text.drop (max a b) := by
  rw [← f.take_clamp, ← f.drop_clamp]
  unfold delete
  dsimp only
  split
  · next h => rw [h, List.take_append_drop]
  · rfl

theorem delete_length (a b : Nat) :
    (f.delete a b).length = f.length - (f.clamp (max a b) - f.clamp (min a b)) := by
  have hle := f.clamp_min_le a b
  unfold clamp length at *
  rw [delete_text_clamp, List.length_append, List.length_take, List.length_drop]
  omega

theorem delete_cursor (a b : Nat) :
    (f.delete a b).cursor = Marks.afterDelete (f.clamp (min a b)) (f.clamp (max a b)) f.cursor := by
  unfold delete
  dsimp only
  split
  · next h => rw [h, Marks.afterDelete_self]
  · rfl

theorem delete_marks (a b : Nat) :
    (f.delete a b).marks = f.marks.mapOffset (Marks.afterDelete (f.clamp (min a b)) (f.clamp (max a b))) := by
  unfold delete
  dsimp only
  split
  · next h => rw [h, Marks.mapOffset_self (Marks.afterDelete_self _)]
  · rw [Marks.deleted, Nat.min_eq_left (f.clamp_min_le a b), Nat.max_eq_right (f.clamp_min_le a b)]

/-- Where something is deleted the selection is empty afterwards. -/
theorem delete_selection (a b : Nat) :
    f.delete a b = f ∨ ∃ n, (f.delete a b).selection = .caret (min n (f.delete a b).length) := by
  unfold delete
  dsimp only
  split
  · exact .inl rfl
  · exact .inr ⟨_, rfl⟩

end edits

/-! ### Operations -/

/-- What can be done to a frame. -/
inductive Operation
  | insert (offset : Nat) (t : Text)
  | delete (a b : Nat)
  | replace (first last : Nat) (t : Text)
  | setCursor (offset : Nat)
  | select (s : Selection)
  | setMark (id : MarkId) (offset : Nat)
  | unsetMark (id : MarkId)
  | clearMarksWithin (first last : Nat)
  | openGroup
  | closeGroup
  | undo

namespace Operation

/-- Whether the operation inserts and deletes, or does nothing to the text and the positions in it. -/
def edits : Operation → Bool
  | insert _ _ | delete _ _ | replace _ _ _ | select _ | openGroup | closeGroup => true
  | _ => false

/-- What the operation makes of a frame. -/
def apply (f : Frame) : Operation → Frame
  | insert offset t => f.insert offset t
  | delete a b => f.delete a b
  | replace first last t => f.replace first last t
  | setCursor offset => f.setCursor offset
  | select s => f.select s
  | setMark id offset => f.setMark id offset
  | unsetMark id => f.unsetMark id
  | clearMarksWithin first last => f.clearMarksWithin first last
  | openGroup => f.openGroup
  | closeGroup => f.closeGroup
  | undo => f.undo.1

/-- What the operation makes of characters that are traced. -/
def trace (chars : Traced) : Operation → Traced
  | insert offset t => chars.insert offset t
  | delete a b => chars.delete a b
  | replace first last t => (chars.delete first last).insert first t
  | _ => chars

end Operation

/-- What operations make of a frame, one after the other. -/
def operate (f : Frame) (operations : List Operation) : Frame := operations.foldl Operation.apply f

/-- The characters of a frame after operations, with the offsets that they had before. -/
def traced (f : Frame) (operations : List Operation) : Traced := operations.foldl Operation.trace f.text.traced

/-! ### Within the text -/

/-- All positions lie within the text or at its end. -/
structure Within (f : Frame) : Prop where
  cursor : f.cursor ≤ f.length
  anchor : f.selection.anchor ≤ f.length
  head : f.selection.head ≤ f.length
  marks : ∀ m ∈ f.marks, m.2 ≤ f.length

section within
variable {f : Frame}

theorem ofText_within (t : Text) : (ofText t).Within := ⟨Nat.zero_le _, Nat.zero_le _, Nat.zero_le _, nofun⟩

theorem Within.insert (h : f.Within) (offset : Nat) (t : Text) : (f.insert offset t).Within := by
  refine ⟨?_, ?_, ?_, fun m hm => ?_⟩
  · rw [insert_length, insert_cursor]
    exact Marks.afterInsert_le h.cursor
  · rw [insert_length, insert_selection]
    exact Nat.le_add_right_of_le h.anchor
  · rw [insert_length, insert_selection]
    exact Nat.le_add_right_of_le h.head
  · rw [insert_marks] at hm
    obtain ⟨m', hm', rfl⟩ := List.mem_map.mp hm
    rw [insert_length]
    exact Marks.afterInsert_le (h.marks m' hm')

theorem Within.delete (h : f.Within) (a b : Nat) : (f.delete a b).Within := by
  have hlast := f.clamp_le (max a b)
  have hmono := f.clamp_min_le a b
  have hselection : (f.delete a b).selection.anchor ≤ (f.delete a b).length ∧
      (f.delete a b).selection.head ≤ (f.delete a b).length := by
    obtain hsame | ⟨n, hcaret⟩ := f.delete_selection a b
    · rw [hsame]
      exact ⟨h.anchor, h.head⟩
    · rw [hcaret]
      exact ⟨Nat.min_le_right _ _, Nat.min_le_right _ _⟩
  refine ⟨?_, hselection.1, hselection.2, fun m hm => ?_⟩
  · rw [delete_length, delete_cursor]
    exact Marks.afterDelete_le hlast hmono h.cursor
  · rw [delete_marks] at hm
    obtain ⟨m', hm', rfl⟩ := List.mem_map.mp hm
    rw [delete_length]
    exact Marks.afterDelete_le hlast hmono (h.marks m' hm')

theorem Within.undo (h : f.Within) : f.undo.1.Within := by
  unfold Frame.undo
  split
  · exact ⟨h.cursor, h.anchor, h.head, h.marks⟩
  · refine ⟨Nat.min_le_right _ _, Nat.min_le_right _ _, Nat.min_le_right _ _, fun m hm => ?_⟩
    obtain ⟨m', -, rfl⟩ := List.mem_map.mp hm
    exact Nat.min_le_right _ _

theorem Within.openGroup (h : f.Within) : f.openGroup.Within := by
  unfold Frame.openGroup Frame.remember
  split <;> exact ⟨h.cursor, h.anchor, h.head, h.marks⟩

/-- No operation leads out of the text. -/
theorem Within.apply (h : f.Within) (operation : Operation) : (operation.apply f).Within := by
  cases operation with
  | insert offset t => exact h.insert offset t
  | delete a b => exact h.delete a b
  | replace first last t => exact (h.delete first last).insert first t
  | setCursor offset => exact ⟨f.clamp_le offset, h.anchor, h.head, h.marks⟩
  | select s => exact ⟨h.cursor, f.clamp_le _, f.clamp_le _, h.marks⟩
  | setMark id offset =>
    refine ⟨h.cursor, h.anchor, h.head, fun m hm => ?_⟩
    obtain rfl | hm := List.mem_cons.mp hm
    · exact f.clamp_le offset
    · exact h.marks m (List.mem_of_mem_filter hm)
  | unsetMark id => exact ⟨h.cursor, h.anchor, h.head, fun m hm => h.marks m (List.mem_of_mem_filter hm)⟩
  | clearMarksWithin first last =>
    exact ⟨h.cursor, h.anchor, h.head, fun m hm => h.marks m (List.mem_of_mem_filter hm)⟩
  | openGroup => exact h.openGroup
  | closeGroup => exact ⟨h.cursor, h.anchor, h.head, h.marks⟩
  | undo => exact h.undo

theorem Within.operate (h : f.Within) (operations : List Operation) : (f.operate operations).Within :=
  List.foldlRecOn operations _ h fun _ hg operation _ => hg.apply operation

end within

/-! ### In step with the text -/

/-- A frame that another became, with its characters and where they came from. Each character that was there before
has gone where `moved` takes its offset, and so have the cursor and the marks. -/
structure InStep (f g : Frame) (chars : Traced) (moved : Nat → Nat) : Prop where
  text : chars.map (·.1) = g.text
  origins : ∀ j c k, chars[j]? = some (c, some k) → f.text[k]? = some c ∧ moved k = j
  cursor : g.cursor = moved f.cursor
  marks : g.marks = f.marks.mapOffset moved

section inStep
variable {f g : Frame} {chars : Traced} {moved : Nat → Nat}

theorem InStep.start (f : Frame) : InStep f f f.text.traced id where
  text := by
    unfold Text.traced
    rw [List.map_map]
    exact List.zipIdx_map_fst 0 f.text
  origins j c k h := by
    unfold Text.traced at h
    simp only [List.getElem?_map, List.getElem?_zipIdx, Option.map_map, Option.map_eq_some_iff, Function.comp_apply,
      Prod.mk.injEq, Option.some_inj] at h
    obtain ⟨c', hc, rfl, rfl⟩ := h
    exact ⟨by simpa using hc, by simp⟩
  cursor := rfl
  marks := (Marks.mapOffset_self (fun _ => rfl) _).symm

/-- What is not new in a traced text was there before. -/
theorem Traced.insert_origin {chars : Traced} {offset : Nat} {t : Text} {i k : Nat} {c : Char}
    (h : (chars.insert offset t)[i]? = some (c, some k)) :
    ∃ j, chars[j]? = some (c, some k) ∧ Marks.afterInsert (min offset chars.length) t.length j = i := by
  unfold Traced.insert at h
  unfold Marks.afterInsert
  rcases Nat.lt_or_ge i (min offset chars.length) with hfront | hfront
  · refine ⟨i, ?_, by rw [if_neg (by omega)]⟩
    rwa [List.getElem?_append_left (by rw [List.length_take]; omega), List.getElem?_take_of_lt (by omega)] at h
  · rw [List.getElem?_append_right (by rw [List.length_take]; omega), List.length_take] at h
    rcases Nat.lt_or_ge (i - min offset chars.length) t.length with hnew | hback
    · rw [List.getElem?_append_left (by rwa [List.length_map]), List.getElem?_map] at h
      obtain ⟨c', -, hc⟩ := Option.map_eq_some_iff.mp h
      cases hc
    · rw [List.getElem?_append_right (by rwa [List.length_map]), List.length_map, List.getElem?_drop] at h
      have hlt : offset + (i - min offset chars.length - t.length) < chars.length :=
        (List.getElem?_eq_some_iff.mp h).1
      exact ⟨_, h, by rw [if_pos (by omega)]; omega⟩

theorem Traced.delete_origin {chars : Traced} {a b : Nat} {i k : Nat} {c : Char}
    (h : (chars.delete a b)[i]? = some (c, some k)) :
    ∃ j, chars[j]? = some (c, some k) ∧
      Marks.afterDelete (min (min a b) chars.length) (min (max a b) chars.length) j = i := by
  unfold Traced.delete at h
  unfold Marks.afterDelete
  rcases Nat.lt_or_ge i (min (min a b) chars.length) with hfront | hfront
  · refine ⟨i, ?_, by rw [if_pos (by omega)]⟩
    rwa [List.getElem?_append_left (by rw [List.length_take]; omega), List.getElem?_take_of_lt (by omega)] at h
  · rw [List.getElem?_append_right (by rw [List.length_take]; omega), List.length_take, List.getElem?_drop] at h
    have hlt : max a b + (i - min (min a b) chars.length) < chars.length := (List.getElem?_eq_some_iff.mp h).1
    refine ⟨_, h, ?_⟩
    split
    · omega
    · rw [if_neg (by omega)]
      omega

theorem InStep.length (h : InStep f g chars moved) : chars.length = g.length := by
  unfold Frame.length
  rw [← h.text, List.length_map]

theorem InStep.insert (h : InStep f g chars moved) (offset : Nat) (t : Text) :
    InStep f (g.insert offset t) (chars.insert offset t)
      (Marks.afterInsert (g.clamp offset) t.length ∘ moved) where
  text := by
    have hnew : (t.map fun c => ((c, none) : Char × Option Nat)).map (·.1) = t := by
      rw [List.map_map]
      exact t.map_id
    rw [insert_text, take_clamp, drop_clamp, Traced.insert, List.map_append, List.map_append, List.map_take,
      List.map_drop, h.text, hnew]
  origins i c k hi := by
    obtain ⟨j, hj, hmoved⟩ := Traced.insert_origin hi
    obtain ⟨hchar, hk⟩ := h.origins j c k hj
    refine ⟨hchar, ?_⟩
    rw [Function.comp_apply, hk, clamp, ← h.length]
    exact hmoved
  cursor := by rw [insert_cursor, h.cursor, Function.comp_apply]
  marks := by
    rw [insert_marks, h.marks, Marks.mapOffset, Marks.mapOffset, List.map_map]
    rfl

theorem InStep.delete (h : InStep f g chars moved) (a b : Nat) :
    InStep f (g.delete a b) (chars.delete a b)
      (Marks.afterDelete (g.clamp (min a b)) (g.clamp (max a b)) ∘ moved) where
  text := by
    rw [delete_text_clamp, Traced.delete, List.map_append, List.map_take, List.map_drop, h.text]
  origins i c k hi := by
    obtain ⟨j, hj, hmoved⟩ := Traced.delete_origin hi
    obtain ⟨hchar, hk⟩ := h.origins j c k hj
    refine ⟨hchar, ?_⟩
    rw [Function.comp_apply, hk, clamp, clamp, ← h.length]
    exact hmoved
  cursor := by rw [delete_cursor, h.cursor, Function.comp_apply]
  marks := by
    rw [delete_marks, h.marks, Marks.mapOffset, Marks.mapOffset, List.map_map]
    rfl

/-- What leaves the text, the cursor and the marks alone leaves everything in step. -/
theorem InStep.of_eq {g' : Frame} (h : InStep f g chars moved) (htext : g'.text = g.text) (hcursor : g'.cursor = g.cursor)
    (hmarks : g'.marks = g.marks) : InStep f g' chars moved :=
  ⟨h.text.trans htext.symm, h.origins, hcursor.trans h.cursor, hmarks.trans h.marks⟩

/-- An edit keeps everything in step. -/
theorem InStep.apply (h : InStep f g chars moved) {operation : Operation} (hop : operation.edits) :
    ∃ moved, InStep f (operation.apply g) (operation.trace chars) moved := by
  cases operation with
  | insert offset t => exact ⟨_, h.insert offset t⟩
  | delete a b => exact ⟨_, h.delete a b⟩
  | replace first last t => exact ⟨_, (h.delete first last).insert first t⟩
  | select s => exact ⟨_, h.of_eq rfl rfl rfl⟩
  | openGroup =>
    have hcursor : g.openGroup.cursor = g.cursor := by
      unfold openGroup remember
      split <;> rfl
    exact ⟨_, h.of_eq g.openGroup_text hcursor g.remember_marks⟩
  | closeGroup => exact ⟨_, h.of_eq rfl rfl rfl⟩
  | _ => cases hop

theorem InStep.operate (h : InStep f g chars moved) {operations : List Operation}
    (hops : ∀ operation ∈ operations, operation.edits) :
    ∃ moved, InStep f (g.operate operations) (operations.foldl Operation.trace chars) moved := by
  induction operations generalizing g chars moved with
  | nil => exact ⟨moved, h⟩
  | cons operation operations ih =>
    obtain ⟨hop, hops⟩ := List.forall_mem_cons.mp hops
    obtain ⟨moved, hstep⟩ := h.apply hop
    exact ih hstep hops

end inStep

/-- Positions stay valid and in step. A frame made of a text has its positions within it, and so it has after
operations of any kind. Through edits, which may come after any operations, a character that is still there is where
the cursor stands if it stood on it, and where a mark stands if that did; a cursor and a mark that stood at the same
offset still do; and a deletion leaves a cursor or a mark that stood inside of it where it began. -/
theorem positions_stay_in_step :
    (∀ t, (ofText t).Within) ∧ ∀ (f : Frame) (operations edits : List Operation), f.Within →
      (∀ operation ∈ edits, operation.edits) →
      let before := f.operate operations
      let after := before.operate edits
      let chars := before.traced edits
      before.Within ∧ after.Within ∧ chars.map (·.1) = after.text ∧
      (∀ j c k, chars[j]? = some (c, some k) → before.text[k]? = some c ∧ (before.cursor = k → after.cursor = j) ∧
        ∀ id, before.mark? id = some k → after.mark? id = some j) ∧
      (∀ id, before.mark? id = some before.cursor → after.mark? id = some after.cursor) ∧
      ∀ a b k, after.clamp (min a b) ≤ k → k < after.clamp (max a b) →
        (after.cursor = k → (after.delete a b).cursor = after.clamp (min a b)) ∧
        ∀ id, after.mark? id = some k → (after.delete a b).mark? id = some (after.clamp (min a b)) := by
  refine ⟨ofText_within, fun f operations edits hf hedits => ?_⟩
  intro before after chars
  obtain ⟨moved, hstep⟩ : ∃ moved, InStep before after chars moved := (InStep.start before).operate hedits
  have hmark : ∀ id k, before.mark? id = some k → after.mark? id = some (moved k) := by
    intro id k hk
    rw [mark?, hstep.marks, Marks.get?_mapOffset, show before.marks.get? id = some k from hk, Option.map_some]
  refine ⟨hf.operate operations, (hf.operate operations).operate edits, hstep.text, fun j c k hj => ?_, fun id hid => ?_,
    fun a b k hfirst hlast => ?_⟩
  · obtain ⟨hchar, hk⟩ := hstep.origins j c k hj
    refine ⟨hchar, fun hcursor => ?_, fun id hid => ?_⟩
    · rw [hstep.cursor, hcursor, hk]
    · rw [hmark id k hid, hk]
  · rw [hmark id _ hid, hstep.cursor]
  · have hinside : Marks.afterDelete (after.clamp (min a b)) (after.clamp (max a b)) k = after.clamp (min a b) := by
      unfold Marks.afterDelete
      split
      · omega
      · rfl
    refine ⟨fun hcursor => ?_, fun id hid => ?_⟩
    · rw [delete_cursor, hcursor, hinside]
    · rw [mark?, delete_marks, Marks.get?_mapOffset, show after.marks.get? id = some k from hid, Option.map_some, hinside]

/-- A mark and the cursor on one character, behind text that is inserted and text that is deleted from its other end,
and a mark inside of what is deleted. Before that an edit is undone. -/
theorem positions_stay_in_step_word :
    let operations : List Operation :=
      [.insert 0 "x", .undo, .setMark (.named 'a') 6, .setMark (.named 'b') 2, .setCursor 6, .select ⟨0, 99, .lines⟩]
    let edits : List Operation := [.openGroup, .insert 5 " big".toList, .replace 4 1 "", .closeGroup]
    let before := (ofText "hello world".toList).operate operations
    let after := before.operate edits
    before.text = "hello world".toList ∧ after.text = "ho big world".toList ∧ before.text[6]? = some 'w' ∧
      after.cursor = 7 ∧ after.mark? (.named 'a') = some 7 ∧ after.mark? (.named 'b') = some 1 ∧
      (after.delete 99 6).cursor = 6 ∧ (after.delete 99 6).mark? (.named 'a') = some 6 ∧ after.Within := by
  intro operations edits before after
  obtain ⟨hnew, hpositions⟩ := positions_stay_in_step
  obtain ⟨-, hwithin, -, hchars, hmet, hdeleted⟩ :=
    hpositions (ofText "hello world".toList) operations edits (hnew _) (by decide)
  obtain ⟨hchar, hcursor, hmark⟩ := hchars 7 'w' 6 (by decide)
  have hcursor : after.cursor = 7 := hcursor (by decide)
  have hmark : after.mark? (.named 'a') = some 7 := hmark (.named 'a') (by decide)
  obtain ⟨hback, hmarkBack⟩ := hdeleted 99 6 7 (by decide) (by decide)
  exact ⟨by decide, by decide, hchar, hcursor, (hmet (.named 'a') (by decide)).trans (by rw [hcursor]), by decide,
    hback hcursor, hmarkBack (.named 'a') hmark, hwithin⟩

end Frame
end ExEditor
