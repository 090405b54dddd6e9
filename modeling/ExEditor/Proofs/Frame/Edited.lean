import ExEditor.Frame.Sort

/-! Edits and the groups they are in. All that is done to a frame but undoing leaves as many groups open
as there were, and while one is open it leaves the history alone, so that the latest text there is the
one from before the outermost group. The marks that commands work with are gone when they are done. -/
namespace ExEditor

/-- Whether a mark is one that a command works with, and not one of the user. -/
def MarkId.isWorking : MarkId → Bool
  | named _ => false
  | _ => true

namespace Marks

/-- What is marked. -/
def ids (marks : Marks) : List MarkId := marks.map Prod.fst

theorem get?_of_not_mem {marks : Marks} {id : MarkId} (h : id ∉ marks.ids) : marks.get? id = none := by
  refine List.lookup_eq_none_iff.mpr fun m hm => ?_
  have hne : id ≠ m.1 := fun heq => h (heq ▸ List.mem_map_of_mem hm)
  simpa using hne

theorem ids_mapOffset (g : Nat → Nat) (marks : Marks) : (marks.mapOffset g).ids = marks.ids := by
  simp [ids, mapOffset]

theorem mem_ids_unset {marks : Marks} {id id' : MarkId} :
    id' ∈ (marks.unset id).ids ↔ id' ∈ marks.ids ∧ id' ≠ id := by
  simp only [ids, unset, List.mem_map, List.mem_filter, decide_eq_true_eq]
  constructor
  · rintro ⟨m, ⟨hm, hne⟩, rfl⟩
    exact ⟨⟨m, hm, rfl⟩, hne⟩
  · rintro ⟨⟨m, hm, rfl⟩, hne⟩
    exact ⟨m, ⟨hm, hne⟩, rfl⟩

theorem mem_ids_set {marks : Marks} {id id' : MarkId} {offset : Nat} :
    id' ∈ (marks.set id offset).ids ↔ id' = id ∨ id' ∈ (marks.unset id).ids := by
  rw [set, ids, List.map_cons, List.mem_cons, ids]

/-- No working mark is set after that was not set before. -/
def NoneNew (before after : Marks) : Prop := ∀ id ∈ after.ids, id.isWorking → id ∈ before.ids

namespace NoneNew
variable {marks marks' marks'' : Marks}

theorem refl (marks : Marks) : marks.NoneNew marks := fun _ hid _ => hid

theorem trans (h : marks.NoneNew marks') (h' : marks'.NoneNew marks'') : marks.NoneNew marks'' :=
  fun id hid hw => h id (h' id hid hw) hw

theorem mapOffset (g : Nat → Nat) (marks : Marks) : marks.NoneNew (marks.mapOffset g) := fun _ hid _ =>
  ids_mapOffset g marks ▸ hid

theorem unset (marks : Marks) (id : MarkId) : marks.NoneNew (marks.unset id) := fun _ hid _ =>
  (mem_ids_unset.mp hid).1

theorem clearWithin (marks : Marks) (first last : Nat) : marks.NoneNew (marks.clearWithin first last) :=
  fun _ hid _ => (List.filter_sublist.map Prod.fst).subset hid

/-- A mark of the user is no working mark. -/
theorem set_named (marks : Marks) (name : Char) (offset : Nat) :
    marks.NoneNew (marks.set (.named name) offset) := by
  intro id hid hw
  rcases mem_ids_set.mp hid with rfl | hid
  · cases hw
  · exact (mem_ids_unset.mp hid).1

/-- A mark that is set and removed again leaves nothing behind. -/
theorem bracket {id : MarkId} {offset : Nat} (h : (marks.set id offset).NoneNew marks') :
    marks.NoneNew (marks'.unset id) := by
  intro id' hid' hw
  obtain ⟨hset, hne⟩ := mem_ids_unset.mp hid'
  rcases mem_ids_set.mp (h id' hset hw) with heq | hid
  · exact absurd heq hne
  · exact (mem_ids_unset.mp hid).1

end NoneNew
end Marks

namespace Frame

@[simp] theorem remember_text (f : Frame) : f.remember.text = f.text := by
  unfold remember
  split <;> rfl

@[simp] theorem remember_marks (f : Frame) : f.remember.marks = f.marks := by
  unfold remember
  split <;> rfl

@[simp] theorem remember_selection (f : Frame) : f.remember.selection = f.selection := by
  unfold remember
  split <;> rfl

@[simp] theorem remember_lineBreak (f : Frame) : f.remember.lineBreak = f.lineBreak := by
  unfold remember
  split <;> rfl

@[simp] theorem openGroup_text (f : Frame) : f.openGroup.text = f.text := f.remember_text

@[simp] theorem openGroup_mark? (f : Frame) (id : MarkId) : f.openGroup.mark? id = f.mark? id :=
  congrArg (Marks.get? · id) f.remember_marks

@[simp] theorem remember_readOnly (f : Frame) : f.remember.readOnly = f.readOnly := by
  unfold remember
  split <;> rfl

@[simp] theorem remember_binary (f : Frame) : f.remember.binary = f.binary := by
  unfold remember
  split <;> rfl

@[simp] theorem openGroup_cursorLine (f : Frame) : f.openGroup.cursorLine = f.cursorLine := by
  unfold cursorLine lineAt clamp length
  rw [openGroup_text, openGroup, remember]
  split <;> rfl

theorem openGroup_isEditable (f : Frame) : f.openGroup.isEditable = f.isEditable := by
  have hopen : f.openGroup.isEditable = (!f.remember.readOnly && !f.remember.binary) := rfl
  rw [hopen, f.remember_readOnly, f.remember_binary]
  rfl

/-- A frame that another became by edits. -/
structure Edited (f g : Frame) : Prop where
  depth : g.depth = f.depth
  history : 0 < f.depth → g.history = f.history
  readOnly : g.readOnly = f.readOnly
  binary : g.binary = f.binary
  marks : f.marks.NoneNew g.marks

namespace Edited
variable {f g k : Frame}

theorem refl (f : Frame) : f.Edited f := ⟨rfl, fun _ => rfl, rfl, rfl, .refl _⟩

theorem trans (h : f.Edited g) (h' : g.Edited k) : f.Edited k where
  depth := h'.depth.trans h.depth
  history hf := (h'.history (h.depth ▸ hf)).trans (h.history hf)
  readOnly := h'.readOnly.trans h.readOnly
  binary := h'.binary.trans h.binary
  marks := h.marks.trans h'.marks

theorem isEditable (h : f.Edited g) : g.isEditable = f.isEditable := by
  rw [Frame.isEditable, Frame.isEditable, h.readOnly, h.binary]

theorem remember (f : Frame) : f.Edited f.remember := by
  unfold Frame.remember
  split
  · next h => exact ⟨rfl, fun hf => by omega, rfl, rfl, .refl _⟩
  · exact refl f

/-- Edits in a group are edits. -/
theorem group (h : f.openGroup.Edited g) : f.Edited g.closeGroup where
  depth := by
    have hd : g.depth = f.depth + 1 := h.depth.trans (by unfold openGroup; rfl)
    rw [closeGroup, hd]
    rfl
  history hf := (h.history (Nat.succ_pos f.depth)).trans ((remember f).history hf)
  readOnly := h.readOnly.trans f.remember_readOnly
  binary := h.binary.trans f.remember_binary
  marks := by
    have hmarks : f.remember.marks.NoneNew g.marks := h.marks
    rwa [f.remember_marks] at hmarks

/-- Edits between setting a mark and removing it are edits. -/
theorem bracket {id : MarkId} {offset : Nat} (h : (f.setMark id offset).Edited g) : f.Edited (g.unsetMark id) :=
  ⟨h.depth, h.history, h.readOnly, h.binary, h.marks.bracket⟩

end Edited

/-- A frame whose text and history are those of another. -/
structure Still (f g : Frame) : Prop where
  text : g.text = f.text
  history : g.history = f.history

theorem Still.refl (f : Frame) : f.Still f := ⟨rfl, rfl⟩

theorem Still.trans {f g k : Frame} (h : f.Still g) (h' : g.Still k) : f.Still k :=
  ⟨h'.text.trans h.text, h'.history.trans h.history⟩

variable (f : Frame)

theorem edited_insert (offset : Nat) (t : Text) : f.Edited (f.insert offset t) := by
  unfold insert
  split
  · exact .refl f
  · refine (Edited.remember f).trans ⟨rfl, fun _ => rfl, rfl, rfl, ?_⟩
    rw [f.remember_marks]
    exact .mapOffset _ _

theorem edited_delete (a b : Nat) : f.Edited (f.delete a b) := by
  unfold delete
  dsimp only
  split
  · exact .refl f
  · refine (Edited.remember f).trans ⟨rfl, fun _ => rfl, rfl, rfl, ?_⟩
    rw [f.remember_marks]
    exact .mapOffset _ _

theorem edited_replace (a b : Nat) (t : Text) : f.Edited (f.replace a b t) :=
  (f.edited_delete a b).trans (edited_insert _ a t)

theorem edited_setCursor (offset : Nat) : f.Edited (f.setCursor offset) := ⟨rfl, fun _ => rfl, rfl, rfl, .refl _⟩
theorem edited_goToLine (line : Nat) : f.Edited (f.goToLine line) := f.edited_setCursor _
theorem edited_select (s : Selection) : f.Edited (f.select s) := ⟨rfl, fun _ => rfl, rfl, rfl, .refl _⟩

theorem edited_setNamed (name : Char) (offset : Nat) : f.Edited (f.setMark (.named name) offset) :=
  ⟨rfl, fun _ => rfl, rfl, rfl, .set_named _ _ _⟩

theorem edited_unsetMark (id : MarkId) : f.Edited (f.unsetMark id) :=
  ⟨rfl, fun _ => rfl, rfl, rfl, .unset _ _⟩

theorem unsetMark_comm (id id' : MarkId) : (f.unsetMark id).unsetMark id' = (f.unsetMark id').unsetMark id := by
  have hmarks : (f.marks.unset id).unset id' = (f.marks.unset id').unset id := by
    simp only [Marks.unset, List.filter_filter, Bool.and_comm]
  unfold unsetMark
  rw [hmarks]

theorem edited_clearMarksWithin (a b : Nat) : f.Edited (f.clearMarksWithin a b) :=
  ⟨rfl, fun _ => rfl, rfl, rfl, .clearWithin _ _ _⟩

theorem edited_putLines (line : Nat) (t : Text) : f.Edited (f.putLines line t) := by
  unfold putLines
  split
  · exact .refl f
  split
  · exact f.edited_insert 0 t
  dsimp only
  split
  · exact f.edited_insert _ _
  · split <;> exact f.edited_insert _ _

theorem edited_cutLines (first last : Nat) : f.Edited (f.cutLines first last) :=
  (f.edited_clearMarksWithin _ _).trans (edited_delete _ _ _)

theorem edited_deleteLines (first last : Nat) : f.Edited (f.deleteLines first last) :=
  (f.edited_cutLines first last).trans (edited_goToLine _ _)

theorem edited_putAndFollow (line : Nat) (t : Text) : f.Edited (f.putAndFollow line t) :=
  (f.edited_putLines line t).trans (edited_goToLine _ _)

theorem edited_copyLines (first last destination : Nat) : f.Edited (f.copyLines first last destination) :=
  f.edited_putAndFollow _ _

theorem edited_moveLines (first last destination : Nat) : f.Edited (f.moveLines first last destination) :=
  ((f.edited_delete _ _).trans (edited_putLines _ _ _)).trans (edited_goToLine _ _)

theorem edited_insertLine (line : Nat) (t : Text) : f.Edited (f.insertLine line t) :=
  (f.edited_putLines _ _).trans (edited_goToLine _ _)

theorem edited_changeLines (first last : Nat) (t : Text) : f.Edited (f.changeLines first last t) :=
  (f.edited_cutLines first last).trans (edited_insertLine _ _ _)

theorem edited_joinLines (first last : Nat) (asIs : Bool) : f.Edited (f.joinLines first last asIs) :=
  (f.edited_replace _ _ _).trans (edited_goToLine _ _)

theorem edited_replaceLines (first last : Nat) (lines : List Text) :
    f.Edited (f.replaceLines first last lines) :=
  (f.edited_replace _ _ _).trans (edited_goToLine _ _)

theorem edited_indentLine (indent : Text) (line : Nat) : f.Edited (indentLine indent f line) := by
  unfold indentLine
  split
  · exact .refl f
  · exact f.edited_insert _ _

theorem edited_outdentLine (columns tabWidth line : Nat) :
    f.Edited (outdentLine columns tabWidth f line) := f.edited_delete _ _

theorem edited_foldl {α : Type} {change : Frame → α → Frame} (h : ∀ (f : Frame) a, f.Edited (change f a))
    (entries : List α) : f.Edited (entries.foldl change f) :=
  List.foldlRecOn (motive := f.Edited) entries change (.refl f) fun g hg a _ => hg.trans (h g a)

theorem edited_eachLine {change : Frame → Nat → Frame} (h : ∀ (f : Frame) line, f.Edited (change f line))
    (first last : Nat) : f.Edited (f.eachLine change first last) :=
  (Edited.group (edited_foldl f.openGroup h _)).trans (edited_goToLine _ _)

theorem undo_depth : f.undo.1.depth = f.depth := by
  unfold undo
  split <;> rfl

theorem undo_marks : f.marks.NoneNew f.undo.1.marks := by
  unfold undo
  split
  · exact .refl _
  · exact .mapOffset (min · _) _

theorem undo_readOnly : f.undo.1.readOnly = f.readOnly := by
  unfold undo
  split <;> rfl

theorem undo_binary : f.undo.1.binary = f.binary := by
  unfold undo
  split <;> rfl

/-- Undoing takes at least the latest text from the history. -/
theorem undo_history : f.undo.1.history <:+ f.history.tail := by
  unfold undo
  split
  · exact List.nil_suffix
  · next previous older h =>
    have hsuffix := List.dropWhile_suffix (l := f.history) (· == f.text)
    rw [h] at hsuffix
    obtain ⟨newer, hnewer⟩ := hsuffix
    refine ⟨(newer ++ [previous]).tail, ?_⟩
    rw [← hnewer]
    cases newer <;> simp

/-- Where the latest text in the history is another, undoing goes back to it. -/
theorem undo_latest {latest : Text} {older : List Text} (h : f.history = latest :: older)
    (hne : f.text ≠ latest) : f.undo.1.text = latest ∧ f.undo.2 := by
  have hkept : f.history.dropWhile (· == f.text) = latest :: older := by
    rw [h, List.dropWhile_cons_of_neg (by simpa using hne.symm)]
  unfold undo
  rw [hkept]
  exact ⟨rfl, rfl⟩

/-- Undoing goes back to a text of the history, or stays where it is. -/
theorem undo_mem : f.undo.2 ∧ f.undo.1.text ∈ f.history ∨ f.undo.2 = false ∧ f.undo.1.text = f.text := by
  unfold undo
  split
  · exact .inr ⟨rfl, rfl⟩
  · next previous older h =>
    have hmem := (List.dropWhile_suffix (l := f.history) (· == f.text)).subset
    rw [h] at hmem
    exact .inl ⟨rfl, hmem List.mem_cons_self⟩

theorem openGroup_history (h : f.depth = 0) : f.openGroup.history = f.text :: f.history := by
  simp [openGroup, remember, h]

/-- A group that is open and holds no edit makes no difference to undoing. -/
theorem undo_openGroup (h : f.depth = 0) :
    f.openGroup.undo.1.text = f.undo.1.text ∧ f.openGroup.undo.2 = f.undo.2 := by
  have hkept : f.openGroup.history.dropWhile (· == f.openGroup.text) =
      f.history.dropWhile (· == f.text) := by
    rw [f.openGroup_text, f.openGroup_history h, List.dropWhile_cons_of_pos (by simp)]
  unfold undo
  rw [hkept]
  split
  · exact ⟨f.openGroup_text, rfl⟩
  · exact ⟨rfl, rfl⟩

end Frame
end ExEditor
