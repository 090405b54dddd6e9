import ExEditor.Proofs.Session.Steps

/-! Texts that may not be edited. Each verb that edits looks whether it may, while undoing and global commands
do not look at all: what keeps the text then is that the history holds no other text to go back to. -/
namespace ExEditor

/-- A frame with a text, and no other in its history. -/
structure Frame.Holds (f : Frame) (t : Text) : Prop where
  text : f.text = t
  history : ∀ previous ∈ f.history, previous = t

namespace Frame.Holds
variable {f g : Frame} {t : Text}

theorem of_still (h : f.Holds t) (hs : f.Still g) : g.Holds t :=
  ⟨hs.text.trans h.text, fun previous hp => h.history previous (hs.history ▸ hp)⟩

/-- A group that is opened keeps the text that is there. -/
theorem openGroup (h : f.Holds t) : f.openGroup.Holds t := by
  refine ⟨f.openGroup_text.trans h.text, fun previous hp => ?_⟩
  unfold Frame.openGroup remember at hp
  split at hp
  · rcases List.mem_cons.mp hp with rfl | hp
    · exact h.text
    · exact h.history previous hp
  · exact h.history previous hp

theorem undo (h : f.Holds t) : f.undo.1.Holds t := by
  unfold Frame.undo
  split
  · exact ⟨h.text, fun _ hp => absurd hp List.not_mem_nil⟩
  · next previous older hkept =>
    have hmem : previous :: older ⊆ f.history := hkept ▸ (List.dropWhile_suffix (· == f.text)).subset
    have hall : ∀ p ∈ previous :: older, p = t := fun p hp => h.history p (hmem hp)
    exact ⟨hall previous List.mem_cons_self, fun p hp => hall p (List.mem_cons_of_mem _ hp)⟩

end Frame.Holds

namespace ModeState

theorem still_reselect (source target : Mode) (f : Frame) : f.Still (reselect source target f) := by
  cases target with
  | command =>
    unfold reselect
    dsimp only
    split <;> exact ⟨rfl, rfl⟩
  | _ => exact ⟨rfl, rfl⟩

/-- No event leads from a mode for commands to one for text where the text may only be read. -/
theorem after_readOnly {mode : Mode} (h : mode.isInsert = false) (event : ModeEvent) :
    (mode.after event true).isInsert = false := by
  cases mode <;> cases event <;> simp_all [Mode.after, Mode.isInsert]

theorem handle_readOnly {s : ModeState} {f : Frame} (hr : f.readOnly) (hm : s.mode.isInsert = false)
    (event : ModeEvent) : f.Still (s.handle event f).frame ∧ (s.handle event f).state.mode.isInsert = false := by
  have htarget := after_readOnly hm event
  rw [← hr] at htarget
  unfold handle
  dsimp only
  split
  · exact ⟨.refl f, hm⟩
  · next hmoves =>
    cases event with
    | insert command => exact absurd (by simp [Mode.after, hr]) hmoves
    | _ => exact ⟨still_reselect _ _ f, htarget⟩

end ModeState

namespace Editor

/-- A step after which a text that may not be edited is what it was, and the mode as well. -/
structure Shields (ed after : Editor) : Prop where
  readOnly : after.frame.readOnly = ed.frame.readOnly
  binary : after.frame.binary = ed.frame.binary
  modes : after.session.modes = ed.session.modes
  holds : ed.frame.isEditable = false → ∀ t, ed.frame.Holds t → after.frame.Holds t

namespace Shields
variable {ed after last : Editor}

theorem isEditable (h : Shields ed after) : after.frame.isEditable = ed.frame.isEditable := by
  rw [Frame.isEditable, Frame.isEditable, h.readOnly, h.binary]

theorem of_worked (h : ed.Worked after) : Shields ed after :=
  ⟨h.frame.readOnly, h.frame.binary, h.modes, fun he _ ht => ht.of_still (h.guarded he)⟩

theorem trans (h : Shields ed after) (h' : Shields after last) : Shields ed last where
  readOnly := h'.readOnly.trans h.readOnly
  binary := h'.binary.trans h.binary
  modes := h'.modes.trans h.modes
  holds he t ht := h'.holds (h.isEditable.trans he) t (h.holds he t ht)

theorem group (h : Shields (ed.mapFrame Frame.openGroup) after) : Shields ed (after.mapFrame Frame.closeGroup) where
  readOnly := h.readOnly.trans ed.frame.remember_readOnly
  binary := h.binary.trans ed.frame.remember_binary
  modes := h.modes
  holds he t ht :=
    (h.holds (ed.frame.openGroup_isEditable.trans he) t ht.openGroup).of_still ⟨rfl, rfl⟩

theorem log (ed : Editor) (c : Command) : Shields ed (ed.log c) := ⟨rfl, rfl, rfl, fun _ _ ht => ht⟩

theorem undo (ed : Editor) : Shields ed ed.undo.1 :=
  ⟨ed.frame.undo_readOnly, ed.frame.undo_binary, rfl, fun _ _ ht => ht.undo⟩

end Shields

/-- Whatever a line runs, it shields a text that may not be edited. -/
theorem stepwise_shields : Stepwise Shields where
  trans := .trans
  worked := .of_worked
  log ed c _ := .log ed c
  undo ed c _ _ := (Shields.log ed c).trans (.undo (ed.log c))
  group := .group
  marked {ed after lines} h := by
    obtain ⟨marks, hmarked⟩ := ed.mapFrame_markLines lines
    obtain ⟨marks', hunmarked⟩ := after.mapFrame_unmarkLines lines
    rw [hmarked] at h
    rw [hunmarked]
    exact ⟨h.readOnly, h.binary, h.modes, fun he t ht =>
      (h.holds he t (ht.of_still ⟨rfl, rfl⟩)).of_still ⟨rfl, rfl⟩⟩

theorem shields_insertVariable {ed : Editor} (he : ed.frame.isEditable = false) (name : Text) :
    Shields ed (ed.insertVariable name).1 := by
  have hrefused : ed.insertVariable name = (ed, .failure .notEditable) := by simp [insertVariable, he]
  rw [hrefused]
  exact .of_worked (.refl ed)

/-- A step that is no typing shields a text that may not be edited. -/
theorem shields_step {ed : Editor} (he : ed.frame.isEditable = false) {step : Step}
    (hs : step.isTyping = false) : Shields ed (ed.step step) := by
  cases step with
  | execute line => exact stepwise_shields.execute ed line
  | playMacro name count => exact stepwise_shields.playMacro ed name count
  | handleMode event => cases hs
  | typeText t => cases hs
  | insertVariable name => exact shields_insertVariable he name
  | undo => exact .undo ed
  | aside session context host => exact ⟨rfl, rfl, rfl, fun _ _ ht => ht⟩
  | _ => exact ⟨rfl, rfl, rfl, fun _ _ ht => ht.of_still ⟨rfl, rfl⟩⟩

/-- An editor on a text that may not be edited. -/
structure Sealed (t : Text) (ed : Editor) : Prop where
  notEditable : ed.frame.isEditable = false
  holds : ed.frame.Holds t

theorem Sealed.step {t : Text} {ed : Editor} (h : Sealed t ed) {step : Step} (hs : step.isTyping = false) :
    Sealed t (ed.step step) := by
  have hshields := shields_step h.notEditable hs
  exact ⟨hshields.isEditable.trans h.notEditable, hshields.holds h.notEditable t h.holds⟩

theorem Sealed.steps {t : Text} {ed : Editor} (h : Sealed t ed) {list : List Step}
    (hs : ∀ step ∈ list, step.isTyping = false) : Sealed t (ed.steps list) := by
  induction list generalizing ed with
  | nil => exact h
  | cons step rest ih =>
    exact ih (h.step (hs step List.mem_cons_self)) fun s hmem => hs s (List.mem_cons_of_mem _ hmem)

/-- An editor on a text that may only be read, in a mode for commands. -/
structure ReadOnly (t : Text) (ed : Editor) : Prop where
  readOnly : ed.frame.readOnly
  holds : ed.frame.Holds t
  mode : ed.session.modes.mode.isInsert = false

namespace ReadOnly
variable {t : Text} {ed : Editor}

theorem handleMode (h : ReadOnly t ed) (event : ModeEvent) : ReadOnly t (ed.handleMode event).1 := by
  obtain ⟨hstill, hmode⟩ := ModeState.handle_readOnly h.readOnly h.mode event
  have hread : (ed.session.modes.handle event ed.frame).frame.readOnly :=
    (ed.session.modes.edited_handle event ed.frame).readOnly.trans h.readOnly
  unfold Editor.handleMode
  dsimp only
  split
  · exact ⟨hread, h.holds.of_still hstill, hmode⟩
  · dsimp only
    split <;> exact ⟨hread, h.holds.of_still hstill, hmode⟩

theorem step (h : ReadOnly t ed) (step : Step) : ReadOnly t (ed.step step) := by
  by_cases hs : step.isTyping
  · cases step with
    | handleMode event => exact h.handleMode event
    | typeText typed =>
      have hrefused : ed.typeText typed = .error .notInserting := by simp [typeText, h.mode]
      dsimp only [Editor.step]
      rw [hrefused]
      exact h
    | _ => cases hs
  · have hno : ed.frame.isEditable = false := by simp [Frame.isEditable, h.readOnly]
    have hshields := shields_step hno (Bool.eq_false_iff.mpr hs)
    exact ⟨hshields.readOnly.trans h.readOnly, hshields.holds hno t h.holds, hshields.modes ▸ h.mode⟩

theorem steps (h : ReadOnly t ed) (list : List Step) : ReadOnly t (ed.steps list) := by
  induction list generalizing ed with
  | nil => exact h
  | cons step rest ih => exact ih (h.step step)

end ReadOnly

/-- A text that may only be read stays as it is whatever is done, and never is the mode one for text. A binary
text stays as it is as long as nothing is typed. -/
theorem steps_keep_text {ed : Editor} (hnew : ed.IsNew) (list : List Step) :
    (ed.frame.readOnly → (ed.steps list).frame.text = ed.frame.text ∧
      (ed.steps list).session.modes.mode ≠ .insert ∧ (ed.steps list).session.modes.mode ≠ .insertBlock) ∧
    (ed.frame.binary → (∀ step ∈ list, step.isTyping = false) →
      (ed.steps list).frame.text = ed.frame.text) := by
  have hholds : ed.frame.Holds ed.frame.text := ⟨rfl, by rw [hnew.history]; nofun⟩
  constructor
  · intro hread
    have hmode : ed.session.modes.mode.isInsert = false := by rw [hnew.modes]; rfl
    have hsteps : ReadOnly ed.frame.text (ed.steps list) := ReadOnly.steps ⟨hread, hholds, hmode⟩ list
    refine ⟨hsteps.holds.text, ?_, ?_⟩ <;> intro hinsert <;> cases hinsert ▸ hsteps.mode
  · intro hbinary hcommands
    have hno : ed.frame.isEditable = false := by simp [Frame.isEditable, hbinary]
    exact (Sealed.steps ⟨hno, hholds⟩ hcommands).holds.text

/-- Deleting, a global command, typing and undoing come to nothing in a text that may only be read, and commands
in a binary one. -/
theorem steps_keep_text_lines :
    let ed (readOnly binary : Bool) : Editor :=
      { session := { frame := { Frame.ofText "a\nb\n" with readOnly, binary } } }
    let commands : List Step := [.execute "1d", .execute "g/a/s//b/", .insertVariable "date", .execute "u", .undo]
    let typing : List Step := [.handleMode (.insert .append), .typeText "x", .handleMode .visualBlock,
      .handleMode (.insert .insert), .typeText "y"]
    (((ed true false).steps (commands ++ typing)).frame.text = "a\nb\n".toList ∧
      ((ed true false).steps (commands ++ typing)).session.modes.mode = .visualBlock) ∧
      ((ed false true).steps commands).frame.text = "a\nb\n".toList := by
  intro ed commands typing
  have hnew : ∀ readOnly binary, (ed readOnly binary).IsNew := fun _ _ => ⟨rfl, rfl, rfl, rfl⟩
  exact ⟨⟨((steps_keep_text (hnew true false) (commands ++ typing)).1 rfl).1, by decide +kernel⟩,
    (steps_keep_text (hnew false true) commands).2 rfl (by decide)⟩

end Editor
end ExEditor
