import ExEditor.Proofs.Frame.Edited
import ExEditor.Session.LineVerbs
import ExEditor.Session.StateVerbs

/-! What the changes that verbs make have in common: one that goes through is no failure, it edits the
frame without undoing anything, and not the text of one that may not be edited, and no other command is carried
out on the way. -/
namespace ExEditor

namespace Host

@[simp] theorem look_log (h : Host) : h.look.2.log = h.log := by
  unfold look
  split <;> rfl

@[simp] theorem confirm_log (h : Host) (question : Text) (selection : Selection) :
    (h.confirm question selection).2.log = h.log := by
  unfold confirm
  dsimp only
  split <;> rfl

@[simp] theorem answer_log (h : Host) : h.answer.2.log = h.log := by
  unfold answer
  split <;> rfl

@[simp] theorem run_log (h : Host) (files : FileTree) (command directory : Text) (file : Option Text) :
    (h.run files command directory file).2.1.log = h.log := by
  have ha := (h.note (.run command directory file)).answer_log
  unfold run
  split
  · next heq => rwa [heq] at ha
  · next heq => rwa [heq] at ha

end Host

namespace Substitution

theorem answer_worked (s : Substitution) (w : LineDraft) (start : Nat) (m : Match) (replacement : Text) :
    w.frame.Edited (s.answer w start m replacement).2.frame ∧
      (s.answer w start m replacement).2.host.log = w.host.log := by
  unfold answer
  split
  · exact ⟨w.frame.edited_select _, Host.confirm_log _ _ _⟩
  · exact ⟨.refl _, rfl⟩

theorem takeMatches_worked (s : Substitution) (start : Nat) (ms : List Match) (offset : Nat) (rest : Text)
    (w : LineDraft) :
    w.frame.Edited (s.takeMatches start ms offset rest w).2.frame ∧
      (s.takeMatches start ms offset rest w).2.host.log = w.host.log := by
  induction ms generalizing offset rest w with
  | nil => exact ⟨.refl _, rfl⟩
  | cons m others ih =>
    have hlook := w.host.look_log
    rcases hl : w.host.look with ⟨cancelled, host⟩
    rw [hl] at hlook
    simp only [takeMatches, hl]
    cases cancelled with
    | true => exact ⟨.refl _, hlook⟩
    | false =>
      generalize hm : rest.drop (m.start - offset) = matched
      generalize hr : expandReplacement (m.groupText matched) .asIs s.replacement = replacement
      have hanswer := s.answer_worked { w with host } start m replacement
      simp only [Bool.false_eq_true, ↓reduceIte]
      rcases ha : s.answer { w with host } start m replacement with ⟨given, w'⟩
      rw [ha] at hanswer
      obtain ⟨hframe, hhost⟩ := hanswer
      cases given with
      | cancel => exact ⟨hframe, hhost.trans hlook⟩
      | no =>
        have h := ih offset rest w'
        exact ⟨hframe.trans h.1, h.2.trans (hhost.trans hlook)⟩
      | yes =>
        have h := ih m.stop (matched.drop (m.stop - m.start)) { w' with applied := w'.applied + 1 }
        exact ⟨hframe.trans h.1, h.2.trans (hhost.trans hlook)⟩

theorem workOnLines_worked (s : Substitution) (m : Matcher) (n line : Nat) (p : Progress) :
    p.frame.Edited (s.workOnLines m n line p).frame ∧
      (s.workOnLines m n line p).host.log = p.host.log := by
  induction n generalizing line p with
  | zero => exact ⟨.refl _, rfl⟩
  | succ n ih =>
    unfold workOnLines
    split
    · exact ⟨.refl _, rfl⟩
    · split
      · exact ⟨.refl _, rfl⟩
      · extract_lets text start
        have htake := s.takeMatches_worked start (s.consideredMatches m text) 0 text
          { frame := p.frame, host := p.host }
        rcases ht : s.takeMatches start (s.consideredMatches m text) 0 text
          { frame := p.frame, host := p.host } with ⟨rebuilt, w⟩
        rw [ht] at htake
        obtain ⟨hframe, hhost⟩ := htake
        dsimp -zeta only
        extract_lets p'
        have hp : p.frame.Edited p'.frame ∧ p'.host.log = p.host.log := by
          unfold p'
          split
          · exact ⟨hframe, hhost⟩
          · exact ⟨hframe.trans (w.frame.edited_replace _ _ _), hhost⟩
        split
        · exact hp
        · have h := ih (line + 1 + if w.applied = 0 then 0 else rebuilt.count '\n') p'
          exact ⟨hp.1.trans h.1, h.2.trans hp.2⟩

/-- A substitution edits the frame, and asks questions. -/
theorem run_worked (s : Substitution) (m : Matcher) (first last : Nat) (f : Frame) (h : Host) :
    f.Edited (s.run m first last f h).frame ∧ (s.run m first last f h).host.log = h.log := by
  have hloop := s.workOnLines_worked m (lineBound f) first
    { frame := (markLines f first last).openGroup, host := h }
  unfold run
  generalize s.workOnLines m (lineBound f) first { frame := (markLines f first last).openGroup, host := h } = p
    at hloop ⊢
  have hworked : f.Edited ((p.frame.closeGroup.unsetMark .rangeEnd).unsetMark .rangeBegin) :=
    (Frame.Edited.group hloop.1).bracket.bracket
  have hfinish : ((p.frame.closeGroup.unsetMark .rangeEnd).unsetMark .rangeBegin).Edited p.finish.frame := by
    rw [Frame.unsetMark_comm]
    unfold Progress.finish
    dsimp only
    split
    · exact (Frame.edited_goToLine _ _).trans (Frame.edited_select _ _)
    · exact Frame.edited_select _ _
  exact ⟨hworked.trans hfinish, hloop.2⟩

end Substitution

namespace Editor

/-- An editor after a step that is no undo and in which no command is carried out. -/
structure Worked (ed after : Editor) : Prop where
  frame : ed.frame.Edited after.frame
  log : after.host.log = ed.host.log
  modes : after.session.modes = ed.session.modes
  guarded : ed.frame.isEditable = false → ed.frame.Still after.frame

namespace Worked
variable {ed after last : Editor}

theorem refl (ed : Editor) : ed.Worked ed := ⟨.refl _, rfl, rfl, fun _ => .refl _⟩

theorem trans (h : ed.Worked after) (h' : after.Worked last) : ed.Worked last where
  frame := h.frame.trans h'.frame
  log := h'.log.trans h.log
  modes := h'.modes.trans h.modes
  guarded he := (h.guarded he).trans (h'.guarded (h.frame.isEditable.trans he))

/-- A step that edits a frame that may be edited. -/
theorem of_edit (he : ed.frame.isEditable) (hf : ed.frame.Edited after.frame)
    (hl : after.host.log = ed.host.log) (hm : after.session.modes = ed.session.modes) : ed.Worked after :=
  ⟨hf, hl, hm, fun hno => by simp [hno] at he⟩

/-- A step that leaves the text of the frame as it is. -/
theorem of_still (hf : ed.frame.Edited after.frame) (hs : ed.frame.Still after.frame)
    (hl : after.host.log = ed.host.log) (hm : after.session.modes = ed.session.modes) : ed.Worked after :=
  ⟨hf, hl, hm, fun _ => hs⟩

/-- A step that leaves frame, host and mode as they are. -/
theorem of_eq (hf : after.frame = ed.frame) (hh : after.host = ed.host)
    (hm : after.session.modes = ed.session.modes) : ed.Worked after :=
  .of_still (hf ▸ .refl _) (hf ▸ .refl _) (congrArg Host.log hh) hm

end Worked

end Editor

/-- A change of an editor that, where it goes through, is no failure and works on the editor. -/
def Change.Proper (ed : Editor) (change : Change) : Prop :=
  ∀ after outcome, change = .ok (after, outcome) → outcome.isFailure = false ∧ ed.Worked after

theorem MarkId.eq_of_named? {c : Char} {id : MarkId} (h : named? c = some id) : id = .named c := by
  unfold named? at h
  split at h
  · exact (Option.some.inj h).symm
  · cases h

theorem reportLines_isFailure (n : Nat) (done : Text) : (reportLines n done).isFailure = false := by
  unfold reportLines
  split <;> rfl

namespace Change
variable {ed : Editor}

theorem proper_ok {after : Editor} {outcome : Outcome} (h : outcome.isFailure = false)
    (hw : ed.Worked after) : Proper ed (.ok (after, outcome)) := by
  rintro _ _ ⟨⟩
  exact ⟨h, hw⟩

theorem proper_error (failure : Failure) : Proper ed (.error failure) := by
  rintro _ _ ⟨⟩

theorem proper_bind {α : Type} (x : Except Failure α) {f : α → Change} (h : ∀ a, Proper ed (f a)) :
    Proper ed (x >>= f) := by
  cases x with
  | error failure => exact proper_error failure
  | ok a => exact h a

theorem proper_ite {p : Prop} [Decidable p] {a b : Change} (ha : a.Proper ed) (hb : b.Proper ed) :
    Proper ed (if p then a else b) := by
  split
  · exact ha
  · exact hb

/-- A change behind a check. -/
theorem proper_unless {p : Prop} [Decidable p] {a b : Change} (ha : a.Proper ed) (hb : ¬ p → b.Proper ed) :
    Proper ed (if p then a else b) := by
  split
  · exact ha
  · next hp => exact hb hp

/-- A change of lines that may be edited. -/
theorem proper_editable (r : AddressRange) {f : Nat × Nat → Change}
    (h : ed.frame.isEditable → ∀ lines, Proper ed (f lines)) : Proper ed (r.editable ed.frame >>= f) := by
  unfold AddressRange.editable
  rcases r.checked with failure | lines
  · exact proper_error failure
  · cases he : ed.frame.isEditable with
    | true => exact h he lines
    | false => exact proper_error _

end Change

namespace Editor
open Change

section lines
variable (ed : Editor) (r : AddressRange)

theorem goto_proper : (ed.goto r).Proper ed :=
  proper_bind _ fun _ => proper_ok rfl (.of_still (Frame.edited_goToLine _ _) ⟨rfl, rfl⟩ rfl rfl)

theorem delete_proper (t : Text) : (ed.delete r t).Proper ed :=
  proper_bind _ fun _ => proper_editable _ fun he _ =>
    proper_ok (reportLines_isFailure _ _) (.of_edit he (Frame.edited_deleteLines _ _ _) rfl rfl)

theorem yank_proper (t : Text) : (ed.yank r t).Proper ed :=
  proper_bind _ fun _ => proper_bind _ fun _ =>
    proper_ok (reportLines_isFailure _ _) (.of_eq rfl rfl rfl)

theorem put_proper (line : Nat) (t : Text) : (ed.put line t).Proper ed :=
  proper_bind _ fun _ => proper_unless (proper_error _) fun he => proper_ite (proper_error _) <|
    proper_ok (reportLines_isFailure _ _)
      (.of_edit (by simpa using he) (Frame.edited_putAndFollow _ _ _) rfl rfl)

theorem edited_placeText (f : Frame) (first last : Nat) (t : Text) (placement : Placement) :
    f.Edited (placeText f first last t placement) := by
  cases placement with
  | append => exact f.edited_insertLine _ _
  | insert => exact f.edited_insertLine _ _
  | change => exact f.edited_changeLines _ _ _

theorem enterText_proper (placement : Placement) (t : Text) : (ed.enterText r placement t).Proper ed :=
  proper_editable _ fun he _ => proper_ok rfl (.of_edit he (edited_placeText _ _ _ _ _) rfl rfl)

theorem copy_proper (destination : Nat) : (ed.copy r destination).Proper ed :=
  proper_editable _ fun he _ =>
    proper_ok (reportLines_isFailure _ _) (.of_edit he (Frame.edited_copyLines _ _ _ _) rfl rfl)

theorem move_proper (destination : Nat) : (ed.move r destination).Proper ed :=
  proper_editable _ fun he _ => proper_ite (proper_error _) <|
    proper_ok (reportLines_isFailure _ _) (.of_edit he (Frame.edited_moveLines _ _ _ _) rfl rfl)

theorem join_proper (asIs : Bool) : (ed.join r asIs).Proper ed :=
  proper_editable _ fun he _ => proper_ite (proper_error _) <|
    proper_ok rfl (.of_edit he (Frame.edited_joinLines _ _ _ _) rfl rfl)

theorem print_proper (numbered : Bool) : (ed.print r numbered).Proper ed :=
  proper_bind _ fun _ => proper_ok rfl (.of_still (Frame.edited_goToLine _ _) ⟨rfl, rfl⟩ rfl rfl)

theorem showLineNumber_proper : (ed.showLineNumber r).Proper ed :=
  proper_bind _ fun _ => proper_ok rfl (.refl ed)

theorem setMark_proper (t : Text) : (ed.setMark r t).Proper ed := by
  refine proper_bind _ fun lines => ?_
  dsimp only
  split
  · next id hid =>
    obtain ⟨c, rfl⟩ : ∃ c, id = .named c := by
      split at hid
      · exact ⟨_, MarkId.eq_of_named? hid⟩
      · cases hid
    exact proper_ok rfl (.of_still (Frame.edited_setNamed _ _ _) ⟨rfl, rfl⟩ rfl rfl)
  · exact proper_error _

theorem shift_proper (forward : Bool) (count : Nat) : (ed.shift r forward count).Proper ed := by
  refine proper_editable _ fun he lines => proper_ok (reportLines_isFailure _ _) (.of_edit he ?_ rfl rfl)
  cases forward with
  | true => exact ed.frame.edited_eachLine (fun f line => f.edited_indentLine _ line) _ _
  | false => exact ed.frame.edited_eachLine (fun f line => f.edited_outdentLine _ _ line) _ _

theorem sort_proper (t : Text) : (ed.sort r t).Proper ed := by
  refine proper_bind _ fun _ => proper_editable _ fun he _ =>
    proper_ok ?_ (.of_edit he (Frame.edited_replaceLines _ _ _ _) rfl rfl)
  split <;> rfl

@[simp] theorem rememberSearch_session (pattern : Text) : (ed.rememberSearch pattern).session = ed.session := by
  unfold rememberSearch
  split <;> rfl

@[simp] theorem rememberSearch_frame (pattern : Text) : (ed.rememberSearch pattern).frame = ed.frame :=
  congrArg Session.frame (ed.rememberSearch_session pattern)

@[simp] theorem rememberSearch_host (pattern : Text) : (ed.rememberSearch pattern).host = ed.host := by
  unfold rememberSearch
  split <;> rfl

theorem worked_rememberSearch (pattern : Text) : ed.Worked (ed.rememberSearch pattern) :=
  .of_eq (by simp) (by simp) (by simp)

theorem runSubstitution_proper (s : Substitution) : (ed.runSubstitution r s).Proper ed := by
  refine proper_editable _ fun he lines => proper_bind _ fun m => proper_ok rfl ?_
  obtain ⟨hf, hh⟩ := s.run_worked m lines.1 lines.2 ed.frame ed.host
  generalize s.run m lines.1 lines.2 ed.frame ed.host = p at hf hh
  have hrun : ed.Worked { ed.mapFrame (fun _ => p.frame) with host := p.host } := .of_edit he hf hh rfl
  exact hrun.trans ((worked_rememberSearch _ s.pattern).trans (.of_eq rfl rfl rfl))

theorem repeatSubstitution_proper (flags : Text) (keepFlags : Bool) :
    (ed.repeatSubstitution r flags keepFlags).Proper ed := by
  unfold repeatSubstitution
  split
  · exact proper_error _
  · exact proper_ite (proper_bind _ fun _ => ed.runSubstitution_proper r _)
      (proper_bind _ fun _ => ed.runSubstitution_proper r _)

theorem repeatWithSearch_proper (flags : Text) : (ed.repeatWithSearch r flags).Proper ed := by
  unfold repeatWithSearch
  split
  · exact proper_error _
  · exact proper_error _
  · exact proper_bind _ fun _ => ed.runSubstitution_proper r _

theorem substitute_proper (t : Text) : (ed.substitute r t).Proper ed :=
  proper_ite (ed.repeatSubstitution_proper r _ _) (proper_bind _ fun _ => ed.runSubstitution_proper r _)

end lines

section state
variable (ed : Editor) (t : Text)

theorem changeDirectory_proper : (ed.changeDirectory t).Proper ed := by
  have hgo : ∀ x : Except Failure Text, Proper ed (do
      let target ← x
      if !ed.shelf.files.isDirectory target then throw (.io (.notADirectory target))
      return ({ ed with session := { ed.session with cwd := ed.shelf.files.canonical target } },
        .success)) := fun x =>
    proper_bind x fun _ => proper_ite (proper_error _) (proper_ok rfl (.of_eq rfl rfl rfl))
  unfold changeDirectory
  refine proper_ite ?_ (hgo _)
  split
  · exact hgo _
  · exact proper_error _

theorem switchHighlight_proper : (ed.switchHighlight t).Proper ed := by
  unfold switchHighlight
  dsimp only
  split
  · exact proper_ok rfl (.of_eq rfl rfl rfl)
  · exact proper_ok rfl (.of_eq rfl rfl rfl)
  · exact proper_ok rfl (.refl ed)
  · exact proper_error _

theorem abbreviate_proper : (ed.abbreviate t).Proper ed := by
  unfold abbreviate
  dsimp only
  split
  · exact proper_ok rfl (.refl ed)
  · exact proper_error _
  · exact proper_ok rfl (.of_eq rfl rfl rfl)

theorem unabbreviate_proper : (ed.unabbreviate t).Proper ed := by
  unfold unabbreviate
  split
  · exact proper_ok rfl (.of_eq rfl rfl rfl)
  · exact proper_error _

theorem mapKeys_proper : (ed.mapKeys t).Proper ed := by
  unfold mapKeys
  dsimp only
  split
  · exact proper_ok rfl (.refl ed)
  · exact proper_error _
  · exact proper_ok rfl (.of_eq rfl rfl rfl)

theorem unmapKeys_proper : (ed.unmapKeys t).Proper ed := by
  unfold unmapKeys
  split
  · exact proper_ok rfl (.of_eq rfl rfl rfl)
  · exact proper_error _

theorem startRecording_proper : (ed.startRecording t).Proper ed :=
  proper_bind _ fun _ => proper_ok rfl (.of_eq rfl rfl rfl)

theorem stopRecording_proper : ed.stopRecording.Proper ed := by
  unfold stopRecording
  split
  · exact proper_error _
  · exact proper_ok rfl (.of_eq rfl rfl rfl)

end state

end Editor
end ExEditor
