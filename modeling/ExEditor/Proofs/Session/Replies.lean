import ExEditor.Proofs.Session.Dispatch

/-! The replies that are taken while a command runs. Nothing else raises the flag on which everything stops, as long
as nothing comes to cancel from outside. -/
namespace ExEditor

namespace Host

/-- Surroundings after some replies were taken. The flag is up if it was, or if one of these cancels. -/
structure Took (h after : Host) (answers : List (Reply Confirm)) (runs : List (Reply ProcessAnswer)) : Prop where
  confirms : h.confirms = answers ++ after.confirms
  processes : h.processes = runs ++ after.processes
  cancelled : after.cancelled = (h.cancelled || (answers.any (·.cancels) || runs.any (·.cancels)))
  cancelsAfter : after.cancelsAfter = none

/-- Surroundings in which only replies cancel, if nothing does from outside. -/
def Heeds (h after : Host) : Prop := h.cancelsAfter = none → ∃ answers runs, h.Took after answers runs

namespace Heeds
variable {h after last : Host}

/-- What went out does not count. -/
theorem of_eq (hc : after.confirms = h.confirms) (hp : after.processes = h.processes)
    (hf : after.cancelled = h.cancelled) (ha : after.cancelsAfter = h.cancelsAfter) : Heeds h after :=
  fun hnone => ⟨[], [], hc.symm, hp.symm, by simp [hf], ha.trans hnone⟩

theorem refl (h : Host) : Heeds h h := of_eq rfl rfl rfl rfl

theorem trans (h₁ : Heeds h after) (h₂ : Heeds after last) : Heeds h last := by
  intro hnone
  obtain ⟨answers, runs, htook⟩ := h₁ hnone
  obtain ⟨answers', runs', htook'⟩ := h₂ htook.cancelsAfter
  refine ⟨answers ++ answers', runs ++ runs', ?_, ?_, ?_, htook'.cancelsAfter⟩
  · rw [htook.confirms, htook'.confirms, List.append_assoc]
  · rw [htook.processes, htook'.processes, List.append_assoc]
  · rw [htook'.cancelled, htook.cancelled, List.any_append, List.any_append]
    simp only [Bool.or_assoc, Bool.or_left_comm]

theorem look (h : Host) : Heeds h h.look.2 := by
  intro hnone
  have hlook : h.look.2 = h := by simp [Host.look, hnone]
  rw [hlook]
  exact refl h hnone

theorem confirm (h : Host) (question : Text) (selection : Selection) :
    Heeds h (h.confirm question selection).2 := by
  intro hnone
  cases hc : h.confirms with
  | nil => exact ⟨[], [], by simp [Host.confirm, note, hc], by simp [Host.confirm, note, hc],
      by simp [Host.confirm, note, hc], by simp [Host.confirm, note, hc, hnone]⟩
  | cons reply rest => exact ⟨[reply], [], by simp [Host.confirm, note, hc], by simp [Host.confirm, note, hc],
      by simp [Host.confirm, note, hc], by simp [Host.confirm, note, hc, hnone]⟩

theorem answer (h : Host) : Heeds h h.answer.2 := by
  intro hnone
  cases hp : h.processes with
  | nil => exact ⟨[], [], by simp [Host.answer, hp], by simp [Host.answer, hp], by simp [Host.answer, hp],
      by simp [Host.answer, hp, hnone]⟩
  | cons reply rest => exact ⟨[], [reply], by simp [Host.answer, hp], by simp [Host.answer, hp],
      by simp [Host.answer, hp], by simp [Host.answer, hp, hnone]⟩

theorem run (h : Host) (files : FileTree) (command directory : Text) (file : Option Text) :
    Heeds h (h.run files command directory file).2.1 := by
  have hnoted : Heeds h (h.note (.run command directory file)) := of_eq rfl rfl rfl rfl
  have ha := hnoted.trans (answer _)
  unfold Host.run
  split
  · next heq => rwa [heq] at ha
  · next heq => rwa [heq] at ha

end Heeds
end Host

namespace Substitution

theorem answer_heeds (s : Substitution) (w : LineDraft) (start : Nat) (m : Match) (replacement : Text) :
    w.host.Heeds (s.answer w start m replacement).2.host := by
  unfold answer
  split
  · dsimp only
    generalize w.frame.select ⟨start + m.start, start + m.stop, .stream⟩ = f
    have hdisplay : w.host.Heeds (w.host.display f.text) := .of_eq rfl rfl rfl rfl
    exact hdisplay.trans (.confirm _ ("Replace with " ++ replacement ++ ['?']) f.selection)
  · exact .refl _

theorem takeMatches_heeds (s : Substitution) (start : Nat) (ms : List Match) (offset : Nat) (rest : Text)
    (w : LineDraft) : w.host.Heeds (s.takeMatches start ms offset rest w).2.host := by
  induction ms generalizing offset rest w with
  | nil => exact .refl _
  | cons m others ih =>
    have hlook := Host.Heeds.look w.host
    simp only [takeMatches]
    split
    · exact hlook
    · generalize expandReplacement (m.groupText (rest.drop (m.start - offset))) .asIs s.replacement = replacement
      have hasked := hlook.trans (s.answer_heeds { w with host := w.host.look.2 } start m replacement)
      generalize s.answer { w with host := w.host.look.2 } start m replacement = r at hasked ⊢
      obtain ⟨given, w'⟩ := r
      cases given with
      | cancel => exact hasked
      | no => exact hasked.trans (ih offset rest w')
      | yes => exact hasked.trans (ih _ _ { w' with applied := w'.applied + 1 })

theorem workOnLines_heeds (s : Substitution) (m : Matcher) (n line : Nat) (p : Progress) :
    p.host.Heeds (s.workOnLines m n line p).host := by
  induction n generalizing line p with
  | zero => exact .refl _
  | succ n ih =>
    unfold workOnLines
    split
    · exact .refl _
    · split
      · exact .refl _
      · extract_lets text start
        have htake := s.takeMatches_heeds start (s.consideredMatches m text) 0 text
          { frame := p.frame, host := p.host }
        rcases ht : s.takeMatches start (s.consideredMatches m text) 0 text
          { frame := p.frame, host := p.host } with ⟨rebuilt, w⟩
        rw [ht] at htake
        dsimp -zeta only
        extract_lets p'
        have hp : p.host.Heeds p'.host := by
          unfold p'
          split <;> exact htake
        split
        · exact hp
        · exact hp.trans (ih _ p')

theorem run_heeds (s : Substitution) (m : Matcher) (first last : Nat) (f : Frame) (h : Host) :
    h.Heeds (s.run m first last f h).host :=
  s.workOnLines_heeds m (lineBound f) first { frame := (markLines f first last).openGroup, host := h }

end Substitution

/-- A change in which only replies cancel. -/
def Change.Heeds (ed : Editor) (change : Change) : Prop :=
  ∀ after outcome, change = .ok (after, outcome) → ed.host.Heeds after.host

namespace Change
variable {ed : Editor}

theorem heeds_ok {after : Editor} {outcome : Outcome} (h : ed.host.Heeds after.host) :
    Heeds ed (.ok (after, outcome)) := by
  rintro _ _ ⟨⟩
  exact h

/-- A change that leaves the surroundings alone. -/
theorem heeds_same {after : Editor} {outcome : Outcome} (h : after.host = ed.host) :
    Heeds ed (.ok (after, outcome)) := heeds_ok (h ▸ .refl _)

theorem heeds_error (failure : Failure) : Heeds ed (.error failure) := by
  rintro _ _ ⟨⟩

theorem heeds_bind {α : Type} (x : Except Failure α) {f : α → Change} (h : ∀ a, Heeds ed (f a)) :
    Heeds ed (x >>= f) := by
  cases x with
  | error failure => exact heeds_error failure
  | ok a => exact h a

theorem heeds_ite {p : Prop} [Decidable p] {a b : Change} (ha : a.Heeds ed) (hb : b.Heeds ed) :
    Heeds ed (if p then a else b) := by
  split
  · exact ha
  · exact hb

end Change

namespace Editor
open Change

section changes
variable (ed : Editor) (r : AddressRange) (t : Text)

theorem put_heeds (line : Nat) : (ed.put line t).Heeds ed :=
  heeds_bind _ fun _ => heeds_ite (heeds_error _) (heeds_ite (heeds_error _) (heeds_same rfl))

theorem enterText_heeds (placement : Placement) : (ed.enterText r placement t).Heeds ed :=
  heeds_bind _ fun _ => heeds_same rfl

theorem setMark_heeds : (ed.setMark r t).Heeds ed := by
  refine heeds_bind _ fun lines => ?_
  dsimp only
  split
  · exact heeds_same rfl
  · exact heeds_error _

theorem runSubstitution_heeds (s : Substitution) : (ed.runSubstitution r s).Heeds ed := by
  refine heeds_bind _ fun lines => heeds_bind _ fun m => heeds_ok ?_
  have hrun := s.run_heeds m lines.1 lines.2 ed.frame ed.host
  change ed.host.Heeds (Editor.rememberSearch _ s.pattern).host
  rw [rememberSearch_host]
  exact hrun

theorem repeatSubstitution_heeds (keepFlags : Bool) : (ed.repeatSubstitution r t keepFlags).Heeds ed := by
  unfold repeatSubstitution
  split
  · exact heeds_error _
  · exact heeds_ite (heeds_bind _ fun _ => ed.runSubstitution_heeds r _)
      (heeds_bind _ fun _ => ed.runSubstitution_heeds r _)

theorem repeatWithSearch_heeds : (ed.repeatWithSearch r t).Heeds ed := by
  unfold repeatWithSearch
  split
  · exact heeds_error _
  · exact heeds_error _
  · exact heeds_bind _ fun _ => ed.runSubstitution_heeds r _

theorem substitute_heeds : (ed.substitute r t).Heeds ed :=
  heeds_ite (ed.repeatSubstitution_heeds r _ _) (heeds_bind _ fun _ => ed.runSubstitution_heeds r _)

theorem changeDirectory_heeds : (ed.changeDirectory t).Heeds ed := by
  have hgo : ∀ x : Except Failure Text, Change.Heeds ed (do
      let target ← x
      if !ed.shelf.files.isDirectory target then throw (.io (.notADirectory target))
      return ({ ed with session := { ed.session with cwd := ed.shelf.files.canonical target } },
        .success)) := fun x =>
    heeds_bind x fun _ => heeds_ite (heeds_error _) (heeds_same rfl)
  unfold changeDirectory
  refine heeds_ite ?_ (hgo _)
  split
  · exact hgo _
  · exact heeds_error _

theorem switchHighlight_heeds : (ed.switchHighlight t).Heeds ed := by
  unfold switchHighlight
  dsimp only
  split <;> first | exact heeds_same rfl | exact heeds_error _

theorem abbreviate_heeds : (ed.abbreviate t).Heeds ed := by
  unfold abbreviate
  dsimp only
  split <;> first | exact heeds_same rfl | exact heeds_error _

theorem unabbreviate_heeds : (ed.unabbreviate t).Heeds ed := by
  unfold unabbreviate
  split <;> first | exact heeds_same rfl | exact heeds_error _

theorem mapKeys_heeds : (ed.mapKeys t).Heeds ed := by
  unfold mapKeys
  dsimp only
  split <;> first | exact heeds_same rfl | exact heeds_error _

theorem unmapKeys_heeds : (ed.unmapKeys t).Heeds ed := by
  unfold unmapKeys
  split <;> first | exact heeds_same rfl | exact heeds_error _

theorem stopRecording_heeds : ed.stopRecording.Heeds ed := by
  unfold stopRecording
  split <;> first | exact heeds_same rfl | exact heeds_error _

end changes

section dispatch
variable {ed : Editor} {c : Command}

theorem settle_heeds {change : Change} (h : change.Heeds ed) : ed.host.Heeds (ed.settle change).1.host := by
  cases change with
  | error failure => exact .refl _
  | ok result => exact h result.1 result.2 rfl

theorem onRange_heeds {default : Text} {action : Editor → AddressRange → Result}
    (h : ∀ (ed : Editor) r, ed.host.Heeds (action ed r).1.host) :
    ed.host.Heeds (ed.onRange c default action).1.host := by
  have hrange : ed.host.Heeds (ed.resolveRange c.range default).2.host := .refl _
  unfold onRange
  generalize ed.resolveRange c.range default = resolved at hrange ⊢
  obtain ⟨failure | r, ed'⟩ := resolved
  · exact hrange
  · exact hrange.trans (h ed' r)

theorem changeRange_heeds {default : Text} {change : Editor → AddressRange → Change}
    (h : ∀ ed r, (change ed r).Heeds ed) : ed.host.Heeds (ed.changeRange c default change).1.host :=
  onRange_heeds fun ed r => settle_heeds (h ed r)

theorem changeTo_heeds {change : Editor → AddressRange → Nat → Change}
    (h : ∀ ed r destination, (change ed r destination).Heeds ed) : ed.host.Heeds (ed.changeTo c change).1.host := by
  refine onRange_heeds fun ed r => ?_
  have hdestination : ed.host.Heeds (ed.resolveDestination c.text).2.host := by
    unfold resolveDestination
    split <;> exact .refl _
  generalize ed.resolveDestination c.text = resolved at hdestination ⊢
  obtain ⟨failure | destination, ed'⟩ := resolved
  · exact hdestination
  · exact hdestination.trans (settle_heeds (h ed' r destination))

theorem enter_heeds (placement : Placement) : ed.host.Heeds (ed.enter c placement).1.host := by
  unfold enter
  split
  · exact settle_heeds (ed.enterText_heeds _ _ _)
  · exact changeRange_heeds fun ed r => ed.enterText_heeds r c.text placement

theorem putAt_heeds : ed.host.Heeds (ed.putAt c).1.host := by
  unfold putAt
  split
  · exact settle_heeds (ed.put_heeds _ _)
  · exact changeRange_heeds fun ed r => heeds_bind _ fun _ => ed.put_heeds c.text _

theorem runShell_heeds (ed : Editor) (command : Text) (file : Option Text) :
    ed.host.Heeds (ed.runShell command file).2.host := by
  have hrun := Host.Heeds.run ed.host ed.shelf.files command ed.session.cwd file
  unfold runShell
  generalize ed.host.run ed.shelf.files command ed.session.cwd file = r at hrun ⊢
  obtain ⟨result, host, files⟩ := r
  dsimp only
  split
  · exact hrun
  · split <;> exact hrun

theorem shell_heeds (command : Text) : ed.host.Heeds (ed.shell command).1.host := by
  have hrun := ed.runShell_heeds command.trim none
  unfold shell
  dsimp only
  split
  · exact .refl _
  · generalize ed.runShell command.trim none = r at hrun ⊢
    obtain ⟨failure | output, ed'⟩ := r <;> exact hrun

theorem filter_heeds (r : AddressRange) (command : Text) : ed.host.Heeds (ed.filter r command).1.host := by
  unfold filter
  dsimp only
  split
  · exact .refl _
  · next first last _ =>
    have hrun := ed.runShell_heeds command.trim
      (some (ed.frame.slice (ed.frame.linesSpan first last).1 (ed.frame.linesSpan first last).2))
    split
    · next heq =>
      rw [heq] at hrun
      exact hrun
    · next heq =>
      rw [heq] at hrun
      exact hrun

/-- While a command runs no other lines, only replies cancel. -/
theorem dispatch_heeds (run : Runner) (running : Running) (hc : c.verb.runsLines = false) :
    ed.host.Heeds (dispatch run running c ed).1.host := by
  obtain ⟨range, verb, t, bang⟩ := c
  cases verb with
  | append => exact enter_heeds .append
  | insert => exact enter_heeds .insert
  | change => exact enter_heeds .change
  | put => exact putAt_heeds
  | mark => exact changeRange_heeds fun ed r => ed.setMark_heeds r t
  | bang =>
    simp only [dispatch]
    split
    · exact shell_heeds t
    · exact onRange_heeds fun ed r => filter_heeds r t
  | substitute => exact changeRange_heeds fun ed r => ed.substitute_heeds r t
  | repeatSubstitute keepFlags => exact changeRange_heeds fun ed r => ed.repeatSubstitution_heeds r t keepFlags
  | repeatWithSearch => exact changeRange_heeds fun ed r => ed.repeatWithSearch_heeds r t
  | cd => exact settle_heeds (ed.changeDirectory_heeds t)
  | syntaxState => exact settle_heeds (ed.switchHighlight_heeds t)
  | abbreviate => exact settle_heeds (ed.abbreviate_heeds t)
  | unabbreviate => exact settle_heeds (ed.unabbreviate_heeds t)
  | map => exact settle_heeds (ed.mapKeys_heeds t)
  | unmap => exact settle_heeds (ed.unmapKeys_heeds t)
  | set =>
    change ed.host.Heeds (ed.setOptions t).1.host
    unfold setOptions
    dsimp only
    split <;> exact .refl _
  | stop => exact settle_heeds ed.stopRecording_heeds
  | record => exact settle_heeds (heeds_bind _ fun _ => heeds_same rfl)
  | copy | move =>
    exact changeTo_heeds fun ed r destination => heeds_bind _ fun _ => by
      first | exact heeds_same rfl | exact heeds_ite (heeds_error _) (heeds_same rfl)
  | join => exact changeRange_heeds fun ed r => heeds_bind _ fun _ => heeds_ite (heeds_error _) (heeds_same rfl)
  | delete | yank | sort =>
    exact changeRange_heeds fun ed r => heeds_bind _ fun _ => heeds_bind _ fun _ => heeds_same rfl
  | goto | print | number | lineNumber | shift =>
    exact changeRange_heeds fun ed r => heeds_bind _ fun _ => heeds_same rfl
  | pwd | registers | marks | undo | noHighlight => exact .refl _
  | play | source | global invert => cases hc

end dispatch
end Editor
end ExEditor
