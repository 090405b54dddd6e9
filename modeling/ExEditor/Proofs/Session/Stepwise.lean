import ExEditor.Proofs.Session.Dispatch

/-! Runs of command lines, one induction for all of them. A relation between editors that holds over each
single step, and that groups of edits keep, holds over whatever a line runs: macros, scripts and global
commands, however they are nested. -/
namespace ExEditor

namespace Editor

/-- A relation that holds over the steps that runs are made of. -/
structure Stepwise (R : Editor → Editor → Prop) : Prop where
  trans : ∀ {ed after last}, R ed after → R after last → R ed last
  worked : ∀ {ed after}, ed.Worked after → R ed after
  /-- A command that is logged and does not undo. -/
  log : ∀ ed (c : Command), c.verb ≠ .undo ∨ c.range ≠ [] → R ed (ed.log c)
  undo : ∀ ed (c : Command), c.verb = .undo → c.range = [] → R ed (ed.log c).undo.1
  /-- What is done in a group of edits. -/
  group : ∀ {ed after}, R (ed.mapFrame Frame.openGroup) after → R ed (after.mapFrame Frame.closeGroup)
  /-- What is done while lines are marked for a global command. -/
  marked : ∀ {ed after lines}, R (ed.mapFrame (markLines · lines)) after →
    R ed (after.mapFrame (unmarkLines · lines))

/-- Marking lines changes nothing but the marks. -/
theorem markLines_eq (f : Frame) (lines : List Nat) : ∃ marks, markLines f lines = { f with marks } := by
  refine List.foldlRecOn (motive := fun g : Frame => ∃ marks, g = { f with marks }) _ _ ⟨f.marks, rfl⟩ ?_
  rintro g ⟨marks, rfl⟩ line -
  exact ⟨_, rfl⟩

theorem unmarkLines_eq (f : Frame) (lines : List Nat) : ∃ marks, unmarkLines f lines = { f with marks } := by
  refine List.foldlRecOn (motive := fun g : Frame => ∃ marks, g = { f with marks }) _ _ ⟨f.marks, rfl⟩ ?_
  rintro g ⟨marks, rfl⟩ line -
  exact ⟨_, rfl⟩

theorem mapFrame_markLines (ed : Editor) (lines : List Nat) :
    ∃ marks, ed.mapFrame (markLines · lines) = ed.mapFrame fun f => { f with marks } := by
  obtain ⟨marks, h⟩ := markLines_eq ed.session.frame lines
  exact ⟨marks, by rw [mapFrame, h]; rfl⟩

theorem mapFrame_unmarkLines (ed : Editor) (lines : List Nat) :
    ∃ marks, ed.mapFrame (unmarkLines · lines) = ed.mapFrame fun f => { f with marks } := by
  obtain ⟨marks, h⟩ := unmarkLines_eq ed.session.frame lines
  exact ⟨marks, by rw [mapFrame, h]; rfl⟩

/-- Marks do not count in groups. -/
theorem unmarkLines_closeGroup (f : Frame) (lines : List Nat) :
    unmarkLines f.closeGroup lines = (unmarkLines f lines).closeGroup := by
  induction lines generalizing f with
  | nil => rfl
  | cons line rest ih => exact ih (f.unsetMark (.line line))

theorem worked_look (ed : Editor) : ed.Worked ed.look.2 :=
  .of_still (.refl _) (.refl _) ed.host.look_log rfl

theorem worked_tell (ed : Editor) (t : Text) : ed.Worked (ed.tell t) := .of_still (.refl _) (.refl _) rfl rfl

theorem worked_visit (ed : Editor) (line offset : Nat) :
    ed.Worked (ed.mapFrame fun f => (f.unsetMark (.line line)).setCursor offset) :=
  .of_still ((ed.frame.edited_unsetMark _).trans (Frame.edited_setCursor _ _)) ⟨rfl, rfl⟩ rfl rfl

theorem worked_resume (ed : Editor) : ed.Worked ed.resume := .of_still (.refl _) (.refl _) rfl rfl

theorem worked_record (ed : Editor) (command : Text) (complete : Bool) :
    ed.Worked (ed.record command complete) := .of_eq rfl rfl rfl

theorem worked_report (ed : Editor) (outcome : Outcome) : ed.Worked (ed.report outcome) := by
  unfold report
  cases outcome.shown with
  | none => exact .refl ed
  | some t => exact ed.worked_tell t

namespace Stepwise
variable {R : Editor → Editor → Prop} (h : Stepwise R)
include h

theorem refl (ed : Editor) : R ed ed := h.worked (.refl ed)

/-- A command that runs no other lines. -/
theorem single (run : Runner) (running : Running) {c : Command} (hc : c.verb.runsLines = false)
    (hr : c.verb.takesRange ∨ c.range = []) (ed : Editor) : R ed (dispatch run running c (ed.log c)).1 := by
  by_cases hu : c.verb = .undo
  · have hrange : c.range = [] := by simpa [hu, Verb.takesRange] using hr
    have hdispatch : dispatch run running c (ed.log c) = (ed.log c).undo := by simp only [dispatch, hu]
    rw [hdispatch]
    exact h.undo ed c hu hrange
  · exact h.trans (h.log ed c (.inl hu)) (h.worked (worked_dispatch run running hc hu _))

theorem playLines {run : Text → Editor → Result} (hrun : ∀ line ed, R ed (run line ed).1) (name : Text)
    (lines : List Text) (ed : Editor) : R ed (playLines run name lines ed).1 := by
  induction lines generalizing ed with
  | nil => exact h.refl ed
  | cons line rest ih =>
    have hlook := h.worked ed.worked_look
    unfold Editor.playLines
    split
    · next ed' hl =>
      rw [hl] at hlook
      exact hlook
    · next ed' hl =>
      rw [hl] at hlook
      have hline := hrun line ed'
      split
      · next ed'' failure hr =>
        rw [hr] at hline
        exact h.trans hlook (h.trans hline (h.worked (worked_tell _ _)))
      · next ed'' outcome _ hr =>
        rw [hr] at hline
        exact h.trans hlook (h.trans hline (ih ed''))

theorem playTimes {run : Text → Editor → Result} (hrun : ∀ line ed, R ed (run line ed).1) (name : Text)
    (lines : List Text) (n : Nat) (ed : Editor) : R ed (playTimes run name lines n ed).1 := by
  induction n generalizing ed with
  | zero => exact h.refl ed
  | succ n ih =>
    have hlines := h.playLines hrun name lines ed
    unfold Editor.playTimes
    split
    · next ed' failure hr =>
      rw [hr] at hlines
      exact hlines
    · next ed' outcome _ hr =>
      rw [hr] at hlines
      exact h.trans hlines (ih ed')

theorem play {run : Runner} (hrun : ∀ running line ed, R ed (run running line ed).1) (running : Running)
    (name : Text) (count : Int) (ed : Editor) : R ed (play run running name count ed).1 := by
  unfold Editor.play
  split
  · exact h.refl ed
  · extract_lets name'
    split
    · exact h.refl ed
    · exact h.refl ed
    · exact h.group (h.playTimes (hrun _) name' _ _ _)

theorem playCommand {run : Runner} (hrun : ∀ running line ed, R ed (run running line ed).1)
    (running : Running) (count name : Text) (ed : Editor) :
    R ed (playCommand run running count name ed).1 := by
  unfold Editor.playCommand
  extract_lets name'
  split
  · exact h.refl ed
  split
  · exact h.play hrun running name' 1 ed
  · split
    · exact h.refl ed
    · exact h.play hrun running name' _ ed

theorem runScript {run : Runner} (hrun : ∀ running line ed, R ed (run running line ed).1)
    (running : Running) (lines : List Text) (ed : Editor) : R ed (runScript run running lines ed).1 := by
  induction lines generalizing ed with
  | nil => exact h.refl ed
  | cons line rest ih =>
    have hlook := h.worked ed.worked_look
    unfold Editor.runScript
    split
    · exact h.refl ed
    split
    · next ed' hl =>
      rw [hl] at hlook
      exact hlook
    · next ed' hl =>
      rw [hl] at hlook
      have hline := h.trans hlook (hrun running line ed')
      split
      · next ed'' hr =>
        rw [hr] at hline
        exact h.trans hline (ih ed'')
      · next ed'' t hr =>
        rw [hr] at hline
        exact h.trans hline (h.trans (h.worked (worked_tell _ _)) (ih _))
      · next ed'' failure hr =>
        rw [hr] at hline
        exact hline

theorem source {run : Runner} (hrun : ∀ running line ed, R ed (run running line ed).1)
    (running : Running) (name : Text) (ed : Editor) : R ed (source run running name ed).1 := by
  unfold Editor.source
  extract_lets name' path
  split
  · exact h.refl ed
  split
  · exact h.refl ed
  split
  · exact h.refl ed
  · exact h.runScript hrun _ _ ed

theorem visitLines {run : Editor → Result} (hrun : ∀ ed, R ed (run ed).1) (lines : List Nat)
    (ed : Editor) : R ed (visitLines run lines ed).1 := by
  induction lines generalizing ed with
  | nil => exact h.refl ed
  | cons line rest ih =>
    have hlook := h.worked ed.worked_look
    unfold Editor.visitLines
    split
    · next ed' hl =>
      rw [hl] at hlook
      exact hlook
    · next ed' hl =>
      rw [hl] at hlook
      split
      · exact h.trans hlook (ih ed')
      · next offset _ =>
        have hvisit := h.trans hlook (h.trans (h.worked (ed'.worked_visit line offset)) (hrun _))
        split
        · next ed'' hr =>
          rw [hr] at hvisit
          exact h.trans hvisit (ih ed'')
        · next ed'' t hr =>
          rw [hr] at hvisit
          exact h.trans hvisit (h.trans (h.worked (worked_tell _ _)) (ih _))
        · next ed'' failure hr =>
          rw [hr] at hvisit
          exact hvisit

theorem global {run : Runner} (hrun : ∀ running line ed, R ed (run running line ed).1)
    (running : Running) (r : AddressRange) (t : Text) (invert : Bool) (ed : Editor) :
    R ed (global run running r t invert ed).1 := by
  unfold Editor.global
  extract_lets go prepared
  clear_value prepared
  rcases prepared with failure | ⟨g, m, first, last⟩
  · exact h.refl ed
  · have hsearch := h.worked (ed.worked_rememberSearch g.pattern)
    dsimp only
    generalize ed.rememberSearch g.pattern = ed' at hsearch ⊢
    split
    · exact hsearch
    · generalize matchedLines ed.frame m invert first last = lines
      have hvisit := h.visitLines (hrun { running with inGlobal := true } g.command) lines
        ((ed'.mapFrame (markLines · lines)).mapFrame Frame.openGroup)
      have hclose : (fun f => (unmarkLines f lines).closeGroup) = fun f => unmarkLines f.closeGroup lines :=
        funext fun f => (unmarkLines_closeGroup f lines).symm
      have hmarked := h.marked (h.group hvisit)
      dsimp only
      rw [hclose]
      exact h.trans hsearch hmarked

/-- A command, whatever it runs. -/
theorem dispatch {run : Runner} (hrun : ∀ running line ed, R ed (run running line ed).1)
    (running : Running) {c : Command} (hc : c.verb.takesRange ∨ c.range = []) (ed : Editor) :
    R ed (dispatch run running c (ed.log c)).1 := by
  cases hv : c.verb.runsLines with
  | false => exact h.single run running hv hc ed
  | true =>
    have hlogged : c.verb ≠ .undo := fun hu => by simp [hu, Verb.runsLines] at hv
    refine h.trans (h.log ed c (.inl hlogged)) ?_
    obtain ⟨range, verb, t, bang⟩ := c
    cases verb with
    | play => exact h.playCommand hrun running range t _
    | source => exact h.source hrun running t _
    | global invert =>
      have hrange := h.worked ((ed.log ⟨range, .global invert, t, bang⟩).worked_resolveRange range ['%'])
      change R _ (Editor.onRange _ _ _ _).1
      unfold Editor.onRange
      split
      · next hr =>
        rw [hr] at hrange
        exact hrange
      · next hr =>
        rw [hr] at hrange
        exact h.trans hrange (h.global hrun running _ t invert _)
    | _ => cases hv

theorem runParsed {run : Runner} (hrun : ∀ running line ed, R ed (run running line ed).1)
    (running : Running) (line : Text) (ed : Editor) : R ed (runParsed run running line ed).1 := by
  unfold Editor.runParsed
  split
  · exact h.refl ed
  · exact h.refl ed
  · next c _ =>
    dsimp only
    split
    · next hc => exact h.log ed c (.inr (by simpa using (Bool.and_eq_true_iff.mp hc).2))
    · next hc =>
      refine h.dispatch hrun running ?_ ed
      cases ht : c.verb.takesRange with
      | true => exact .inl rfl
      | false => exact .inr (by simpa [ht] using hc)

/-- A line keeps the relation, whatever it runs. -/
theorem runLine (n : Nat) (running : Running) (line : Text) (ed : Editor) :
    R ed (runLine n running line ed).1 := by
  induction n generalizing running line ed with
  | zero => exact h.refl ed
  | succ n ih => exact h.group (h.runParsed ih _ line _)

/-- So does a line as typed. -/
theorem execute (ed : Editor) (line : Text) : R ed (ed.execute line).1 := by
  have hrun := h.trans (h.worked ed.worked_resume) (h.runLine ed.nestingBound {} line ed.resume)
  unfold Editor.execute
  rcases hr : Editor.runLine ed.nestingBound {} line ed.resume with ⟨after, outcome⟩
  rw [hr] at hrun
  have hreport : ∀ recorded : Bool,
      after.Worked ((if recorded then after.record line true else after).report outcome) := by
    intro recorded
    cases recorded with
    | true => exact (after.worked_record line true).trans (worked_report _ outcome)
    | false => exact after.worked_report outcome
  exact h.trans hrun (h.worked (hreport _))

/-- And a macro that is played outside of any command. -/
theorem playMacro (ed : Editor) (name : Text) (count : Int) : R ed (ed.playMacro name count).1 :=
  h.play (h.runLine ed.nestingBound) {} name count ed

end Stepwise
end Editor
end ExEditor
