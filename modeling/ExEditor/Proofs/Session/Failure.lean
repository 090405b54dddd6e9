import ExEditor.Proofs.Frame.Rows
import ExEditor.Proofs.Session.Dispatch

/-! A command that fails has changed nothing but what its addresses changed: the cursor and the last
search. -/
namespace ExEditor
namespace Editor

/-- What a command that failed has not touched. -/
structure Kept (ed after : Editor) : Prop where
  text : after.frame.text = ed.frame.text
  marks : after.frame.marks = ed.frame.marks
  selection : after.frame.selection = ed.frame.selection
  clipboard : after.context.registers.clipboard = ed.context.registers.clipboard
  store : after.shelf.store = ed.shelf.store
  settings : after.context.settings = ed.context.settings
  lastSubstitution : after.context.lastSubstitution = ed.context.lastSubstitution
  recorder : after.session.recorder = ed.session.recorder
  cwd : after.session.cwd = ed.session.cwd
  highlight : after.session.highlight = ed.session.highlight

namespace Kept
variable {ed after last : Editor}

theorem refl (ed : Editor) : Kept ed ed := ⟨rfl, rfl, rfl, rfl, rfl, rfl, rfl, rfl, rfl, rfl⟩

theorem trans (h : Kept ed after) (h' : Kept after last) : Kept ed last where
  text := h'.text.trans h.text
  marks := h'.marks.trans h.marks
  selection := h'.selection.trans h.selection
  clipboard := h'.clipboard.trans h.clipboard
  store := h'.store.trans h.store
  settings := h'.settings.trans h.settings
  lastSubstitution := h'.lastSubstitution.trans h.lastSubstitution
  recorder := h'.recorder.trans h.recorder
  cwd := h'.cwd.trans h.cwd
  highlight := h'.highlight.trans h.highlight

theorem beside (ed : Editor) (host : Host) (files : FileTree) : Kept ed (ed.beside host files) :=
  ⟨rfl, rfl, rfl, rfl, rfl, rfl, rfl, rfl, rfl, rfl⟩

theorem tell (ed : Editor) (t : Text) : Kept ed (ed.tell t) :=
  ⟨rfl, rfl, rfl, rfl, rfl, rfl, rfl, rfl, rfl, rfl⟩

theorem openGroup (ed : Editor) : Kept ed (ed.mapFrame Frame.openGroup) :=
  ⟨Frame.remember_text _, Frame.remember_marks _, Frame.remember_selection _, rfl, rfl, rfl, rfl, rfl,
    rfl, rfl⟩

theorem closeGroup (ed : Editor) : Kept ed (ed.mapFrame Frame.closeGroup) :=
  ⟨rfl, rfl, rfl, rfl, rfl, rfl, rfl, rfl, rfl, rfl⟩

theorem setLastSearch (ed : Editor) (pattern : Option Text) : Kept ed (ed.setLastSearch pattern) :=
  ⟨rfl, rfl, rfl, rfl, rfl, rfl, rfl, rfl, rfl, rfl⟩

theorem resolveRange (ed : Editor) (t default : Text) : Kept ed (ed.resolveRange t default).2 := by
  obtain ⟨cursor, hf⟩ := Address.resolveRange_frame ed.frame ed.searchRule ed.context.lastSearch
    (if t.isBlank then default else t)
  have hframe : (ed.resolveRange t default).2.frame = { ed.frame with cursor } := hf
  refine ⟨?_, ?_, ?_, rfl, rfl, rfl, rfl, rfl, rfl, rfl⟩ <;> rw [hframe]

theorem resolveDestination (ed : Editor) (t : Text) : Kept ed (ed.resolveDestination t).2 := by
  unfold Editor.resolveDestination
  split
  · exact refl ed
  · exact setLastSearch ed _

theorem addressed (ed : Editor) (c : Command) : Kept ed (ed.addressed c) := by
  have hr := resolveRange ed c.range c.verb.defaultRange
  unfold Editor.addressed
  split
  · dsimp only
    split
    · exact hr.trans (resolveDestination _ _)
    · exact hr
  · exact refl ed

end Kept

theorem Kept.addressedLine (ed : Editor) (line : Text) : Kept ed (ed.addressedLine line) := by
  unfold Editor.addressedLine
  split
  · exact Kept.addressed ed _
  · exact Kept.refl ed

/-- Editors that resolve addresses alike. -/
structure Alike (ed other : Editor) : Prop where
  frame : ed.frame.Alike other.frame
  rule : ed.searchRule = other.searchRule
  lastSearch : ed.context.lastSearch = other.context.lastSearch

theorem Alike.resolveRange {ed other : Editor} (h : ed.Alike other) (t default : Text) :
    (ed.resolveRange t default).1 = (other.resolveRange t default).1 ∧
      (ed.resolveRange t default).2.Alike (other.resolveRange t default).2 := by
  obtain ⟨hresult, hframe⟩ := Address.resolveRange_alike h.frame ed.searchRule ed.context.lastSearch
    (if t.isBlank then default else t)
  simp only [Editor.resolveRange, ← h.rule, ← h.lastSearch]
  exact ⟨congrArg Prod.fst hresult, hframe, h.rule, congrArg Prod.snd hresult⟩

theorem Alike.resolveDestination {ed other : Editor} (h : ed.Alike other) (t : Text) :
    (ed.resolveDestination t).2.Alike (other.resolveDestination t).2 := by
  have hr := Address.resolve_alike h.frame ed.searchRule
  simp only [Editor.resolveDestination, ← h.rule, ← h.lastSearch, hr]
  split
  · exact h
  · exact ⟨h.frame, h.rule, rfl⟩

/-- Addresses are resolved alike. -/
theorem Alike.addressed {ed other : Editor} (h : ed.Alike other) (c : Command) :
    (ed.addressed c).Alike (other.addressed c) := by
  obtain ⟨hresult, hr⟩ := h.resolveRange c.range c.verb.defaultRange
  simp only [Editor.addressed, hresult]
  split
  · split
    · exact hr.resolveDestination c.text
    · exact hr
  · exact h

theorem Alike.addressedLine {ed other : Editor} (h : ed.Alike other) (line : Text) :
    (ed.addressedLine line).Alike (other.addressedLine line) := by
  unfold Editor.addressedLine
  split
  · exact h.addressed _
  · exact h

theorem alike_openGroup (ed : Editor) : Alike (ed.resume.mapFrame Frame.openGroup) ed where
  frame := .openGroup ed.frame
  rule := rfl
  lastSearch := rfl

/-- Logging a command changes nothing that addresses look at or change. -/
theorem addressed_log (ed : Editor) (logged c : Command) :
    (ed.log logged).addressed c = (ed.addressed c).log logged := by
  have hr : ∀ t default, (ed.log logged).resolveRange t default =
      ((ed.resolveRange t default).1, (ed.resolveRange t default).2.log logged) := fun _ _ => rfl
  have hd : ∀ (ed : Editor) t,
      ((ed.log logged).resolveDestination t).2 = (ed.resolveDestination t).2.log logged := by
    intro ed t
    unfold resolveDestination
    split <;> rfl
  simp only [addressed, hr, hd]
  split
  · split <;> rfl
  · rfl

/-- A command that fails leaves the editor as its addresses have left it. -/
theorem dispatch_failed (run : Runner) (running : Running) {c : Command} (hc : c.verb.isSingle)
    {ed : Editor} (hf : (dispatch run running c ed).2.isFailure) :
    ∃ host files, (dispatch run running c ed).1 = (ed.addressed c).beside host files := by
  by_cases hu : c.verb = .undo
  · have hnot : (dispatch run running c ed).2.isFailure = false := by
      simp only [dispatch, hu, undo]
      split <;> rfl
    simp [hnot] at hf
  · exact (dispatch_settled run running hc hu ed).failed hf

/-- A line that fails leaves the editor as its addresses have left it. -/
theorem runParsed_failed (run : Runner) (running : Running) {line : Text} {ed : Editor}
    (hv : ∀ c, Command.parse line = .ok (some c) → c.verb.isSingle)
    (hf : (runParsed run running line ed).2.isFailure) :
    ∃ host files, (runParsed run running line ed).1 = (ed.addressedLine line).beside host files := by
  unfold runParsed addressedLine at *
  rcases hparse : Command.parse line with failure | _ | c
  · exact ⟨ed.host, ed.shelf.files, rfl⟩
  · exact ⟨ed.host, ed.shelf.files, rfl⟩
  · simp only [hparse] at hf ⊢
    have hlog : ∀ {after : Editor}, (∃ host files, after = ((ed.log c).addressed c).beside host files) →
        ∃ host files, after = (ed.addressed c).beside host files := by
      rintro _ ⟨host, files, rfl⟩
      exact ⟨host, files, by rw [addressed_log]; rfl⟩
    refine hlog ?_
    split
    · next hr =>
      simp only [Bool.and_eq_true, Bool.not_eq_eq_eq_not, Bool.not_true] at hr
      have hnot : c.resolvesRange = false := by
        unfold Command.resolvesRange
        split <;> simp_all [Verb.takesRange]
      rw [addressed_of_not hnot]
      exact ⟨(ed.log c).host, ed.shelf.files, rfl⟩
    · next hr =>
      rw [if_neg hr] at hf
      exact dispatch_failed run running (hv c hparse) hf

theorem report_eq (ed : Editor) (outcome : Outcome) :
    ed.report outcome = ed ∨ ∃ t, ed.report outcome = ed.tell t := by
  unfold report
  cases outcome.shown with
  | none => exact .inl rfl
  | some t => exact .inr ⟨t, rfl⟩

theorem Kept.report (ed : Editor) (outcome : Outcome) : Kept ed (ed.report outcome) := by
  rcases ed.report_eq outcome with h | ⟨t, h⟩
  · rw [h]
    exact Kept.refl ed
  · rw [h]
    exact Kept.tell ed t

/-- A line that fails ends as its commands end, without being recorded. -/
theorem execute_of_failure {ed : Editor} {line : Text} {failure : Failure}
    (hf : (ed.execute line).2 = .failure failure) :
    ∃ run running,
      (runParsed run running line (ed.resume.mapFrame Frame.openGroup)).2 = .failure failure ∧
      (ed.execute line).1 =
        ((runParsed run running line (ed.resume.mapFrame Frame.openGroup)).1.mapFrame
          Frame.closeGroup).report (.failure failure) := by
  refine ⟨runLine (ed.nestingBound - 1), { invoking := [line] }, hf, ?_⟩
  change (runParsed (runLine (ed.nestingBound - 1)) { invoking := [line] } line
    (ed.resume.mapFrame Frame.openGroup)).2 = _ at hf
  have hr : ed.execute line =
      let r := runParsed (runLine (ed.nestingBound - 1)) { invoking := [line] } line
        (ed.resume.mapFrame Frame.openGroup)
      ((if ed.session.recorder.isSome && r.1.session.recorder.isSome && !r.2.isFailure then
        (r.1.mapFrame Frame.closeGroup).record line true else r.1.mapFrame Frame.closeGroup).report r.2,
        r.2) := rfl
  rw [hr]
  simp only [hf, Outcome.isFailure, Bool.not_true, Bool.and_false, Bool.false_eq_true, ↓reduceIte]

/-- A command line that fails has changed nothing but the cursor and the last search, and these only
as its addresses have. -/
theorem execute_failure_keeps (ed : Editor) (line : Text) (failure : Failure)
    (hv : ∀ c, Command.parse line = .ok (some c) → c.verb.isSingle)
    (hf : (ed.execute line).2 = .failure failure) :
    Kept ed (ed.execute line).1 ∧
      (ed.execute line).1.frame.cursor = (ed.addressedLine line).frame.cursor ∧
      (ed.execute line).1.context.lastSearch = (ed.addressedLine line).context.lastSearch := by
  obtain ⟨run, running, hfail, hafter⟩ := execute_of_failure hf
  obtain ⟨host, files, hparsed⟩ :=
    @runParsed_failed run running line (ed.resume.mapFrame Frame.openGroup) hv (by rw [hfail]; rfl)
  have halike := (alike_openGroup ed).addressedLine line
  have hresume : Kept ed ed.resume := ⟨rfl, rfl, rfl, rfl, rfl, rfl, rfl, rfl, rfl, rfl⟩
  have hreport : ∀ (e : Editor) outcome, (e.report outcome).frame = e.frame ∧
      (e.report outcome).context = e.context := by
    intro e outcome
    rcases e.report_eq outcome with h | ⟨t, h⟩ <;> rw [h] <;> exact ⟨rfl, rfl⟩
  rw [hafter, hparsed]
  refine ⟨?_, ?_, ?_⟩
  · exact ((((hresume.trans (.openGroup _)).trans (.addressedLine _ line)).trans
      (.beside _ host files)).trans (.closeGroup _)).trans (.report _ _)
  · rw [(hreport _ _).1]
    exact halike.frame.cursor
  · rw [(hreport _ _).2]
    exact halike.lastSearch

/-- A destination among the lines to move, after a search has gone to a line and been remembered. -/
theorem execute_failure_keeps_move :
    Kept (ofText "a\nb\nc\n".toList) ((ofText "a\nb\nc\n".toList).execute "/b/;+1m2".toList).1 ∧
      ((ofText "a\nb\nc\n".toList).execute "/b/;+1m2".toList).1.frame.cursor = 2 ∧
      ((ofText "a\nb\nc\n".toList).execute "/b/;+1m2".toList).1.context.lastSearch = some ['b'] := by
  have hparse : Command.parse "/b/;+1m2".toList =
      .ok (some ⟨"/b/;+1".toList, .move, ['2'], false⟩) := by decide +kernel
  have h := execute_failure_keeps (ofText "a\nb\nc\n".toList) "/b/;+1m2".toList .invalidRange
    (fun c hc => by cases hparse.symm.trans hc; rfl) (by decide +kernel)
  exact ⟨h.1, h.2.1.trans (by decide +kernel), h.2.2.trans (by decide +kernel)⟩

end Editor
end ExEditor
