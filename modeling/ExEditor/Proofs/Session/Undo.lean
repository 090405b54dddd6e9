import ExEditor.Proofs.Session.Dispatch
import ExEditor.Proofs.Session.Steps
import ExEditor.Proofs.Session.Stepwise

/-! Undoing command lines. A line is one step to undo, whatever it runs, as long as nothing is undone in
it. Where something is, its own step goes first, so that undoing goes on to texts from before the line. -/
namespace ExEditor

/-- Whether a command is an undo that is carried out. With a range it is refused. -/
def Command.undoes (c : Command) : Bool := c.verb = .undo && c.range = []

namespace Editor

/-- What running lines in a group leaves of the history: all of it if nothing is undone, and otherwise at
most what is older than the latest text there. -/
structure Ran (ed after : Editor) : Prop where
  depth : after.frame.depth = ed.frame.depth
  history : ∃ commands, after.host.log = commands ++ ed.host.log ∧ (0 < ed.frame.depth →
    if commands.any Command.undoes then after.frame.history <:+ ed.frame.history.tail
    else after.frame.history = ed.frame.history)

namespace Ran
variable {ed after last : Editor}

theorem of_worked (h : ed.Worked after) : Ran ed after := ⟨h.frame.depth, [], h.log, h.frame.history⟩

theorem trans (h : Ran ed after) (h' : Ran after last) : Ran ed last := by
  obtain ⟨hd, commands, hlog, hh⟩ := h
  obtain ⟨hd', commands', hlog', hh'⟩ := h'
  refine ⟨hd'.trans hd, commands' ++ commands, by rw [hlog', hlog, List.append_assoc], fun hpos => ?_⟩
  have hold := hh hpos
  have hnew := hh' (hd ▸ hpos)
  rw [List.any_append]
  -- A run that undoes leaves a suffix, and one that does not leaves what the other has left.
  cases hu : commands.any Command.undoes <;> cases hu' : commands'.any Command.undoes <;>
    simp only [hu, hu', Bool.false_eq_true, Bool.or_false, Bool.or_true, ↓reduceIte] at hold hnew ⊢
  · exact hnew.trans hold
  · exact hold ▸ hnew
  · exact hnew ▸ hold
  · exact (hnew.trans (List.tail_suffix _)).trans hold

/-- A group inside a group adds nothing to the history. -/
theorem group (h : Ran (ed.mapFrame Frame.openGroup) after) : Ran ed (after.mapFrame Frame.closeGroup) := by
  obtain ⟨hd, commands, hlog, hh⟩ := h
  refine ⟨(congrArg (· - 1) hd).trans rfl, commands, hlog, fun hpos => ?_⟩
  have hopen : ed.frame.openGroup.history = ed.frame.history := (Frame.Edited.remember _).history hpos
  have hkept := hh (Nat.succ_pos _)
  change if _ then _ <:+ ed.frame.openGroup.history.tail else _ = ed.frame.openGroup.history at hkept
  rwa [hopen] at hkept

theorem log {c : Command} (h : c.undoes = false) (ed : Editor) : Ran ed (ed.log c) :=
  ⟨rfl, [c], rfl, fun _ => by simp [h]; rfl⟩

theorem undo {c : Command} (h : c.undoes) (ed : Editor) : Ran ed (ed.log c).undo.1 :=
  ⟨ed.frame.undo_depth, [c], rfl, fun _ => by
    rw [List.any_cons, h]
    exact ed.frame.undo_history⟩

end Ran

theorem undoes_of_not {c : Command} (h : c.verb ≠ .undo ∨ c.range ≠ []) : c.undoes = false := by
  rcases h with h | h <;> simp [Command.undoes, h]

/-- What lines leave of the history they leave at every step. -/
theorem stepwise_ran : Stepwise Ran where
  trans := .trans
  worked := .of_worked
  log ed c h := .log (undoes_of_not h) ed
  undo ed c hv hr := .undo (by simp [Command.undoes, hv, hr]) ed
  group := .group
  marked {ed after lines} h := by
    obtain ⟨marks, hmarked⟩ := ed.mapFrame_markLines lines
    obtain ⟨marks', hunmarked⟩ := after.mapFrame_unmarkLines lines
    rw [hmarked] at h
    rw [hunmarked]
    exact ⟨h.depth, h.history⟩

/-- What a line does to the frame and to the log is done when it has run. -/
theorem execute_frame (ed : Editor) (line : Text) :
    (ed.execute line).1.frame = (runLine ed.nestingBound {} line ed.resume).1.frame ∧
      (ed.execute line).1.host.log = (runLine ed.nestingBound {} line ed.resume).1.host.log := by
  unfold execute
  rcases runLine ed.nestingBound {} line ed.resume with ⟨after, outcome⟩
  dsimp only [report]
  split <;> cases outcome.shown <;> exact ⟨rfl, rfl⟩

/-- A line puts the text from before it on top of the history. If something is undone in it that text is
gone again. -/
theorem execute_history {ed : Editor} (hd : ed.frame.depth = 0) (line : Text) :
    (ed.execute line).1.frame.depth = 0 ∧
      ∃ commands, (ed.execute line).1.host.log = commands ++ ed.host.log ∧
        if commands.any Command.undoes then (ed.execute line).1.frame.history <:+ ed.frame.history
        else (ed.execute line).1.frame.history = ed.frame.text :: ed.frame.history := by
  obtain ⟨hframe, hlog⟩ := ed.execute_frame line
  obtain ⟨hdepth, commands, hcommands, hhistory⟩ := stepwise_ran.runParsed
    (stepwise_ran.runLine (ed.nestingBound - 1)) { invoking := [line] } line
    (ed.resume.mapFrame Frame.openGroup)
  have hopen := ed.frame.openGroup_history hd
  have hkept := hhistory (Nat.succ_pos _)
  change if _ then _ <:+ ed.frame.openGroup.history.tail else _ = ed.frame.openGroup.history at hkept
  rw [hopen] at hkept
  refine ⟨?_, commands, hlog.trans hcommands, by rw [hframe]; exact hkept⟩
  have hsucc : (ed.resume.mapFrame Frame.openGroup).frame.depth = 1 := congrArg (· + 1) hd
  rw [hsucc] at hdepth
  rw [hframe]
  exact congrArg (· - 1) hdepth

/-- The command that undoes, as a line. -/
theorem execute_undo {ed : Editor} (hd : ed.frame.depth = 0) :
    (ed.execute ['u']).1.frame.text = ed.frame.undo.1.text ∧
      (ed.execute ['u']).2 =
        if ed.frame.undo.2 then .success else .message "already at oldest change".toList := by
  have hparse : Command.parse ['u'] = .ok (some ⟨[], .undo, [], false⟩) := rfl
  have hrun : ∀ n, runLine (n + 1) {} ['u'] ed.resume =
      let r := ((ed.resume.mapFrame Frame.openGroup).log ⟨[], .undo, [], false⟩).undo
      (r.1.mapFrame Frame.closeGroup, r.2) := by
    intro n
    simp [runLine, runParsed, hparse, dispatch]
  obtain ⟨htext, hundone⟩ := ed.frame.undo_openGroup hd
  have houtcome : (ed.execute ['u']).2 = (runLine ed.nestingBound {} ['u'] ed.resume).2 := rfl
  constructor
  · rw [(ed.execute_frame _).1, nestingBound, hrun]
    exact htext
  · rw [houtcome, nestingBound, hrun, ← hundone]
    rfl

/-- Between steps no group is open. -/
theorem Reachable.depth {ed : Editor} (h : Reachable ed) : ed.frame.depth = 0 := by
  induction h with
  | start hd _ => exact hd
  | execute _ line ih => exact (execute_history ih line).1
  | @playMacro ed _ name count ih => exact (stepwise_ran.playMacro ed name count).depth.trans ih
  | @handleMode ed _ event ih => exact (ed.edited_handleMode event).depth.trans ih
  | typeText _ ht ih => exact (edited_typeText ht).depth.trans ih
  | @insertVariable ed _ name ih => exact (ed.edited_insertVariable name).depth.trans ih
  | touch _ hf ih => exact hf.depth.trans ih
  | aside _ hf ih => exact (congrArg Frame.depth hf).trans ih

/-- The commands that are carried out or refused while a line runs, whatever it runs, latest first. -/
def commandsOf (ed : Editor) (line : Text) : List Command :=
  let log := (ed.execute line).1.host.log
  log.take (log.length - ed.host.log.length)

theorem commandsOf_eq {ed : Editor} {line : Text} {commands : List Command}
    (h : (ed.execute line).1.host.log = commands ++ ed.host.log) : ed.commandsOf line = commands := by
  rw [commandsOf, h, List.length_append, Nat.add_sub_cancel, List.take_left]

/-- A line that changes the text is one step to undo, whatever it runs, unless something is undone in
it. -/
theorem execute_then_undo {ed : Editor} (h : Reachable ed) (line : Text)
    (hu : ∀ c ∈ ed.commandsOf line, c.undoes = false)
    (ht : (ed.execute line).1.frame.text ≠ ed.frame.text) :
    ((ed.execute line).1.execute ['u']).2 = .success ∧
      ((ed.execute line).1.execute ['u']).1.frame.text = ed.frame.text := by
  obtain ⟨hd, commands, hlog, hhistory⟩ := execute_history h.depth line
  obtain ⟨htext, houtcome⟩ := execute_undo hd
  rw [commandsOf_eq hlog] at hu
  have hany : commands.any Command.undoes = false := by simpa using hu
  rw [hany] at hhistory
  obtain ⟨hback, hundone⟩ := Frame.undo_latest _ hhistory ht
  exact ⟨by rw [houtcome, hundone]; rfl, htext.trans hback⟩

/-- Both lines that a global command deletes come back. -/
theorem execute_then_undo_global :
    let ed := ofText "b\na\nb\n".toList
    (ed.execute "g/b/d".toList).1.frame.text = "a\n".toList ∧
      ((ed.execute "g/b/d".toList).1.execute ['u']).2 = .success ∧
      ((ed.execute "g/b/d".toList).1.execute ['u']).1.frame.text = "b\na\nb\n".toList := by
  intro ed
  have htext : (ed.execute "g/b/d".toList).1.frame.text = "a\n".toList := by decide +kernel
  exact ⟨htext, execute_then_undo (.start rfl rfl) _ (by decide +kernel) (by rw [htext]; decide)⟩

/-- Undoing is itself a line that changes the text, and it is not undone but goes on. -/
theorem execute_undo_again :
    let ed := ((ofText "a\nb\n".toList).execute "1d".toList).1
    Reachable ed ∧ ed.frame.text = "b\n".toList ∧ (ed.execute ['u']).1.frame.text = "a\nb\n".toList ∧
      ((ed.execute ['u']).1.execute ['u']).2 = .message "already at oldest change".toList ∧
      ((ed.execute ['u']).1.execute ['u']).1.frame.text = "a\nb\n".toList := by
  intro ed
  exact ⟨.execute (.start rfl rfl) _, by decide +kernel⟩

/-- A line in which something is undone uses up its own step: undoing goes on to a text of the history
from before the line. -/
theorem execute_undoing_then_undo {ed : Editor} (h : Reachable ed) (line : Text)
    (hu : ∃ c ∈ ed.commandsOf line, c.undoes) :
    let after := (ed.execute line).1
    (after.execute ['u']).2 = .success ∧ (after.execute ['u']).1.frame.text ∈ ed.frame.history ∨
      (after.execute ['u']).2 = .message "already at oldest change".toList ∧
        (after.execute ['u']).1.frame.text = after.frame.text := by
  intro after
  obtain ⟨hd, commands, hlog, hhistory⟩ := execute_history h.depth line
  obtain ⟨htext, houtcome⟩ := execute_undo hd
  rw [commandsOf_eq hlog] at hu
  have hany : commands.any Command.undoes := by simpa using hu
  rw [hany] at hhistory
  rcases after.frame.undo_mem with ⟨hundone, hmem⟩ | ⟨hundone, hsame⟩
  · exact .inl ⟨by rw [houtcome, hundone]; rfl, htext ▸ hhistory.subset hmem⟩
  · exact .inr ⟨by rw [houtcome, hundone]; rfl, htext.trans hsame⟩

end Editor
end ExEditor
