import ExEditor.Proofs.Session.Captured
import ExEditor.Proofs.Session.FrameVerbs
import ExEditor.Proofs.Session.StateVerbs
import ExEditor.Proofs.Store.Shelf

/-! The files that command lines change. What a command does itself writes no file but that of the store, unless it
runs a process; and a process may do what it likes, but it leaves alone where the store is kept. So over all the lines
that run, at any depth, a file stays as it was that is not the store's and that no process changes. -/
namespace ExEditor

namespace Shell

theorem runProcess_workDir (command : Text) (file : Option Text) (environment : List (Text × Text)) (directory : Text)
    (files : FileTree) : (runProcess command file environment directory files).2.workDir = files.workDir := by
  unfold runProcess
  cases file with
  | none | some t =>
    dsimp only
    split
    · rfl
    · split
      · rfl
      · split <;> rfl

end Shell

theorem Host.run_workDir (h : Host) (files : FileTree) (command directory : Text) (file : Option Text) :
    (h.run files command directory file).2.2.workDir = files.workDir := by
  unfold run
  split
  · rfl
  · exact Shell.runProcess_workDir _ _ _ _ _

namespace Editor
open Change

/-- The shelf lies neither in the frame nor in the host. -/
theorem apart_shelf : Apart shelf := ⟨fun _ _ => rfl, fun _ _ => rfl⟩

/-- An editor after steps that write no file but that of the store. -/
def Saves (ed after : Editor) : Prop := ed.shelf.Saves after.shelf

section verbs
variable {ed : Editor} (r : AddressRange)

theorem saves_of_eq {after : Editor} (h : after.shelf = ed.shelf) : ed.Saves after := by
  unfold Saves
  rw [h]
  exact .refl _

theorem saves_of_reframes {after : Editor} (h : ed.Reframes after) : ed.Saves after :=
  saves_of_eq (apart_shelf.reframes h)

theorem saves_updateStore (ed : Editor) (store : Store) : ed.Saves (ed.updateStore store) := ed.shelf.saves_update store

theorem saves_settle {change : Change} (h : change.Keeps ed.Saves) : ed.Saves (ed.settle change).1 := by
  cases change with
  | error failure => exact saves_of_eq rfl
  | ok result => exact h result.1 result.2 rfl

/-- Resolving addresses leaves the files alone. -/
theorem saves_onRange {c : Command} {default : Text} {action : Editor → AddressRange → Result}
    (h : ∀ (ed : Editor) r, ed.Saves (action ed r).1) (ed : Editor) : ed.Saves (ed.onRange c default action).1 := by
  have hrange : (ed.resolveRange c.range default).2.shelf = ed.shelf := rfl
  unfold onRange
  generalize ed.resolveRange c.range default = resolved at hrange ⊢
  rcases resolved with ⟨failure | r, ed'⟩
  · exact saves_of_eq hrange
  · exact (saves_of_eq hrange : ed.Saves ed').trans (h ed' r)

theorem saves_changeRange {c : Command} {default : Text} {change : Editor → AddressRange → Change}
    (h : ∀ (ed : Editor) r, (change ed r).Keeps ed.Saves) (ed : Editor) :
    ed.Saves (ed.changeRange c default change).1 :=
  saves_onRange (fun ed r => saves_settle (h ed r)) ed

theorem saves_reframing {c : Command} {default : Text} {change : Editor → AddressRange → Change}
    (h : ∀ (ed : Editor) r, (change ed r).Keeps ed.Reframes) (ed : Editor) :
    ed.Saves (ed.changeRange c default change).1 :=
  saves_changeRange (fun ed r => (h ed r).imp fun _ => saves_of_reframes) ed

theorem saves_changeTo {c : Command} {change : Editor → AddressRange → Nat → Change}
    (h : ∀ (ed : Editor) r destination, (change ed r destination).Keeps ed.Reframes) (ed : Editor) :
    ed.Saves (ed.changeTo c change).1 := by
  refine saves_onRange (fun ed r => ?_) ed
  have hdestination : (ed.resolveDestination c.text).2.shelf = ed.shelf := by
    unfold resolveDestination
    split <;> rfl
  generalize ed.resolveDestination c.text = resolved at hdestination ⊢
  rcases resolved with ⟨failure | destination, ed'⟩
  · exact saves_of_eq hdestination
  · exact (saves_of_eq hdestination : ed.Saves ed').trans (saves_settle ((h ed' r destination).imp fun _ => saves_of_reframes))

variable (ed)

/-! Verbs that keep something save the store. -/

theorem delete_saves (t : Text) : (ed.delete r t).Keeps ed.Saves :=
  keeps_bind fun _ _ => keeps_bind fun _ _ => keeps_ok _ (ed.context.registers.saves_delete _ _)

theorem yank_saves (t : Text) : (ed.yank r t).Keeps ed.Saves :=
  keeps_bind fun _ _ => keeps_bind fun _ _ => keeps_ok _ (ed.context.registers.saves_yank _ _)

theorem enterText_saves (placement : Placement) (t : Text) : (ed.enterText r placement t).Keeps ed.Saves :=
  keeps_bind fun _ _ => keeps_ok _ (ed.context.registers.saves_set .lastInsert _)

theorem rememberSearch_shelf (pattern : Text) : (ed.rememberSearch pattern).shelf = ed.shelf := by
  unfold rememberSearch
  split <;> rfl

theorem runSubstitution_saves (s : Substitution) : (ed.runSubstitution r s).Keeps ed.Saves :=
  keeps_bind fun _ _ => keeps_bind fun _ _ => keeps_ok _ (saves_of_eq (rememberSearch_shelf _ s.pattern))

theorem repeatSubstitution_saves (flags : Text) (keepFlags : Bool) :
    (ed.repeatSubstitution r flags keepFlags).Keeps ed.Saves := by
  unfold repeatSubstitution
  split
  · exact keeps_error _
  · exact keeps_ite (keeps_bind fun _ _ => ed.runSubstitution_saves r _)
      (keeps_bind fun _ _ => ed.runSubstitution_saves r _)

theorem repeatWithSearch_saves (flags : Text) : (ed.repeatWithSearch r flags).Keeps ed.Saves := by
  unfold repeatWithSearch
  split
  · exact keeps_error _
  · exact keeps_error _
  · exact keeps_bind fun _ _ => ed.runSubstitution_saves r _

theorem substitute_saves (t : Text) : (ed.substitute r t).Keeps ed.Saves :=
  keeps_ite (ed.repeatSubstitution_saves r [] false) <| keeps_bind fun _ _ => ed.runSubstitution_saves r _

theorem changeDirectory_saves (t : Text) : (ed.changeDirectory t).Keeps ed.Saves :=
  (ed.changeDirectory_moves t).imp fun _ ⟨_, hafter⟩ => saves_of_eq (hafter ▸ rfl)

theorem switchHighlight_saves (t : Text) : (ed.switchHighlight t).Keeps ed.Saves :=
  (ed.switchHighlight_switches t).imp fun _ ⟨_, hafter⟩ => saves_of_eq (hafter ▸ rfl)

theorem abbreviate_saves (t : Text) : (ed.abbreviate t).Keeps ed.Saves := by
  unfold abbreviate
  dsimp only
  split
  · exact keeps_ok _ (.refl _)
  · exact keeps_error _
  · exact keeps_ok _ (ed.saves_updateStore _)

theorem unabbreviate_saves (t : Text) : (ed.unabbreviate t).Keeps ed.Saves := by
  unfold unabbreviate
  split
  · exact keeps_ok _ (ed.saves_updateStore _)
  · exact keeps_error _

theorem mapKeys_saves (t : Text) : (ed.mapKeys t).Keeps ed.Saves := by
  unfold mapKeys
  dsimp only
  split
  · exact keeps_ok _ (.refl _)
  · exact keeps_error _
  · exact keeps_ok _ (ed.saves_updateStore _)

theorem unmapKeys_saves (t : Text) : (ed.unmapKeys t).Keeps ed.Saves := by
  unfold unmapKeys
  split
  · exact keeps_ok _ (ed.saves_updateStore _)
  · exact keeps_error _

theorem startRecording_saves (t : Text) : (ed.startRecording t).Keeps ed.Saves :=
  keeps_bind fun _ hstart => keeps_ok _ (Recorder.saves_start hstart)

theorem stopRecording_saves : ed.stopRecording.Keeps ed.Saves := by
  unfold stopRecording
  split
  · exact keeps_error _
  · exact keeps_ok _ (Recording.saves_keep _ _)

end verbs

section commands
variable (run : Runner) (running : Running)

theorem enter_saves (ed : Editor) (c : Command) (placement : Placement) : ed.Saves (ed.enter c placement).1 := by
  unfold enter
  split
  · exact saves_settle (ed.enterText_saves _ _ _)
  · exact saves_changeRange (fun ed r => ed.enterText_saves r placement c.text) ed

theorem putAt_saves (ed : Editor) (c : Command) : ed.Saves (ed.putAt c).1 := by
  unfold putAt
  split
  · exact saves_settle ((ed.put_reframes _ _).imp fun _ => saves_of_reframes)
  · exact saves_reframing (fun ed r => keeps_bind fun _ _ => ed.put_reframes _ c.text) ed

theorem setOptions_shelf (ed : Editor) (t : Text) : (ed.setOptions t).1.shelf = ed.shelf := by
  unfold setOptions
  dsimp only
  split <;> rfl

/-- A command that runs neither lines nor a process writes no file but that of the store. -/
theorem dispatch_saves {c : Command} (hlines : c.verb.runsLines = false) (hprocess : c.verb ≠ .bang) (ed : Editor) :
    ed.Saves (dispatch run running c ed).1 := by
  obtain ⟨range, verb, t, bang⟩ := c
  cases verb with
  | goto => exact saves_reframing goto_reframes ed
  | append => exact ed.enter_saves _ .append
  | insert => exact ed.enter_saves _ .insert
  | change => exact ed.enter_saves _ .change
  | delete => exact saves_changeRange (fun ed r => ed.delete_saves r t) ed
  | yank => exact saves_changeRange (fun ed r => ed.yank_saves r t) ed
  | put => exact ed.putAt_saves _
  | copy => exact saves_changeTo copy_reframes ed
  | move => exact saves_changeTo move_reframes ed
  | join => exact saves_reframing (fun ed r => ed.join_reframes r bang) ed
  | print => exact saves_reframing (fun ed r => ed.print_reframes r false) ed
  | number => exact saves_reframing (fun ed r => ed.print_reframes r true) ed
  | lineNumber => exact saves_reframing showLineNumber_reframes ed
  | mark => exact saves_reframing (fun ed r => ed.setMark_reframes r t) ed
  | shift forward count => exact saves_reframing (fun ed r => ed.shift_reframes r forward count) ed
  | sort => exact saves_reframing (fun ed r => ed.sort_reframes r t) ed
  | bang => exact absurd rfl hprocess
  | substitute => exact saves_changeRange (fun ed r => ed.substitute_saves r t) ed
  | repeatSubstitute keepFlags => exact saves_changeRange (fun ed r => ed.repeatSubstitution_saves r t keepFlags) ed
  | repeatWithSearch => exact saves_changeRange (fun ed r => ed.repeatWithSearch_saves r t) ed
  | cd => exact saves_settle (ed.changeDirectory_saves t)
  | syntaxState => exact saves_settle (ed.switchHighlight_saves t)
  | set => exact saves_of_eq (ed.setOptions_shelf t)
  | abbreviate => exact saves_settle (ed.abbreviate_saves t)
  | unabbreviate => exact saves_settle (ed.unabbreviate_saves t)
  | map => exact saves_settle (ed.mapKeys_saves t)
  | unmap => exact saves_settle (ed.unmapKeys_saves t)
  | record => exact saves_settle (ed.startRecording_saves t)
  | stop => exact saves_settle ed.stopRecording_saves
  | pwd | registers | marks | undo | noHighlight => exact saves_of_eq rfl
  | global | play | source => cases hlines

/-- A process may change files, and leaves alone where the store is kept and what it holds. -/
theorem runShell_shelf (ed : Editor) (command : Text) (file : Option Text) :
    ∃ files, (ed.runShell command file).2.shelf = { ed.shelf with files } ∧
      files.workDir = ed.shelf.files.workDir := by
  have hworkDir := ed.host.run_workDir ed.shelf.files command ed.session.cwd file
  unfold runShell
  generalize ed.host.run ed.shelf.files command ed.session.cwd file = ran at hworkDir ⊢
  obtain ⟨result, host, files⟩ := ran
  refine ⟨files, ?_, hworkDir⟩
  dsimp only
  split
  · rfl
  · split <;> rfl

theorem dispatch_bang_shelf {c : Command} (hverb : c.verb = .bang) (ed : Editor) :
    ∃ files, (dispatch run running c ed).1.shelf = { ed.shelf with files } ∧
      files.workDir = ed.shelf.files.workDir := by
  obtain ⟨range, verb, t, bang⟩ := c
  obtain rfl : verb = .bang := hverb
  have hself : ∃ files, ed.shelf = { ed.shelf with files } ∧ files.workDir = ed.shelf.files.workDir := ⟨_, rfl, rfl⟩
  unfold dispatch
  dsimp only
  split
  · have hrun := ed.runShell_shelf t.trim none
    unfold shell
    dsimp only
    split
    · exact hself
    · generalize ed.runShell t.trim none = ran at hrun ⊢
      rcases ran with ⟨failure | output, ed'⟩ <;> exact hrun
  · unfold onRange
    have hrange : (ed.resolveRange range ['.']).2.shelf = ed.shelf := rfl
    generalize ed.resolveRange range ['.'] = resolved at hrange ⊢
    rcases resolved with ⟨failure | r, ed'⟩
    · exact hrange ▸ hself
    · rw [← hrange]
      unfold filter
      dsimp only
      split
      · exact ⟨_, rfl, rfl⟩
      · next first last hchecked =>
        generalize ed'.frame.linesSpan first last = span
        have hrun := ed'.runShell_shelf t.trim (some (ed'.frame.slice span.1 span.2))
        generalize ed'.runShell t.trim (some (ed'.frame.slice span.1 span.2)) = ran at hrun ⊢
        rcases ran with ⟨failure | output, ed''⟩ <;> exact hrun

/-- What a command does itself does not depend on how lines are run. -/
theorem worked_run (run run' : Runner) (running : Running) (c : Command) (ed : Editor) :
    ed.worked run running c = ed.worked run' running c := by
  obtain ⟨range, verb, t, bang⟩ := c
  cases verb <;> rfl

theorem worked_saves {c : Command} (hprocess : c.verb ≠ .bang) (ed : Editor) : ed.Saves (ed.worked run running c) := by
  by_cases hlines : c.verb.runsLines
  · exact saves_of_eq (apart_shelf.worked run running (fun _ _ => rfl) hlines ed)
  · rw [worked_of_not (by simpa using hlines)]
    exact dispatch_saves run running (by simpa using hlines) hprocess ed

end commands
end Editor

namespace Call
open Editor
variable {names : List Text}

/-- Whether a line is a command that runs a process. -/
def runsProcess (c : Call) : Bool :=
  match Command.parse c.line with
  | .ok (some command) => command.verb = .bang
  | _ => false

/-- The shelf as a line by itself leaves it, apart from the lines that it starts. -/
def shelfLeft (c : Call) : Shelf := (c.worked 0).shelf

/-- Whether a line by itself leaves the file at a place as it is. -/
def Spares (c : Call) (names : List Text) : Prop := c.shelfLeft.files.held? names = c.editor.shelf.files.held? names

theorem worked_shelf (n : Nat) (c : Call) : (c.worked n).shelf = c.shelfLeft := by
  unfold shelfLeft worked workedLine
  rcases Command.parse c.line with failure | _ | command
  · rfl
  · rfl
  · dsimp only
    split
    · rfl
    · rw [worked_run]

/-- A line that runs no process writes no file but that of the store. -/
theorem shelfLeft_saves {c : Call} (h : c.runsProcess = false) : c.editor.shelf.Saves c.shelfLeft := by
  unfold runsProcess at h
  unfold shelfLeft worked workedLine
  rcases hparse : Command.parse c.line with failure | _ | command
  · exact .refl _
  · exact .refl _
  · rw [hparse] at h
    dsimp only
    split
    · exact .refl _
    · exact worked_saves (runLine 0) c.inner (of_decide_eq_false h) ((c.editor.mapFrame Frame.openGroup).log command)

/-- Where the store is kept stays the same whatever a line does. -/
theorem shelfLeft_kept (c : Call) :
    c.shelfLeft.path = c.editor.shelf.path ∧ c.shelfLeft.loaded = c.editor.shelf.loaded ∧
      c.shelfLeft.files.workDir = c.editor.shelf.files.workDir := by
  cases h : c.runsProcess with
  | false =>
    have hsaves := shelfLeft_saves h
    exact ⟨hsaves.path, hsaves.loaded, hsaves.workDir⟩
  | true =>
    unfold runsProcess at h
    unfold shelfLeft worked workedLine
    rcases hparse : Command.parse c.line with failure | _ | command <;> rw [hparse] at h
    · cases h
    · cases h
    · have hverb : command.verb = .bang := of_decide_eq_true h
      dsimp only
      split
      · exact ⟨rfl, rfl, rfl⟩
      · have hlines : command.verb.runsLines = false := by rw [hverb]; rfl
        rw [worked_of_not hlines]
        obtain ⟨files, hshelf, hworkDir⟩ := dispatch_bang_shelf (runLine 0) c.inner hverb
          ((c.editor.mapFrame Frame.openGroup).log command)
        rw [hshelf]
        exact ⟨rfl, rfl, hworkDir⟩

/-- The shelf goes through a line from one of the lines that run in it to the next. -/
theorem shelf_trace (n : Nat) (c : Call) :
    Carried (fun c : Call => c.editor.shelf) shelfLeft c.editor.shelf (c.trace n) (c.result n).1.shelf := by
  have hown : ∀ (n : Nat) (c : Call),
      Carried (fun c : Call => c.editor.shelf) shelfLeft c.editor.shelf [c] (c.worked n).shelf :=
    fun n c => ⟨rfl, (c.worked_shelf n).symm⟩
  have htrace := trace_carried apart_shelf hown n c
  rwa [List.flatMap_singleton'] at htrace

end Call

namespace Editor

/-- The lines that run when lines are executed one after the other, themselves and those at any depth below them. -/
def callsOfEach : List Text → Editor → List Call
  | [], _ => []
  | line :: rest, ed => ed.callsOf line ++ callsOfEach rest (ed.execute line).1

/-- The shelf goes through lines that are executed from one of the lines that run to the next. -/
theorem shelf_executeEach (lines : List Text) (ed : Editor) :
    Carried (fun c : Call => c.editor.shelf) Call.shelfLeft ed.shelf (callsOfEach lines ed)
      (ed.executeEach lines).shelf := by
  induction lines generalizing ed with
  | nil => rfl
  | cons line rest ih =>
    have hline := Call.shelf_trace ed.nestingBound ⟨{}, line, ed.resume⟩
    have hshelf : (ed.execute line).1.shelf = (runLine ed.nestingBound {} line ed.resume).1.shelf :=
      congrArg (·.registers.shelf) (ed.execute_context line)
    exact Carried.append hline (hshelf ▸ ih (ed.execute line).1)

/-- The store stays where it is kept. -/
theorem executeEach_kept (lines : List Text) (ed : Editor) :
    (∀ c ∈ callsOfEach lines ed, c.editor.shelf.place? = ed.shelf.place?) ∧
      (ed.executeEach lines).shelf.path = ed.shelf.path ∧ (ed.executeEach lines).shelf.loaded = ed.shelf.loaded ∧
        (ed.executeEach lines).shelf.files.workDir = ed.shelf.files.workDir := by
  have hkept : ∀ c ∈ callsOfEach lines ed, (c.shelfLeft.path, c.shelfLeft.loaded, c.shelfLeft.files.workDir) =
      (c.editor.shelf.path, c.editor.shelf.loaded, c.editor.shelf.files.workDir) := fun c _ => by
    obtain ⟨hpath, hloaded, hworkDir⟩ := c.shelfLeft_kept
    rw [hpath, hloaded, hworkDir]
  obtain ⟨hfound, hlast⟩ := Carried.keeps (p := fun s : Shelf => (s.path, s.loaded, s.files.workDir))
    (shelf_executeEach lines ed) hkept
  simp only [Prod.mk.injEq] at hfound hlast
  refine ⟨fun c hc => ?_, hlast⟩
  obtain ⟨hpath, hloaded, hworkDir⟩ := hfound c hc
  exact Shelf.place?_congr hpath hloaded hworkDir

/-- While lines are executed a file stays as it was that is not the store's, if no process changes it. -/
theorem executeEach_spares {lines : List Text} {ed : Editor} {names : List Text}
    (hplace : ed.shelf.place? ≠ some names) (h : ∀ c ∈ callsOfEach lines ed, c.runsProcess → c.Spares names) :
    (ed.executeEach lines).shelf.files.held? names = ed.shelf.files.held? names := by
  refine (Carried.keeps (p := fun s : Shelf => s.files.held? names) (shelf_executeEach lines ed) fun c hc => ?_).2
  cases hprocess : c.runsProcess with
  | true => exact h c hc hprocess
  | false => exact (Call.shelfLeft_saves hprocess).held names ((executeEach_kept lines ed).1 c hc ▸ hplace)

end Editor
end ExEditor
