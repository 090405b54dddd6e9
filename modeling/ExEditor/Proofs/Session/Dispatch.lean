import ExEditor.Proofs.Address.Resolve
import ExEditor.Proofs.Session.Change
import ExEditor.Session.Execute

/-! What one command does to an editor: its addresses are resolved, and from there on it works on the
editor, or fails and leaves it as it is. -/
namespace ExEditor

/-- Whether a verb runs other command lines. -/
def Verb.runsLines : Verb → Bool
  | play | source | global _ => true
  | _ => false

/-- Whether a verb does its work in one step: it runs no other lines and does not set one option after
the other. -/
def Verb.isSingle : Verb → Bool
  | play | source | global _ | set => false
  | _ => true

/-- The range of a verb where none is written. -/
def Verb.defaultRange : Verb → Text
  | lineNumber => ['$']
  | sort | global _ => ['%']
  | _ => ['.']

namespace Command

/-- Whether a range is resolved: not for the place before the first line, and not for a shell command
alone. -/
def resolvesRange (c : Command) : Bool :=
  match c.verb with
  | .append | .insert | .put => !Editor.isBeforeFirst c
  | .bang => c.range ≠ []
  | .play => false
  | verb => verb.takesRange

/-- Whether the text of a command is a destination. -/
def takesDestination (c : Command) : Bool := c.verb = .copy || c.verb = .move

end Command

namespace Editor
open Change

/-- The editor after the addresses of a command are resolved. -/
def addressed (ed : Editor) (c : Command) : Editor :=
  if c.resolvesRange then
    let (range, ed) := ed.resolveRange c.range c.verb.defaultRange
    if c.takesDestination && range.isOk then (ed.resolveDestination c.text).2 else ed
  else ed

theorem addressed_of_not {ed : Editor} {c : Command} (h : c.resolvesRange = false) :
    ed.addressed c = ed := by
  simp [addressed, h]

theorem addressed_of_range {ed : Editor} {c : Command} (h : c.resolvesRange)
    (hd : c.takesDestination = false) :
    ed.addressed c = (ed.resolveRange c.range c.verb.defaultRange).2 := by
  simp [addressed, h, hd]

/-- The editor after the addresses of a command line are resolved. -/
def addressedLine (ed : Editor) (line : Text) : Editor :=
  match Command.parse line with
  | .ok (some c) => ed.addressed c
  | _ => ed

/-- An editor in other surroundings. -/
def beside (ed : Editor) (host : Host) (files : FileTree) : Editor :=
  { ed with host }.setShelf { ed.shelf with files }

/-- A result of a command that works on an editor, and leaves it as it is but for its surroundings if it
fails. -/
structure Settled (ed : Editor) (r : Result) : Prop where
  worked : ed.Worked r.1
  failed : r.2.isFailure → ∃ host files, r.1 = ed.beside host files

theorem settled_self (ed : Editor) (outcome : Outcome) : Settled ed (ed, outcome) :=
  ⟨.refl ed, fun _ => ⟨ed.host, ed.shelf.files, rfl⟩⟩

theorem settled_of_not {ed : Editor} {r : Result} (hw : ed.Worked r.1) (h : r.2.isFailure = false) :
    Settled ed r := ⟨hw, fun hf => by simp [h] at hf⟩

theorem settle_settled {ed : Editor} {change : Change} (h : change.Proper ed) :
    Settled ed (ed.settle change) := by
  cases change with
  | error failure => exact settled_self ed _
  | ok result =>
    obtain ⟨hf, hw⟩ := h result.1 result.2 rfl
    exact settled_of_not hw hf

theorem onRange_settled {ed : Editor} {c : Command} {default : Text}
    {action : Editor → AddressRange → Result} (h : ∀ ed r, Settled ed (action ed r)) :
    Settled (ed.resolveRange c.range default).2 (ed.onRange c default action) := by
  unfold onRange
  rcases ed.resolveRange c.range default with ⟨failure | r, ed'⟩
  · exact settled_self ed' _
  · exact h ed' r

theorem changeRange_settled {ed : Editor} {c : Command} {default : Text}
    {change : Editor → AddressRange → Change} (h : ∀ ed r, (change ed r).Proper ed) :
    Settled (ed.resolveRange c.range default).2 (ed.changeRange c default change) :=
  onRange_settled fun ed r => settle_settled (h ed r)

theorem changeTo_settled {ed : Editor} {c : Command} {change : Editor → AddressRange → Nat → Change}
    (h : ∀ ed r destination, (change ed r destination).Proper ed) :
    Settled (if (ed.resolveRange c.range ['.']).1.isOk then
        ((ed.resolveRange c.range ['.']).2.resolveDestination c.text).2
      else (ed.resolveRange c.range ['.']).2) (ed.changeTo c change) := by
  unfold changeTo onRange
  rcases ed.resolveRange c.range ['.'] with ⟨failure | r, ed'⟩
  · exact settled_self ed' _
  · simp only [Except.isOk, Except.toBool, ↓reduceIte]
    rcases ed'.resolveDestination c.text with ⟨failure | destination, ed''⟩
    · exact settled_self ed'' _
    · exact settle_settled (h ed'' r destination)

/-- A shell command changes the surroundings. -/
theorem runShell_beside (ed : Editor) (command : Text) (file : Option Text) :
    ∃ host files, (ed.runShell command file).2 = ed.beside host files ∧ host.log = ed.host.log := by
  have hlog := ed.host.run_log ed.shelf.files command ed.session.cwd file
  unfold runShell
  rcases hr : ed.host.run ed.shelf.files command ed.session.cwd file with ⟨result, host, files⟩
  rw [hr] at hlog
  refine ⟨host, files, ?_, hlog⟩
  dsimp only
  split
  · rfl
  · split <;> rfl

theorem worked_beside (ed : Editor) {host : Host} (h : host.log = ed.host.log) (files : FileTree) :
    ed.Worked (ed.beside host files) := .of_still (.refl _) (.refl _) h rfl

/-- A range that may be edited lies in a frame that may be. -/
theorem isEditable_of_editable {r : AddressRange} {f : Frame} {lines : Nat × Nat} (h : r.editable f = .ok lines) :
    f.isEditable := by
  unfold AddressRange.editable at h
  cases hr : r.checked with
  | error failure => simp [hr, bind, Except.bind] at h
  | ok lines' =>
    cases he : f.isEditable with
    | true => rfl
    | false => simp [hr, he, bind, Except.bind, throw, throwThe, MonadExceptOf.throw] at h

theorem shell_settled (ed : Editor) (command : Text) : Settled ed (ed.shell command) := by
  unfold shell
  dsimp only
  split
  · exact settled_self ed _
  · obtain ⟨host, files, hrun, hlog⟩ := ed.runShell_beside command.trim none
    have hw := ed.worked_beside hlog files
    rw [← hrun] at hw
    rcases hr : ed.runShell command.trim none with ⟨failure | output, ed'⟩
    · rw [hr] at hw hrun
      exact ⟨hw, fun _ => ⟨host, files, hrun⟩⟩
    · rw [hr] at hw
      refine settled_of_not hw ?_
      dsimp only
      split <;> rfl

theorem filter_settled (ed : Editor) (r : AddressRange) (command : Text) :
    Settled ed (ed.filter r command) := by
  unfold filter
  dsimp only
  split
  · exact settled_self ed _
  · next first last hchecked =>
    have he : ed.frame.isEditable := by
      rcases hlines : r.editable ed.frame with failure | lines
      · simp [hlines, bind, Except.bind] at hchecked
      · exact isEditable_of_editable hlines
    obtain ⟨host, files, hrun, hlog⟩ := ed.runShell_beside command.trim
      (some (ed.frame.slice (ed.frame.linesSpan first last).1 (ed.frame.linesSpan first last).2))
    have hw := ed.worked_beside hlog files
    rw [← hrun] at hw
    split
    · next failure ed' hr =>
      rw [hr] at hw hrun
      exact ⟨hw, fun _ => ⟨host, files, hrun⟩⟩
    · next output ed' hr =>
      rw [hr] at hw
      refine settled_of_not (hw.trans (.of_edit (hw.frame.isEditable.trans he) ?_ rfl rfl)) rfl
      exact (Frame.edited_replace _ _ _ _).trans (Frame.edited_goToLine _ _)

theorem enter_settled (ed : Editor) {c : Command} {placement : Placement}
    (hv : c.verb = match placement with | .append => .append | .insert => .insert | .change => .change) :
    Settled (ed.addressed c) (ed.enter c placement) := by
  unfold enter
  cases hb : isBeforeFirst c && placement != .change with
  | true =>
    have hr : c.resolvesRange = false := by
      cases placement <;> simp_all [Command.resolvesRange]
    rw [addressed_of_not hr]
    exact settle_settled (ed.enterText_proper _ _ _)
  | false =>
    have hr : c.resolvesRange := by
      cases placement <;> simp_all [Command.resolvesRange, Verb.takesRange]
    have hd : c.takesDestination = false ∧ c.verb.defaultRange = ['.'] := by
      cases placement <;> simp [Command.takesDestination, Verb.defaultRange, hv]
    rw [addressed_of_range hr hd.1, hd.2]
    exact changeRange_settled fun ed r => ed.enterText_proper r placement c.text

theorem putAt_settled (ed : Editor) {c : Command} (hv : c.verb = .put) :
    Settled (ed.addressed c) (ed.putAt c) := by
  unfold putAt
  cases hb : isBeforeFirst c with
  | true =>
    rw [addressed_of_not (by simp [Command.resolvesRange, hv, hb])]
    exact settle_settled (ed.put_proper _ _)
  | false =>
    rw [addressed_of_range (by simp [Command.resolvesRange, hv, hb])
      (by simp [Command.takesDestination, hv]), hv]
    exact changeRange_settled fun ed r => proper_bind _ fun _ => ed.put_proper _ c.text

theorem bang_settled (ed : Editor) {c : Command} (hv : c.verb = .bang) :
    Settled (ed.addressed c) (if c.range = [] then ed.shell c.text
      else ed.onRange c ['.'] fun ed r => ed.filter r c.text) := by
  split
  · next hr =>
    rw [addressed_of_not (by simp [Command.resolvesRange, hv, hr])]
    exact ed.shell_settled c.text
  · next hr =>
    rw [addressed_of_range (by simp [Command.resolvesRange, hv, hr])
      (by simp [Command.takesDestination, hv]), hv]
    exact onRange_settled fun ed r => ed.filter_settled r c.text

/-- A command works on the editor from where its addresses have left it. -/
theorem dispatch_settled (run : Runner) (running : Running) {c : Command} (hc : c.verb.isSingle)
    (hu : c.verb ≠ .undo) (ed : Editor) : Settled (ed.addressed c) (dispatch run running c ed) := by
  obtain ⟨range, verb, t, bang⟩ := c
  cases verb with
  | goto => exact changeRange_settled goto_proper
  | append => exact ed.enter_settled rfl
  | insert => exact ed.enter_settled rfl
  | change => exact ed.enter_settled rfl
  | delete => exact changeRange_settled fun ed r => ed.delete_proper r t
  | yank => exact changeRange_settled fun ed r => ed.yank_proper r t
  | put => exact ed.putAt_settled rfl
  | copy => exact changeTo_settled copy_proper
  | move => exact changeTo_settled move_proper
  | join => exact changeRange_settled fun ed r => ed.join_proper r bang
  | print => exact changeRange_settled fun ed r => ed.print_proper r false
  | number => exact changeRange_settled fun ed r => ed.print_proper r true
  | lineNumber => exact changeRange_settled showLineNumber_proper
  | mark => exact changeRange_settled fun ed r => ed.setMark_proper r t
  | shift forward count => exact changeRange_settled fun ed r => ed.shift_proper r forward count
  | sort => exact changeRange_settled fun ed r => ed.sort_proper r t
  | bang => exact ed.bang_settled rfl
  | substitute => exact changeRange_settled fun ed r => ed.substitute_proper r t
  | repeatSubstitute keepFlags =>
    exact changeRange_settled fun ed r => ed.repeatSubstitution_proper r t keepFlags
  | repeatWithSearch => exact changeRange_settled fun ed r => ed.repeatWithSearch_proper r t
  | global invert => cases hc
  | cd => exact settle_settled (ed.changeDirectory_proper t)
  | pwd => exact settled_self ed _
  | source => cases hc
  | syntaxState => exact settle_settled (ed.switchHighlight_proper t)
  | registers => exact settled_self ed _
  | marks => exact settled_self ed _
  | set => cases hc
  | abbreviate => exact settle_settled (ed.abbreviate_proper t)
  | unabbreviate => exact settle_settled (ed.unabbreviate_proper t)
  | map => exact settle_settled (ed.mapKeys_proper t)
  | unmap => exact settle_settled (ed.unmapKeys_proper t)
  | play => cases hc
  | undo => exact absurd rfl hu
  | noHighlight => exact settled_of_not (.of_still (Frame.edited_select _ _) ⟨rfl, rfl⟩ rfl rfl) rfl
  | record => exact settle_settled (ed.startRecording_proper t)
  | stop => exact settle_settled ed.stopRecording_proper

theorem worked_resolveRange (ed : Editor) (t default : Text) : ed.Worked (ed.resolveRange t default).2 := by
  obtain ⟨cursor, hf⟩ := Address.resolveRange_frame ed.frame ed.searchRule ed.context.lastSearch
    (if t.isBlank then default else t)
  have hframe : (ed.resolveRange t default).2.frame = { ed.frame with cursor } := hf
  have hmoved : ed.frame.Edited { ed.frame with cursor } := ⟨rfl, fun _ => rfl, rfl, rfl, .refl _⟩
  exact .of_still (hframe ▸ hmoved) (hframe ▸ ⟨rfl, rfl⟩) rfl rfl

theorem worked_resolveDestination (ed : Editor) (t : Text) : ed.Worked (ed.resolveDestination t).2 := by
  unfold resolveDestination
  split
  · exact .refl ed
  · exact .of_eq rfl rfl rfl

theorem worked_addressed (ed : Editor) (c : Command) : ed.Worked (ed.addressed c) := by
  have hr := ed.worked_resolveRange c.range c.verb.defaultRange
  unfold addressed
  split
  · dsimp only
    split
    · exact hr.trans (worked_resolveDestination _ _)
    · exact hr
  · exact .refl ed

theorem worked_setOptions (ed : Editor) (t : Text) : ed.Worked (ed.setOptions t).1 := by
  unfold setOptions
  dsimp only
  split <;> exact .of_eq rfl rfl rfl

/-- A command that runs no other lines and undoes nothing works on the editor. -/
theorem worked_dispatch (run : Runner) (running : Running) {c : Command} (hc : c.verb.runsLines = false)
    (hu : c.verb ≠ .undo) (ed : Editor) : ed.Worked (dispatch run running c ed).1 := by
  by_cases hs : c.verb = .set
  · simp only [dispatch, hs]
    exact worked_setOptions _ _
  · have hsingle : c.verb.isSingle := by
      cases hv : c.verb <;> simp_all [Verb.isSingle, Verb.runsLines]
    exact (worked_addressed _ c).trans (dispatch_settled run running hsingle hu _).worked

end Editor
end ExEditor
