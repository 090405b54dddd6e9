import ExEditor.Proofs.Carried
import ExEditor.Proofs.Session.Ends

/-! What goes through a run from line to line. A part of an editor that lies neither in the frame nor in the host is
changed by what commands do themselves, before they start lines. So each line that runs finds it as the work that
was done last has left it. -/
namespace ExEditor

namespace Editor

/-- A part of an editor that lies neither in the frame nor in the host. -/
structure Apart {α : Type} (part : Editor → α) : Prop where
  mapFrame : ∀ ed g, part (ed.mapFrame g) = part ed
  host : ∀ (ed : Editor) (host : Host), part { ed with host } = part ed

/-- How a part of an editor goes from line to line: each line that is started finds it as the one before has left it. -/
def Relayed {α : Type} (part : Editor → α) (run : Runner) : α → List Call → α → Prop :=
  Carried (fun c => part c.editor) fun c => part (run c.running c.line c.editor).1

/-- What a global command does before it visits lines. -/
def begunGlobal (running : Running) (r : AddressRange) (t : Text) (invert : Bool) (ed : Editor) : Editor :=
  match beginGlobal running r t invert ed with
  | .error result => result.1
  | .ok v => v.editor

/-- What a command does itself, before it starts lines. -/
def worked (run : Runner) (running : Running) (c : Command) (ed : Editor) : Editor :=
  match c.verb with
  | .play | .source => ed
  | .global invert =>
    match ed.resolveRange c.range ['%'] with
    | (.error _, ed) => ed
    | (.ok r, ed) => ed.begunGlobal running r c.text invert
  | _ => (dispatch run running c ed).1

/-- What a command line does itself, before it starts lines. -/
def workedLine (run : Runner) (running : Running) (line : Text) (ed : Editor) : Editor :=
  match Command.parse line with
  | .ok (some c) =>
    if !c.verb.takesRange && c.range ≠ [] then ed.log c else (ed.log c).worked run running c
  | _ => ed

/-- A command that starts no lines has done its work when it has been carried out. -/
theorem worked_of_not {run : Runner} {running : Running} {c : Command} (h : c.verb.runsLines = false) (ed : Editor) :
    ed.worked run running c = (dispatch run running c ed).1 := by
  obtain ⟨range, verb, t, bang⟩ := c
  cases verb <;> first | rfl | cases h

section loops
variable {α : Type} {part : Editor → α} {run : Runner} {running : Running} {ed ed' after : Editor}

namespace Apart
variable (h : Apart part)
include h

theorem look {cancelled : Bool} (hlook : ed.look = (cancelled, ed')) : part ed' = part ed := by
  have hed' : ed' = ed.look.2 := by rw [hlook]
  exact hed' ▸ h.host ed ed.host.look.2

/-- A line is started after a look at the flag, and gone on from what it leaves. -/
theorem line {c : Call} {calls : List Call} {last : α} {outcome : Outcome} (hlook : ed.look = (false, ed'))
    (hc : part c.editor = part ed') (hran : run c.running c.line c.editor = (after, outcome))
    (hrest : Relayed part run (part after) calls last) : Relayed part run (part ed) (c :: calls) last := by
  have hleft : part (run c.running c.line c.editor).1 = part after := by rw [hran]
  rw [← hleft] at hrest
  exact ⟨hc.trans (h.look hlook), hrest⟩

variable (run running)

theorem playLines (name : Text) (lines : List Text) (ed : Editor) :
    Relayed part run (part ed) (playLinesCalls run running lines ed)
      (part (playLines (run running) name lines ed).1) := by
  induction lines generalizing ed with
  | nil => rfl
  | cons line rest ih =>
    unfold playLinesCalls Editor.playLines
    rcases hlook : ed.look with ⟨_ | _, ed'⟩
    · dsimp only
      rcases hran : run running line ed' with ⟨after, _ | t | failure⟩
      · exact h.line hlook rfl hran (ih after)
      · exact h.line hlook rfl hran (ih after)
      · exact h.line hlook rfl hran (h.host after _).symm
    · exact (h.look hlook).symm

theorem playTimes (name : Text) (lines : List Text) (n : Nat) (ed : Editor) :
    Relayed part run (part ed) (playTimesCalls run running name lines n ed)
      (part (playTimes (run running) name lines n ed).1) := by
  induction n generalizing ed with
  | zero => rfl
  | succ n ih =>
    have hlines := h.playLines run running name lines ed
    unfold playTimesCalls Editor.playTimes
    rcases hran : Editor.playLines (run running) name lines ed with ⟨after, _ | t | failure⟩ <;> rw [hran] at hlines
    · exact Carried.append hlines (ih after)
    · exact Carried.append hlines (ih after)
    · exact Carried.append hlines rfl

theorem play (name : Text) (count : Int) (ed : Editor) :
    Relayed part run (part ed) (playCalls run running name count ed) (part (play run running name count ed).1) := by
  rw [play_eq]
  unfold playCalls
  split
  · rfl
  · rcases playable running ed (macroKey name) with failure | _ | ⟨line, rest⟩
    · rfl
    · dsimp only
      rw [playTimesCalls_nil]
      rfl
    · have htimes := h.playTimes run (running.playingOf (macroKey name)) (macroKey name) (line :: rest)
        count.toNat (ed.mapFrame Frame.openGroup)
      rw [h.mapFrame] at htimes
      exact (h.mapFrame _ Frame.closeGroup).symm ▸ htimes

theorem playCommand (count name : Text) (ed : Editor) :
    Relayed part run (part ed) (playCommandCalls run running count name ed)
      (part (playCommand run running count name ed).1) := by
  unfold playCommandCalls Editor.playCommand
  dsimp only
  split
  · rfl
  split
  · exact h.play run running _ _ _
  · rcases Calculator.evaluate ed.frame count with failure | times
    · rfl
    · exact h.play run running _ _ _

theorem runScript (lines : List Text) (ed : Editor) :
    Relayed part run (part ed) (runScriptCalls run running lines ed) (part (runScript run running lines ed).1) := by
  induction lines generalizing ed with
  | nil => rfl
  | cons line rest ih =>
    unfold runScriptCalls Editor.runScript
    split
    · rfl
    · rcases hlook : ed.look with ⟨_ | _, ed'⟩
      · dsimp only
        rcases hran : run running line ed' with ⟨after, _ | t | failure⟩
        · exact h.line hlook rfl hran (ih after)
        · exact h.line hlook rfl hran (h.host after _ ▸ ih (after.tell t))
        · exact h.line hlook rfl hran rfl
      · exact (h.look hlook).symm

theorem source (name : Text) (ed : Editor) :
    Relayed part run (part ed) (sourceCalls run running name ed) (part (source run running name ed).1) := by
  rw [source_eq]
  unfold sourceCalls
  split
  · rfl
  split
  · rfl
  · rcases ed.shelf.files.readText (ed.scriptPath name) with fault | script
    · rfl
    · exact h.runScript run _ _ ed

theorem visitLines (command : Text) (lines : List Nat) (ed : Editor) :
    Relayed part run (part ed) ((visits (run running command) lines ed).map fun v => ⟨running, command, v.2⟩)
      (part (visitLines (run running command) lines ed).1) := by
  induction lines generalizing ed with
  | nil => rfl
  | cons line rest ih =>
    unfold visits Editor.visitLines
    rcases hlook : ed.look with ⟨_ | _, ed'⟩
    · dsimp only
      rcases ed'.frame.mark? (.line line) with _ | offset
      · exact h.look hlook ▸ ih ed'
      · have hhere := h.mapFrame ed' fun f => (f.unsetMark (.line line)).setCursor offset
        dsimp only
        rcases hran : run running command (ed'.mapFrame fun f => (f.unsetMark (.line line)).setCursor offset) with
          ⟨after, _ | t | failure⟩
        · exact h.line hlook hhere hran (ih after)
        · exact h.line hlook hhere hran (h.host after _ ▸ ih (after.tell t))
        · exact h.line hlook hhere hran rfl
    · exact (h.look hlook).symm

theorem global (r : AddressRange) (t : Text) (invert : Bool) (ed : Editor) :
    Relayed part run (part (ed.begunGlobal running r t invert)) (globalCalls run running r t invert ed)
      (part (global run running r t invert ed).1) := by
  rw [global_eq]
  unfold globalCalls begunGlobal
  rcases beginGlobal running r t invert ed with result | v
  · rfl
  · have hvisits := h.visitLines run running.visiting v.command v.lines v.editor
    exact (h.mapFrame _ fun f => (unmarkLines f v.lines).closeGroup).symm ▸ hvisits

theorem dispatch (c : Command) (ed : Editor) :
    Relayed part run (part (ed.worked run running c)) (dispatchCalls run running c ed)
      (part (dispatch run running c ed).1) := by
  obtain ⟨range, verb, t, bang⟩ := c
  by_cases hlines : verb.runsLines
  · cases verb with
    | play => exact h.playCommand run running _ _ _
    | source => exact h.source run running _ _
    | global invert =>
      unfold dispatchCalls worked Editor.dispatch onRange
      dsimp only
      rcases ed.resolveRange range ['%'] with ⟨failure | r, ed'⟩
      · rfl
      · exact h.global run running r t invert ed'
    | _ => cases hlines
  · have hcalls : dispatchCalls run running ⟨range, verb, t, bang⟩ ed = [] := by
      cases verb <;> first | rfl | exact absurd rfl hlines
    rw [hcalls, worked_of_not (by simpa using hlines)]
    rfl

theorem runParsed (line : Text) (ed : Editor) :
    Relayed part run (part (ed.workedLine run running line)) (runParsedCalls run running line ed)
      (part (runParsed run running line ed).1) := by
  unfold runParsedCalls workedLine Editor.runParsed
  rcases Command.parse line with failure | _ | c
  · rfl
  · rfl
  · dsimp only
    split
    · rfl
    · exact h.dispatch run running c (ed.log c)

variable (hsearch : ∀ (ed : Editor) pattern, part (ed.setLastSearch pattern) = part ed)
include hsearch

omit h in
theorem rememberSearch (pattern : Text) (ed : Editor) : part (ed.rememberSearch pattern) = part ed := by
  unfold Editor.rememberSearch
  split
  · rfl
  · exact hsearch ed (some pattern)

theorem resolveRange (t default : Text) (ed : Editor) : part (ed.resolveRange t default).2 = part ed :=
  (hsearch _ _).trans (h.mapFrame ed _)

/-- Before its visits a global command works on the frame and the last search alone. -/
theorem begunGlobal (r : AddressRange) (t : Text) (invert : Bool) (ed : Editor) :
    part (ed.begunGlobal running r t invert) = part ed := by
  unfold Editor.begunGlobal beginGlobal
  rcases prepareGlobal running r t ed with failure | ⟨g, m, first, last⟩
  · rfl
  · have hremember := rememberSearch hsearch g.pattern ed
    dsimp only
    split
    · next hbegin =>
      split at hbegin <;> cases hbegin
      exact hremember
    · next hbegin =>
      split at hbegin <;> cases hbegin
      dsimp only
      exact (h.mapFrame _ _).trans hremember

/-- So does every command that starts lines. -/
theorem worked {c : Command} (hlines : c.verb.runsLines) (ed : Editor) : part (ed.worked run running c) = part ed := by
  obtain ⟨range, verb, t, bang⟩ := c
  cases verb with
  | play | source => rfl
  | global invert =>
    have hrange := h.resolveRange hsearch range ['%'] ed
    unfold Editor.worked
    dsimp only
    generalize ed.resolveRange range ['%'] = resolved at hrange ⊢
    rcases resolved with ⟨failure | r, ed'⟩
    · exact hrange
    · exact (h.begunGlobal running hsearch r t invert ed').trans hrange
  | _ => cases hlines

end Apart
end loops
end Editor

namespace Call
open Editor

/-- The lines that run when a line is started, each before those that it starts. -/
def trace : Nat → Call → List Call
  | 0, _ => []
  | n + 1, c => c :: (c.starts n).flatMap (trace n)

/-- What a line does itself, before it starts others. -/
def worked (n : Nat) (c : Call) : Editor :=
  (c.editor.mapFrame Frame.openGroup).workedLine (runLine n) c.inner c.line

variable {α κ : Type} {part : Editor → α} {found left : κ → α} {own : Call → List κ}

/-- A line hands on what it has done itself to the lines that it starts. -/
theorem starts_relayed (h : Apart part) (n : Nat) (c : Call) :
    Relayed part (runLine n) (part (c.worked n)) (c.starts n) (part (c.result (n + 1)).1) := by
  have hparsed := h.runParsed (runLine n) c.inner c.line (c.editor.mapFrame Frame.openGroup)
  exact (h.mapFrame _ Frame.closeGroup).symm ▸ hparsed

/-- If what happens to a part of the editor is known of what each line does itself, it is known of all that happens
while a line runs. -/
theorem trace_carried (h : Apart part)
    (hown : ∀ n c, Carried found left (part c.editor) (own c) (part (c.worked n))) (n : Nat) (c : Call) :
    Carried found left (part c.editor) ((c.trace n).flatMap own) (part (c.result n).1) := by
  induction n generalizing c with
  | zero => rfl
  | succ n ih =>
    have hstarts : Carried found left (part (c.worked n)) ((c.starts n).flatMap fun c' => (c'.trace n).flatMap own)
        (part (c.result (n + 1)).1) :=
      (c.starts_relayed h n).flatMap fun c' _ => ih c'
    rw [trace, List.flatMap_cons, List.flatMap_assoc]
    exact (hown n c).append hstarts

end Call
end ExEditor
