import ExEditor.Proofs.Session.Ends
import ExEditor.Proofs.Session.Steps
import ExEditor.Proofs.Session.LineVerbs
import ExEditor.Proofs.Substitution.Cancelled

/-! Everything stops when it is cancelled. `execute_cancelled` says so of every line that a command line leads to: no
other is started after the one in which the flag goes up, a command that has lines left fails, and a substitution asks
no more. -/
namespace ExEditor

namespace Editor

section left
variable (run : Runner) (running : Running)

/-- The lines that a macro has left when it comes to its end. -/
def playLeft (name : Text) (count : Int) (ed : Editor) : List Text :=
  if count ≤ 0 then []
  else
    match playable running ed (macroKey name) with
    | .error _ => []
    | .ok lines => (List.replicate count.toNat lines).flatten.drop (playCalls run running name count ed).length

/-- The lines that a command leaves that plays a macro. -/
def playCommandLeft (count name : Text) (ed : Editor) : List Text :=
  let name := name.trim
  if name = [] then []
  else if count = [] then playLeft run running name 1 ed
  else
    match Calculator.evaluate ed.frame count with
    | .error _ => []
    | .ok count => playLeft run running name count ed

/-- The lines that a script has left. -/
def sourceLeft (name : Text) (ed : Editor) : List Text :=
  if name.trim = [] then []
  else if running.sourcing.contains (ed.scriptPath name) then []
  else
    match ed.shelf.files.readText (ed.scriptPath name) with
    | .error _ => []
    | .ok script => (scriptLines script).drop (sourceCalls run running name ed).length

/-- What a global command has left: its command, for each line that still has its mark. -/
def globalLeft (r : AddressRange) (t : Text) (invert : Bool) (ed : Editor) : List Text :=
  match beginGlobal running r t invert ed with
  | .error _ => []
  | .ok v =>
    let after := (visitLines (run running.visiting v.command) v.lines v.editor).1
    (v.lines.filter fun line => (after.frame.mark? (.line line)).isSome).map fun _ => v.command

/-- The lines that a command leaves. -/
def dispatchLeft (c : Command) (ed : Editor) : List Text :=
  match c.verb with
  | .play => playCommandLeft run running c.range c.text ed
  | .source => sourceLeft run running c.text ed
  | .global invert =>
    match ed.resolveRange c.range ['%'] with
    | (.error _, _) => []
    | (.ok r, ed) => globalLeft run running r c.text invert ed
  | _ => []

/-- The lines that a command line leaves. -/
def runParsedLeft (line : Text) (ed : Editor) : List Text :=
  match Command.parse line with
  | .ok (some c) => if !c.verb.takesRange && c.range ≠ [] then [] else dispatchLeft run running c (ed.log c)
  | _ => []

variable {run running}

/-- What does not fail has started all lines. -/
theorem playLines_all (name : Text) {lines : List Text} {ed : Editor}
    (h : (playLines (run running) name lines ed).2.isFailure = false) :
    (playLinesCalls run running lines ed).map Call.line = lines := by
  induction lines generalizing ed with
  | nil => rfl
  | cons line rest ih =>
    unfold playLinesCalls
    unfold playLines at h
    rcases hlook : ed.look with ⟨_ | _, ed'⟩ <;> rw [hlook] at h
    · dsimp only at h ⊢
      rcases hran : run running line ed' with ⟨after, _ | t | failure⟩ <;> rw [hran] at h
      · exact congrArg (line :: ·) (ih h)
      · exact congrArg (line :: ·) (ih h)
      · cases h
    · cases h

theorem playTimes_all {name : Text} {lines : List Text} {n : Nat} {ed : Editor}
    (h : (playTimes (run running) name lines n ed).2.isFailure = false) :
    (playTimesCalls run running name lines n ed).map Call.line = (List.replicate n lines).flatten := by
  induction n generalizing ed with
  | zero => rfl
  | succ n ih =>
    unfold playTimesCalls
    unfold playTimes at h
    rw [List.map_append, List.replicate_succ, List.flatten_cons]
    have hlines := @playLines_all run running name lines ed
    rcases hran : playLines (run running) name lines ed with ⟨after, _ | t | failure⟩ <;> rw [hran] at h hlines
    · rw [hlines rfl, ih h]
    · rw [hlines rfl, ih h]
    · cases h

theorem drop_of_map {calls : List Call} {lines : List Text} (h : calls.map Call.line = lines) :
    lines.drop calls.length = [] := by
  rw [← h, ← List.length_map Call.line, List.drop_length]

theorem play_left {name : Text} {count : Int} {ed : Editor}
    (h : (play run running name count ed).2.isFailure = false) : playLeft run running name count ed = [] := by
  rw [play_eq] at h
  unfold playLeft playCalls
  split
  · rfl
  · next hcount =>
    rw [if_neg hcount] at h
    rcases hp : playable running ed (macroKey name) with failure | _ | ⟨line, rest⟩
    · rfl
    · simp
    · rw [hp] at h
      exact drop_of_map (playTimes_all h)

theorem playCommand_left {count name : Text} {ed : Editor}
    (h : (playCommand run running count name ed).2.isFailure = false) :
    playCommandLeft run running count name ed = [] := by
  unfold playCommand at h
  unfold playCommandLeft
  dsimp only at h ⊢
  split
  · rfl
  · next hname =>
    rw [if_neg hname] at h
    split
    · next hcount =>
      rw [if_pos hcount] at h
      exact play_left h
    · next hcount =>
      rw [if_neg hcount] at h
      rcases hn : Calculator.evaluate ed.frame count with failure | times
      · rfl
      · rw [hn] at h
        exact play_left h

theorem runScript_all {lines : List Text} {ed : Editor} (h : (runScript run running lines ed).2.isFailure = false) :
    (runScriptCalls run running lines ed).map Call.line = lines := by
  induction lines generalizing ed with
  | nil => rfl
  | cons line rest ih =>
    unfold runScriptCalls
    unfold runScript at h
    split
    · next hline =>
      rw [if_pos hline] at h
      cases h
    · next hline =>
      rw [if_neg hline] at h
      rcases hlook : ed.look with ⟨_ | _, ed'⟩ <;> rw [hlook] at h
      · dsimp only at h ⊢
        rcases hran : run running line ed' with ⟨after, _ | t | failure⟩ <;> rw [hran] at h
        · exact congrArg (line :: ·) (ih h)
        · exact congrArg (line :: ·) (ih h)
        · cases h
      · cases h

theorem source_left {name : Text} {ed : Editor} (h : (source run running name ed).2.isFailure = false) :
    sourceLeft run running name ed = [] := by
  rw [source_eq] at h
  unfold sourceLeft sourceCalls
  split
  · rfl
  · next hname =>
    rw [if_neg hname] at h
    split
    · rfl
    · next hpath =>
      rw [if_neg hpath] at h
      rcases hread : ed.shelf.files.readText (ed.scriptPath name) with fault | script
      · rfl
      · rw [hread] at h
        exact drop_of_map (runScript_all h)

theorem not_mem_ids {marks : Marks} {id : MarkId} (h : marks.get? id = none) : id ∉ marks.ids := by
  intro hid
  obtain ⟨m, hm, rfl⟩ := List.mem_map.mp hid
  have hne := List.lookup_eq_none_iff.mp h m hm
  simp at hne

/-- The mark of a line that is gone does not come back. -/
theorem mark?_none {f g : Frame} (h : f.marks.NoneNew g.marks) {line : Nat} (hnone : f.mark? (.line line) = none) :
    g.mark? (.line line) = none :=
  Marks.get?_of_not_mem fun hid => not_mem_ids hnone (h _ hid rfl)

theorem visitLines_all {run : Editor → Result} (hrun : ∀ ed : Editor, ed.frame.marks.NoneNew (run ed).1.frame.marks)
    {lines : List Nat} {ed : Editor} (h : (visitLines run lines ed).2.isFailure = false) :
    ∀ line ∈ lines, (visitLines run lines ed).1.frame.mark? (.line line) = none := by
  induction lines generalizing ed with
  | nil => simp
  | cons line rest ih =>
    have hrest := stepwise_noneNew.visitLines hrun rest
    unfold visitLines at h ⊢
    rcases hlook : ed.look with ⟨_ | _, ed'⟩ <;> rw [hlook] at h
    · dsimp only at h ⊢
      simp only [List.mem_cons, forall_eq_or_imp]
      rcases hmark : ed'.frame.mark? (.line line) with _ | offset <;> rw [hmark] at h
      · exact ⟨mark?_none (hrest ed') hmark, ih h⟩
      · dsimp only at h ⊢
        have hgone : (ed'.mapFrame fun f => (f.unsetMark (.line line)).setCursor offset).frame.mark? (.line line) =
            none := Marks.get?_of_not_mem fun hid => (Marks.mem_ids_unset.mp hid).2 rfl
        have hran := hrun (ed'.mapFrame fun f => (f.unsetMark (.line line)).setCursor offset)
        rcases hr : run (ed'.mapFrame fun f => (f.unsetMark (.line line)).setCursor offset) with
          ⟨after, _ | t | failure⟩ <;> rw [hr] at h hran
        · exact ⟨mark?_none (hran.trans (hrest after)) hgone, ih h⟩
        · exact ⟨mark?_none (hran.trans (hrest (after.tell t))) hgone, ih h⟩
        · cases h
    · cases h

section global
variable (hrun : ∀ line (ed : Editor), ed.frame.marks.NoneNew (run running.visiting line ed).1.frame.marks)
include hrun

theorem global_left {r : AddressRange} {t : Text} {invert : Bool} {ed : Editor}
    (h : (global run running r t invert ed).2.isFailure = false) : globalLeft run running r t invert ed = [] := by
  rw [global_eq] at h
  unfold globalLeft
  rcases hv : beginGlobal running r t invert ed with result | v
  · rfl
  · rw [hv] at h
    have hall := visitLines_all (hrun v.command) h
    simpa using hall

theorem dispatch_left {c : Command} {ed : Editor} (h : (dispatch run running c ed).2.isFailure = false) :
    dispatchLeft run running c ed = [] := by
  obtain ⟨range, verb, t, bang⟩ := c
  cases verb with
  | play => exact playCommand_left h
  | source => exact source_left h
  | global invert =>
    change (onRange ed _ ['%'] _).2.isFailure = false at h
    unfold onRange at h
    unfold dispatchLeft
    dsimp only at h ⊢
    rcases hr : ed.resolveRange range ['%'] with ⟨failure | r, ed'⟩
    · rfl
    · rw [hr] at h
      exact global_left hrun h
  | _ => rfl

/-- A line that does not fail leaves nothing that was to be run. -/
theorem runParsed_left {line : Text} {ed : Editor} (h : (runParsed run running line ed).2.isFailure = false) :
    runParsedLeft run running line ed = [] := by
  unfold runParsed at h
  unfold runParsedLeft
  rcases hp : Command.parse line with failure | _ | c
  · rfl
  · rfl
  · rw [hp] at h
    dsimp only at h ⊢
    split
    · rfl
    · next hc =>
      rw [if_neg hc] at h
      exact dispatch_left hrun h

end global
end left
end Editor

namespace Call
open Editor

/-- The lines that a line was still to start when it came to its end: those left of a macro or a script, and the
command of a global command for each line that still has its mark. -/
def left : Nat → Call → List Text
  | 0, _ => []
  | n + 1, c => runParsedLeft (runLine n) c.inner c.line (c.editor.mapFrame Frame.openGroup)

theorem left_eq_nil {n : Nat} {c : Call} (h : (c.result n).2.isFailure = false) : c.left n = [] := by
  cases n with
  | zero => rfl
  | succ n =>
    exact runParsed_left (fun line ed => stepwise_noneNew.runLine n _ line ed) h

/-- A line at a depth is one that is started. -/
theorem exists_started {n d : Nat} {c c' : Call} (h : c' ∈ c.nested n d) :
    ∃ later, Started n c (n - d) c' later := by
  induction d generalizing n c with
  | zero =>
    have hself : c' = c := by
      cases n <;> exact List.mem_singleton.mp h
    exact ⟨[], hself ▸ .self n c⟩
  | succ d ih =>
    cases n with
    | zero => cases h
    | succ n =>
      obtain ⟨c₁, hstart, h⟩ := List.mem_flatMap.mp h
      obtain ⟨earlier, later, hcalls⟩ := List.append_of_mem hstart
      obtain ⟨after, hstarted⟩ := ih h
      rw [Nat.add_sub_add_right]
      exact ⟨after ++ later, .inside hcalls hstarted⟩

end Call

namespace Editor

theorem execute_bare (ed : Editor) (line : Text) :
    (ed.execute line).1.bare = (Call.result ed.nestingBound ⟨{}, line, ed.resume⟩).1.bare := by
  unfold execute
  change _ = (runLine ed.nestingBound {} line ed.resume).1.bare
  rcases runLine ed.nestingBound {} line ed.resume with ⟨after, outcome⟩
  have hreport : ∀ ed : Editor, (ed.report outcome).bare = ed.bare := fun ed => by
    unfold report
    cases outcome.shown with
    | none => rfl
    | some t => exact bare_tell ed t
  dsimp only
  rw [hreport]
  split <;> rfl

/-- While a reply is awaited that cancels, a substitution does what it would do if this reply did not cancel and
every later match were declined. If the reply comes, nothing more is asked. -/
theorem runSubstitution_spared {ed : Editor} {before after : List (Reply Confirm)} {reply : Reply Confirm}
    (hflag : ed.host.cancelled = false) (hnone : ed.host.cancelsAfter = none)
    (hconfirms : ed.host.confirms = before ++ reply :: after)
    (hharmless : ∀ earlier ∈ before, earlier.cancels = false) (hcancels : reply.cancels) {r : AddressRange}
    {s : Substitution} {done : Editor} {outcome : Outcome}
    (h : ed.runSubstitution r s = .ok (done, outcome)) :
    (∃ spared, Editor.runSubstitution { ed with host := ed.host.sparing before reply } r s = .ok (spared, outcome) ∧
      spared.frame = done.frame) ∧
    (done.host.cancelled → done.host.confirms = after ∧
      done.host.questions.length = ed.host.questions.length + before.length + 1) := by
  obtain ⟨first, last, m, hr, hm⟩ : ∃ first last m, r.editable ed.frame = .ok (first, last) ∧
      s.matcher ed.context.settings.ignoreCase = .ok m := by
    cases hr : r.editable ed.frame with
    | error failure => simp [runSubstitution, hr, bind, Except.bind] at h
    | ok lines =>
      cases hm : s.matcher ed.context.settings.ignoreCase with
      | error failure => simp [runSubstitution, hr, hm, bind, Except.bind] at h
      | ok m => exact ⟨lines.1, lines.2, m, rfl, rfl⟩
  have ha : ed.host.Awaits before reply after (ed.host.questions.length + before.length)
      (ed.host.sparing before reply) :=
    ⟨hconfirms, rfl, hharmless, hcancels, rfl, ⟨hflag, hflag⟩, ⟨hnone, hnone⟩, rfl⟩
  obtain ⟨hframe, hcount, hbehind⟩ := Substitution.run_alongside (s := s) m first last ed.frame ha
  obtain ⟨ed', hrun, hdone, hhost⟩ := runSubstitution_eq hr hm
  obtain ⟨spared, hspared, hframe', -⟩ :=
    @runSubstitution_eq { ed with host := ed.host.sparing before reply } r s m first last hr hm
  rw [h, Except.ok.injEq, Prod.mk.injEq] at hrun
  obtain ⟨rfl, rfl⟩ := hrun
  constructor
  · refine ⟨spared, ?_, ?_⟩
    · rw [hspared, hcount]
      rfl
    · rw [hframe', hdone, hframe]
      rfl
  · intro hcancelled
    rw [hhost] at hcancelled ⊢
    exact ⟨(hbehind hcancelled).confirms, (hbehind hcancelled).asked⟩

/-- Everything stops when it is cancelled, if this happens in a reply that is taken. Each line that a command line
leads to, through macros, scripts and global commands, finds the flag down. The flag is up when a line has ended if one
of the replies cancels that it took; then no line is started any more, and what is around the line only comes to its
end: the text stays as the line has left it. A line that was still to start others fails. And a substitution that is
cancelled while it asks takes no further answer. It leaves what it would leave if nothing were cancelled and the later
matches were declined. -/
theorem execute_cancelled (ed : Editor) (line : Text) (hnone : ed.host.cancelsAfter = none) :
    (∀ n c later, Call.Started ed.nestingBound ⟨{}, line, ed.resume⟩ n c later →
      c.editor.host.cancelled = false ∧
      (∃ answers runs, c.editor.host.Took (c.result n).1.host answers runs) ∧
      ((c.result n).1.host.cancelled → later = [] ∧ (ed.execute line).1.bare = (c.result n).1.bare) ∧
      (c.left n ≠ [] → (c.result n).2.isFailure)) ∧
    ∀ (asking : Editor) before reply after, asking.host.cancelled = false → asking.host.cancelsAfter = none →
      asking.host.confirms = before ++ reply :: after → (∀ earlier ∈ before, earlier.cancels = false) →
      reply.cancels → ∀ r s done outcome, asking.runSubstitution r s = .ok (done, outcome) →
        (∃ spared, Editor.runSubstitution { asking with host := asking.host.sparing before reply } r s =
          .ok (spared, outcome) ∧ spared.frame = done.frame) ∧
        (done.host.cancelled → done.host.confirms = after ∧
          done.host.questions.length = asking.host.questions.length + before.length + 1) := by
  constructor
  · intro n c later hstarted
    have hdown := hstarted.down rfl
    have htook := c.result_heeds n (hstarted.cancelsAfter hnone)
    refine ⟨hdown, htook, fun hflag => ?_, fun hleft => ?_⟩
    · obtain ⟨hlater, hbare⟩ := hstarted.last hflag
      exact ⟨hlater, (execute_bare ed line).trans hbare⟩
    · cases hfailed : (c.result n).2.isFailure with
      | true => rfl
      | false => exact absurd (Call.left_eq_nil hfailed) hleft
  · intro asking before reply after hflag hnone hconfirms hharmless hcancels r s done outcome h
    exact runSubstitution_spared hflag hnone hconfirms hharmless hcancels h

/-- A macro runs a script, which runs a global command with a substitution that asks. The second answer is yes, and
cancels: the third match is not asked about, and neither the second line nor anything after it is reached. -/
theorem execute_cancelled_nested :
    let ed : Editor := { ofText "x x x\nx\n".toList with
      context.registers.shelf :=
        { store := { macros := [("ab".toList, ["so /s".toList, "1d".toList])] }
          files := { entries := [([['s']], .file (.text "g/x/s/x/y/gc\n1d\n".toList))] } }
      host := { confirms := [⟨.yes, false⟩, ⟨.yes, true⟩, ⟨.yes, false⟩] } }
    let top : Call := ⟨{}, "@ab".toList, ed.resume⟩
    (top.nested ed.nestingBound 3).map (fun c => (c.line, (c.result 47).1.host.cancelled)) =
      [("s/x/y/gc".toList, true)] ∧
    (top.nested ed.nestingBound 2).map (fun c => (c.line, c.left 48)) =
      [("g/x/s/x/y/gc".toList, ["s/x/y/gc".toList])] ∧
    (∀ c ∈ top.nested ed.nestingBound 3, c.editor.host.cancelled = false ∧
      Call.Started ed.nestingBound top 47 c [] ∧ (ed.execute "@ab".toList).1.bare = (c.result 47).1.bare) ∧
    (∀ c ∈ top.nested ed.nestingBound 2, (c.result 48).2.isFailure) ∧
    (ed.execute "@ab".toList).1.frame.text = "y y x\nx\n".toList ∧
    (ed.execute "@ab".toList).1.host.confirms = [⟨.yes, false⟩] ∧
    (ed.execute "@ab".toList).2 = .failure .cancelled ∧
    let s : Substitution := { pattern := ['x'], replacement := ['y'], flags := { global := true, confirm := true } }
    ∃ done outcome spared, ed.runSubstitution ⟨{ line := 1 }, { line := 2 }⟩ s = .ok (done, outcome) ∧
      done.host.questions.length = 2 ∧ done.host.confirms = [⟨.yes, false⟩] ∧
      Editor.runSubstitution { ed with host := ed.host.sparing [⟨.yes, false⟩] ⟨.yes, true⟩ }
        ⟨{ line := 1 }, { line := 2 }⟩ s = .ok (spared, outcome) ∧ spared.frame = done.frame := by
  intro ed top
  have hlines : (top.nested ed.nestingBound 3).map (fun c => (c.line, (c.result 47).1.host.cancelled)) =
      [("s/x/y/gc".toList, true)] := by decide +kernel
  have hglobals : (top.nested ed.nestingBound 2).map (fun c => (c.line, c.left 48)) =
      [("g/x/s/x/y/gc".toList, ["s/x/y/gc".toList])] := by decide +kernel
  obtain ⟨h, hasking⟩ := execute_cancelled ed "@ab".toList rfl
  refine ⟨hlines, hglobals, fun c hc => ?_, fun c hc => ?_, by decide +kernel, by decide +kernel, by decide +kernel,
    ?_⟩
  · obtain ⟨later, hstarted⟩ := Call.exists_started hc
    obtain ⟨hdown, -, hlast, -⟩ := h _ c later hstarted
    have hflag := List.mem_map_of_mem (f := fun c => (c.line, (c.result 47).1.host.cancelled)) hc
    rw [hlines, List.mem_singleton, Prod.mk.injEq] at hflag
    obtain ⟨rfl, hbare⟩ := hlast hflag.2
    exact ⟨hdown, hstarted, hbare⟩
  · obtain ⟨later, hstarted⟩ := Call.exists_started hc
    have hleft := List.mem_map_of_mem (f := fun c => (c.line, c.left 48)) hc
    rw [hglobals, List.mem_singleton, Prod.mk.injEq] at hleft
    exact (h 48 c later hstarted).2.2.2 (by rw [hleft.2]; simp)
  · intro s
    obtain ⟨done, hdone, -, hhost⟩ := @runSubstitution_eq ed ⟨{ line := 1 }, { line := 2 }⟩ s ⟨#[.take [(120, 120)]]⟩
      0 1 rfl rfl
    obtain ⟨⟨spared, hspared, hframe⟩, hend⟩ :=
      hasking ed [⟨.yes, false⟩] ⟨.yes, true⟩ [⟨.yes, false⟩] rfl rfl rfl (by simp) rfl _ _ _ _ hdone
    have hflag : done.host.cancelled := by
      rw [hhost]
      decide +kernel
    exact ⟨done, _, spared, hdone, (hend hflag).2, (hend hflag).1, hspared, hframe⟩

end Editor
end ExEditor
