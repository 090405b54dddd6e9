import ExEditor.Proofs.Command.Parse
import ExEditor.Proofs.Session.KeepStep
import ExEditor.Proofs.Session.Recursion

/-! Playing a macro and sourcing a script come to the same as typing their lines one after the other. -/
namespace ExEditor
namespace Editor

/-- Type lines one after the other, up to the first that fails. -/
def executeAll : List Text → Editor → Result
  | [], ed => (ed, .success)
  | line :: rest, ed =>
    match ed.execute line with
    | (ed, .failure failure) => (ed, .failure failure)
    | (ed, _) => executeAll rest ed

/-- The lines that are typed: all of them, or those up to the first that fails. -/
def typedLines : List Text → Editor → List Text
  | [], _ => []
  | line :: rest, ed =>
    line ::
      match ed.execute line with
      | (_, .failure _) => []
      | (ed, _) => typedLines rest ed

/-- A result that comes to the same as typing lines, and the lines that it was come to by. The flag that
everything is to stop is taken back by whatever is typed next. -/
structure AsTyped (ed : Editor) (lines : List Text) (r : Result) (calls : List Call) : Prop where
  ran : calls.map Call.line = typedLines lines ed
  present : r.1.present = (executeAll lines ed).1.resume.present
  outcome : ∀ failure, r.2 = .failure failure ↔ (executeAll lines ed).2 = .failure failure

theorem resume_eq_of_down {ed : Editor} (h : ed.host.cancelled = false) : ed.resume = ed := by
  obtain ⟨session, context, host⟩ := ed
  simp only [resume, ← h]

/-- An editor that records nothing and in which nothing is to stop. -/
structure Calm (ed : Editor) : Prop where
  recorder : ed.session.recorder = none
  cancelsAfter : ed.host.cancelsAfter = none
  cancelled : ed.host.cancelled = false

namespace Calm
variable {ed ed' after after' : Editor}

theorem look_eq (h : Calm ed) : ed.look = (false, ed) := by
  simp [look, Host.look, h.cancelsAfter, h.cancelled]

theorem of_present (h : Calm ed) (hp : ed.present = ed'.present) : Calm ed' where
  recorder := (congrArg (·.session.recorder) hp).symm.trans h.recorder
  cancelsAfter := (congrArg (·.host.cancelsAfter) hp).symm.trans h.cancelsAfter
  cancelled := (congrArg (·.host.cancelled) hp).symm.trans h.cancelled

/-- Nothing comes to stop while the flag is down at the end. -/
theorem steady (h : Calm ed) (hs : ed.Steady after) (hs' : after.Steady after')
    (hdown : after'.host.cancelled = false) : Calm after where
  recorder := hs.recorder.trans h.recorder
  cancelsAfter := hs.host.cancelsAfter h.cancelsAfter
  cancelled := by
    cases hc : after.host.cancelled with
    | false => rfl
    | true => exact absurd (hs'.host.cancelled hc) (by simp [hdown])

end Calm

/-- With nothing to record, executing a line is running it and showing how it went. -/
theorem execute_idle {ed : Editor} (h : ed.session.recorder = none) (line : Text) :
    (ed.execute line).1.present = (runLine ed.nestingBound {} line ed.resume).1.present ∧
      (ed.execute line).2 = (runLine ed.nestingBound {} line ed.resume).2 := by
  have hreport : ∀ r : Result, (r.1.report r.2).present = r.1.present := fun r => by
    unfold report
    cases r.2.shown <;> rfl
  have hidle : ed.session.recorder.isSome = false := by rw [h]; rfl
  unfold execute
  dsimp only
  rw [hidle, Bool.false_and, Bool.false_and]
  exact ⟨hreport _, rfl⟩

/-- A tame line does what it does when it is typed, wherever it runs. -/
theorem executed {line : Text} (htame : isTame line) {running : Running} (hout : running.inGlobal = false)
    (n : Nat) {ed ed' : Editor} (hcalm : Calm ed) (hp : ed.present = ed'.present) :
    InStep ed' (ed.execute line) (runLine (n + 2) running line ed') := by
  obtain ⟨m, hm⟩ : ∃ m, ed.nestingBound = m + 2 :=
    ⟨ed.nestingBound - 2, by simp only [nestingBound]; omega⟩
  have hkept : KeepStep (runLine (m + 2) {} line) (runLine (n + 2) running line) :=
    runLine_keepStep htame m n rfl hout
  have hran := hkept hp
  obtain ⟨hpresent, houtcome⟩ := execute_idle hcalm.recorder line
  rw [resume_eq_of_down hcalm.cancelled, hm] at hpresent houtcome
  exact ⟨hpresent.trans hran.present, houtcome.trans hran.outcome, hran.steady⟩

section lines
variable {run : Runner} {running : Running} {lines : List Text}

theorem playLines_steady (name : Text) {act : Text → Editor → Result}
    (h : ∀ line ∈ lines, ∀ ed : Editor, ed.Steady (act line ed).1) (ed : Editor) :
    ed.Steady (playLines act name lines ed).1 := by
  induction lines generalizing ed with
  | nil => exact .refl ed
  | cons line rest ih =>
    have hlook : ed.Steady ed.look.2 := ⟨rfl, .look _⟩
    unfold playLines
    generalize ed.look = looked at hlook ⊢
    obtain ⟨_ | _, ed₁⟩ := looked
    · have hline := hlook.trans (h line List.mem_cons_self ed₁)
      have hrest := ih fun line hmem => h line (List.mem_cons_of_mem _ hmem)
      dsimp only at hline ⊢
      generalize act line ed₁ = r at hline ⊢
      obtain ⟨ed₂, _ | _ | _⟩ := r
      · exact hline.trans (hrest ed₂)
      · exact hline.trans (hrest ed₂)
      · exact ⟨hline.recorder, hline.host.cancelled, hline.host.cancelsAfter⟩
    · exact hlook

theorem playTimes_steady (name : Text) {act : Text → Editor → Result}
    (h : ∀ line ∈ lines, ∀ ed : Editor, ed.Steady (act line ed).1) (n : Nat) (ed : Editor) : ed.Steady (playTimes act name lines n ed).1 := by
  induction n generalizing ed with
  | zero => exact .refl ed
  | succ n ih =>
    have honce := playLines_steady name h ed
    unfold playTimes
    generalize playLines act name lines ed = r at honce ⊢
    obtain ⟨ed₁, _ | _ | _⟩ := r
    · exact honce.trans (ih ed₁)
    · exact honce.trans (ih ed₁)
    · exact honce

theorem runScript_steady (h : ∀ line ∈ lines, ∀ ed : Editor, ed.Steady (run running line ed).1)
    (ed : Editor) : ed.Steady (runScript run running lines ed).1 := by
  induction lines generalizing ed with
  | nil => exact .refl ed
  | cons line rest ih =>
    have hlook : ed.Steady ed.look.2 := ⟨rfl, .look _⟩
    unfold runScript
    split
    · exact .refl ed
    · generalize ed.look = looked at hlook ⊢
      obtain ⟨_ | _, ed₁⟩ := looked
      · have hline := hlook.trans (h line List.mem_cons_self ed₁)
        have hrest := ih fun line hmem => h line (List.mem_cons_of_mem _ hmem)
        dsimp only at hline ⊢
        generalize run running line ed₁ = r at hline ⊢
        obtain ⟨ed₂, _ | t | _⟩ := r
        · exact hline.trans (hrest ed₂)
        · have htold : ed.Steady (ed₂.tell t) := ⟨hline.recorder, hline.host.cancelled, hline.host.cancelsAfter⟩
          exact htold.trans (hrest _)
        · exact hline
      · exact hlook

theorem runLine_steady (htame : ∀ line ∈ lines, isTame line) (hout : running.inGlobal = false) (n : Nat) :
    ∀ line ∈ lines, ∀ ed : Editor, ed.Steady (runLine (n + 2) running line ed).1 := fun line hmem _ =>
  (runLine_keepStep (htame line hmem) n n hout hout rfl).steady

end lines

/-- Lines typed after others are typed if none of those failed. -/
theorem executeAll_append (lines rest : List Text) (ed : Editor) :
    executeAll (lines ++ rest) ed =
      match executeAll lines ed with
      | (ed, .failure failure) => (ed, .failure failure)
      | (ed, _) => executeAll rest ed := by
  induction lines generalizing ed with
  | nil => rfl
  | cons line lines ih =>
    rw [List.cons_append, executeAll, executeAll]
    obtain ⟨ed₁, _ | _ | _⟩ := ed.execute line
    · exact ih ed₁
    · exact ih ed₁
    · rfl

theorem typedLines_append (lines rest : List Text) (ed : Editor) :
    typedLines (lines ++ rest) ed = typedLines lines ed ++
      match executeAll lines ed with
      | (_, .failure _) => []
      | (ed, _) => typedLines rest ed := by
  induction lines generalizing ed with
  | nil => rfl
  | cons line lines ih =>
    rw [List.cons_append, typedLines, typedLines, executeAll, List.cons_append]
    obtain ⟨ed₁, _ | _ | _⟩ := ed.execute line
    · exact congrArg (line :: ·) (ih ed₁)
    · exact congrArg (line :: ·) (ih ed₁)
    · rfl

namespace AsTyped
variable {ed ed' : Editor} {line : Text} {lines rest : List Text} {r r' : Result} {calls calls' : List Call}

theorem nil (hcalm : Calm ed) (hp : ed.present = ed'.present) : AsTyped ed [] (ed', .success) [] :=
  ⟨rfl, by rw [executeAll, resume_eq_of_down hcalm.cancelled, hp], fun _ => Iff.rfl⟩

theorem single (call : Call) (hstep : InStep ed' (ed.execute line) r) (hdown : r.1.host.cancelled = false)
    (hcall : call.line = line) : AsTyped ed [line] r [call] := by
  have hdown : (ed.execute line).1.host.cancelled = false :=
    (congrArg (·.host.cancelled) hstep.present).trans hdown
  have hpresent := hstep.present.symm
  have houtcome := hstep.outcome.symm
  rw [← resume_eq_of_down hdown] at hpresent
  suffices hone : typedLines [line] ed = [line] ∧ (executeAll [line] ed).1 = (ed.execute line).1 ∧
      ∀ failure, (executeAll [line] ed).2 = .failure failure ↔ (ed.execute line).2 = .failure failure by
    obtain ⟨htyped, hafter, hfails⟩ := hone
    exact ⟨by rw [htyped, ← hcall]; rfl, by rw [hafter]; exact hpresent, fun f => by rw [hfails, houtcome]⟩
  unfold typedLines executeAll
  obtain ⟨ed₁, _ | _ | _⟩ := ed.execute line <;> simp [typedLines, executeAll]

/-- Nothing is typed after a failure. -/
theorem append_failed {failure : Failure} (h : AsTyped ed lines r calls) (hr : r.2 = .failure failure)
    (rest : List Text) : AsTyped ed (lines ++ rest) r calls := by
  obtain ⟨hran, hpresent, houtcome⟩ := h
  have hfailed := (houtcome failure).mp hr
  have happend := executeAll_append lines rest ed
  have htyped := typedLines_append lines rest ed
  rcases hall : executeAll lines ed with ⟨ed₁, outcome⟩
  rw [hall] at hfailed happend htyped hpresent houtcome
  obtain rfl : outcome = .failure failure := hfailed
  exact ⟨by rw [htyped, hran, List.append_nil], by rw [happend]; exact hpresent,
    by rw [happend]; exact houtcome⟩

theorem of_resume (h : AsTyped ed.resume lines r calls) : AsTyped ed lines r calls := by
  cases lines with
  | nil => exact ⟨h.ran, h.present, h.outcome⟩
  | cons line rest => exact ⟨h.ran, h.present, h.outcome⟩

theorem append (h : AsTyped ed lines r calls) (hr : ∀ failure, r.2 ≠ .failure failure)
    (h' : AsTyped (executeAll lines ed).1.resume rest r' calls') :
    AsTyped ed (lines ++ rest) r' (calls ++ calls') := by
  obtain ⟨hran, -, houtcome⟩ := h
  obtain ⟨hran', hpresent', houtcome'⟩ := h'.of_resume
  have happend := executeAll_append lines rest ed
  have htyped := typedLines_append lines rest ed
  rcases hall : executeAll lines ed with ⟨ed₁, outcome⟩
  rw [hall] at happend htyped hran' hpresent' houtcome houtcome'
  cases outcome with
  | failure failure => exact absurd ((houtcome failure).mpr rfl) (hr failure)
  | success | message _ =>
    exact ⟨by rw [htyped, List.map_append, hran, hran'], by rw [happend]; exact hpresent',
      by rw [happend]; exact houtcome'⟩

end AsTyped

section runs
variable {running : Running} {lines : List Text} {ed ed' : Editor}

/-- Playing the lines of a macro once. -/
theorem playLines_asTyped (name : Text) (htame : ∀ line ∈ lines, isTame line) (hout : running.inGlobal = false)
    (n : Nat) (hcalm : Calm ed) (hp : ed.present = ed'.present)
    (hdown : (playLines (runLine (n + 2) running) name lines ed').1.host.cancelled = false) :
    AsTyped ed lines (playLines (runLine (n + 2) running) name lines ed')
      (playLinesCalls (runLine (n + 2)) running lines ed') := by
  induction lines generalizing ed ed' with
  | nil => exact .nil hcalm hp
  | cons line rest ih =>
    have hcalm' := hcalm.of_present hp
    have hrest : ∀ line ∈ rest, isTame line := fun line hmem => htame line (List.mem_cons_of_mem _ hmem)
    have hstep := executed (htame line List.mem_cons_self) hout n hcalm hp
    have hsteady := playLines_steady name (runLine_steady hrest hout n)
    unfold playLines at hdown ⊢
    unfold playLinesCalls
    rw [hcalm'.look_eq] at hdown ⊢
    dsimp only at hdown ⊢
    generalize runLine (n + 2) running line ed' = r at hstep hdown ⊢
    obtain ⟨ed₁, outcome⟩ := r
    have hgoes : (∀ failure, outcome ≠ .failure failure) →
        (playLines (runLine (n + 2) running) name rest ed₁).1.host.cancelled = false →
        AsTyped ed (line :: rest) (playLines (runLine (n + 2) running) name rest ed₁)
          (⟨running, line, ed'⟩ :: playLinesCalls (runLine (n + 2)) running rest ed₁) := by
      intro hok hdown
      have hcalm₁ := hcalm'.steady hstep.steady (hsteady ed₁) hdown
      have hline := AsTyped.single ⟨running, line, ed'⟩ hstep hcalm₁.cancelled rfl
      exact hline.append hok (ih hrest (hcalm₁.of_present hline.present) hline.present.symm hdown)
    cases outcome with
    | success => exact hgoes (by simp) hdown
    | message t => exact hgoes (by simp) hdown
    | failure failure =>
      have hline := AsTyped.single ⟨running, line, ed'⟩ hstep hdown rfl
      obtain ⟨hran, hpresent, houtcome⟩ := hline.append_failed rfl rest
      exact ⟨hran, hpresent, houtcome⟩

/-- Playing the lines of a macro a number of times. -/
theorem playTimes_asTyped (name : Text) (htame : ∀ line ∈ lines, isTame line) (hout : running.inGlobal = false)
    (n count : Nat) (hcalm : Calm ed) (hp : ed.present = ed'.present)
    (hdown : (playTimes (runLine (n + 2) running) name lines count ed').1.host.cancelled = false) :
    AsTyped ed (List.replicate count lines).flatten (playTimes (runLine (n + 2) running) name lines count ed')
      (playTimesCalls (runLine (n + 2)) running name lines count ed') := by
  induction count generalizing ed ed' with
  | zero => exact .nil hcalm hp
  | succ count ih =>
    have hcalm' := hcalm.of_present hp
    have honce := playLines_asTyped name htame hout n hcalm hp
    have hlines := playLines_steady name (runLine_steady htame hout n) ed'
    have htimes := playTimes_steady name (runLine_steady htame hout n) count
    rw [List.replicate_succ, List.flatten_cons]
    unfold playTimes at hdown ⊢
    unfold playTimesCalls
    generalize playLines (runLine (n + 2) running) name lines ed' = r at honce hlines hdown ⊢
    obtain ⟨ed₁, outcome⟩ := r
    have hgoes : (∀ failure, outcome ≠ .failure failure) →
        (playTimes (runLine (n + 2) running) name lines count ed₁).1.host.cancelled = false →
        AsTyped ed (lines ++ (List.replicate count lines).flatten)
          (playTimes (runLine (n + 2) running) name lines count ed₁)
          (playLinesCalls (runLine (n + 2)) running lines ed' ++
            playTimesCalls (runLine (n + 2)) running name lines count ed₁) := by
      intro hok hdown
      have hcalm₁ := hcalm'.steady hlines (htimes ed₁) hdown
      have hlines := honce hcalm₁.cancelled
      exact hlines.append hok (ih (hcalm₁.of_present hlines.present) hlines.present.symm hdown)
    cases outcome with
    | success => exact hgoes (by simp) hdown
    | message t => exact hgoes (by simp) hdown
    | failure failure =>
      rw [List.append_nil]
      exact (honce hdown).append_failed rfl _

/-- Sourcing the lines of a script none of which is under way. -/
theorem runScript_asTyped (htame : ∀ line ∈ lines, isTame line) (hout : running.inGlobal = false)
    (hnew : ∀ line ∈ lines, ¬ running.invoking.any fun under => bareInvocation under = line) (n : Nat)
    (hcalm : Calm ed) (hp : ed.present = ed'.present)
    (hdown : (runScript (runLine (n + 2)) running lines ed').1.host.cancelled = false) :
    AsTyped ed lines (runScript (runLine (n + 2)) running lines ed')
      (runScriptCalls (runLine (n + 2)) running lines ed') := by
  induction lines generalizing ed ed' with
  | nil => exact .nil hcalm hp
  | cons line rest ih =>
    have hcalm' := hcalm.of_present hp
    have hrest : ∀ line ∈ rest, isTame line := fun line hmem => htame line (List.mem_cons_of_mem _ hmem)
    have hstep := executed (htame line List.mem_cons_self) hout n hcalm hp
    have hsteady := runScript_steady (runLine_steady hrest hout n)
    unfold runScript at hdown ⊢
    unfold runScriptCalls
    rw [if_neg (hnew line List.mem_cons_self)] at hdown ⊢
    rw [if_neg (hnew line List.mem_cons_self)]
    rw [hcalm'.look_eq] at hdown ⊢
    dsimp only at hdown ⊢
    generalize runLine (n + 2) running line ed' = r at hstep hdown ⊢
    obtain ⟨ed₁, outcome⟩ := r
    have hgoes : ∀ ed₂ : Editor, ed₂.present = ed₁.present → ed₁.Steady ed₂ →
        (∀ failure, outcome ≠ .failure failure) →
        (runScript (runLine (n + 2)) running rest ed₂).1.host.cancelled = false →
        AsTyped ed (line :: rest) (runScript (runLine (n + 2)) running rest ed₂)
          (⟨running, line, ed'⟩ :: runScriptCalls (runLine (n + 2)) running rest ed₂) := by
      intro ed₂ hshown hshown' hok hdown
      have hcalm₁ := hcalm'.steady hstep.steady (hshown'.trans (hsteady ed₂)) hdown
      have hline := AsTyped.single ⟨running, line, ed'⟩ hstep hcalm₁.cancelled rfl
      exact hline.append hok (ih hrest (fun line hmem => hnew line (List.mem_cons_of_mem _ hmem))
        (hcalm₁.of_present hline.present) (hline.present.symm.trans hshown.symm) hdown)
    cases outcome with
    | success => exact hgoes ed₁ rfl (.refl _) (by simp) hdown
    | message t => exact hgoes (ed₁.tell t) rfl ⟨rfl, id, id⟩ (by simp) hdown
    | failure failure =>
      have hline := AsTyped.single ⟨running, line, ed'⟩ hstep hdown rfl
      exact hline.append_failed rfl rest

/-- Playing a macro outside of macros. -/
theorem play_asTyped {name : Text} {count : Int} (hcount : 1 ≤ count)
    (hlines : ed.macroLines (macroKey name) = some lines) (htame : ∀ line ∈ lines, isTame line)
    (hplaying : running.playing = []) (hout : running.inGlobal = false) (n : Nat) (hcalm : Calm ed)
    (hp : ed.present = ed'.present)
    (hdown : (play (runLine (n + 2)) running name count ed').1.host.cancelled = false) :
    AsTyped ed (List.replicate count.toNat lines).flatten (play (runLine (n + 2)) running name count ed')
      (playCalls (runLine (n + 2)) running name count ed') := by
  have hplayable : playable running ed' (macroKey name) = .ok lines := by
    have hcontext : ed'.context = ed.context := congrArg (·.context) hp.symm
    have hsame : ed'.macroLines (macroKey name) = ed.macroLines (macroKey name) := by
      unfold macroLines shelf
      rw [hcontext]
    unfold playable
    rw [(hcalm.of_present hp).recorder, hplaying, hsame, hlines]
    rfl
  have hopen : ed.present = (ed'.mapFrame Frame.openGroup).present := by rw [present_openGroup, hp]
  have hcount : ¬ count ≤ 0 := by omega
  have hinner : (running.playingOf (macroKey name)).inGlobal = false := hout
  have htimes := playTimes_asTyped (macroKey name) htame hinner n count.toNat hcalm hopen
  unfold playCalls
  rw [play_eq] at hdown ⊢
  rw [if_neg hcount, hplayable] at hdown ⊢
  rw [if_neg hcount]
  cases lines with
  | nil =>
    have hnone : ∀ count ed, playTimes (runLine (n + 2) (running.playingOf (macroKey name))) (macroKey name) []
        count ed = (ed, .success) := fun count ed => by
      induction count with
      | zero => rfl
      | succ count ih => exact ih
    rw [hnone] at htimes
    obtain ⟨hran, hpresent, houtcome⟩ := htimes (hcalm.of_present hp).cancelled
    exact ⟨hran, hp.symm.trans (hopen.trans hpresent), houtcome⟩
  | cons line rest =>
    obtain ⟨hran, hpresent, houtcome⟩ := htimes hdown
    exact ⟨hran, hpresent, houtcome⟩

/-- Sourcing a script outside of scripts, by a line that is none of the script. -/
theorem source_asTyped {name script : Text} (hname : name.trim ≠ [])
    (hread : ed.shelf.files.readText (ed.scriptPath name) = .ok script)
    (htame : ∀ line ∈ scriptLines script, isTame line) (hsourcing : running.sourcing = [])
    (hnew : ∀ line ∈ scriptLines script, ¬ running.invoking.any fun under => bareInvocation under = line)
    (hout : running.inGlobal = false) (n : Nat) (hcalm : Calm ed) (hp : ed.present = ed'.present)
    (hdown : (source (runLine (n + 2)) running name ed').1.host.cancelled = false) :
    AsTyped ed (scriptLines script) (source (runLine (n + 2)) running name ed')
      (sourceCalls (runLine (n + 2)) running name ed') := by
  have hshelf : ed'.shelf = ed.shelf := congrArg (·.shelf) hp.symm
  have hpath : ed'.scriptPath name = ed.scriptPath name := by
    have hcwd : ed'.session.cwd = ed.session.cwd := congrArg (·.session.cwd) hp.symm
    unfold scriptPath
    rw [hshelf, hcwd]
  have hnone : ¬ ([] : List Text).contains (ed.scriptPath name) := by simp
  unfold sourceCalls
  rw [source_eq] at hdown ⊢
  rw [if_neg hname, hpath, hsourcing, if_neg hnone, hshelf, hread] at hdown ⊢
  rw [if_neg hname, if_neg hnone]
  have hinner : (running.sourcingOf (ed.scriptPath name)).inGlobal = false := hout
  exact runScript_asTyped htame hinner hnew n hcalm hp hdown

end runs

/-- Where the command of a line is carried out that is typed. -/
def inside (ed : Editor) (c : Command) : Editor := (ed.resume.mapFrame Frame.openGroup).log c

theorem present_inside (ed : Editor) (c : Command) : (ed.inside c).present = ed.resume.present :=
  ed.resume.present_openGroup

/-- What a typed line does is what its command does. -/
theorem AsTyped.of_dispatch {ed : Editor} {line : Text} {c : Command} {lines : List Text}
    (hidle : ed.session.recorder = none) (hparse : Command.parse line = .ok (some c))
    (hrange : c.range = [] ∨ c.verb.takesRange) {n : Nat} (hn : ed.nestingBound = n + 1)
    (hdown : (ed.execute line).1.host.cancelled = false)
    (h : (dispatch (runLine n) { invoking := [line] } c (ed.inside c)).1.host.cancelled = false →
      AsTyped ed.resume lines (dispatch (runLine n) { invoking := [line] } c (ed.inside c))
        (dispatchCalls (runLine n) { invoking := [line] } c (ed.inside c))) :
    AsTyped ed lines (ed.execute line) (Call.starts n ⟨{}, line, ed.resume⟩) := by
  have htaken : ¬ (!c.verb.takesRange && decide (c.range ≠ [])) := by
    rcases hrange with hrange | hrange <;> simp [hrange]
  have hparsed : runParsed (runLine n) { invoking := [line] } line (ed.resume.mapFrame Frame.openGroup) =
      dispatch (runLine n) { invoking := [line] } c (ed.inside c) := by
    unfold runParsed
    rw [hparse]
    exact if_neg htaken
  have hstarts : Call.starts n ⟨{}, line, ed.resume⟩ =
      dispatchCalls (runLine n) { invoking := [line] } c (ed.inside c) := by
    unfold Call.starts runParsedCalls
    rw [hparse]
    exact if_neg htaken
  have hran : runLine (n + 1) {} line ed.resume =
      ((dispatch (runLine n) { invoking := [line] } c (ed.inside c)).1.mapFrame Frame.closeGroup,
        (dispatch (runLine n) { invoking := [line] } c (ed.inside c)).2) := by
    rw [← hparsed]
    rfl
  obtain ⟨hpresent, houtcome⟩ := execute_idle hidle line
  rw [hn, hran] at hpresent houtcome
  obtain ⟨htyped, hshown, hfails⟩ := (h ((congrArg (·.host.cancelled) hpresent).symm.trans hdown)).of_resume
  rw [hstarts]
  exact ⟨htyped, hpresent.trans hshown, fun failure => by rw [houtcome]; exact hfails failure⟩

/-- Playing a macro and sourcing a script come to the same as typing their lines. Outside of a recording, and
while nothing is to stop, a line that plays a macro a number of times runs just the lines that the macro holds
when play starts, that many times over, up to the first that fails; it fails as that line does; and it leaves
the editor, but for its past, as typing these lines one after the other leaves it. So it is with a line that
sources a script. The lines themselves neither undo, play, source nor record anything. -/
theorem run_as_typed (ed : Editor) (line : Text) (c : Command) (hidle : ed.session.recorder = none)
    (hquiet : ed.host.cancelsAfter = none) (hdown : (ed.execute line).1.host.cancelled = false)
    (hparse : Command.parse line = .ok (some c)) :
    (∀ count lines, c.verb = .play → c.text.trim ≠ [] → ed.playCount c.range = .ok count → 1 ≤ count →
      ed.macroLines (macroKey c.text.trim) = some lines → (∀ line ∈ lines, isTame line) →
        AsTyped ed (List.replicate count.toNat lines).flatten (ed.execute line)
          (Call.starts (ed.nestingBound - 1) ⟨{}, line, ed.resume⟩)) ∧
    ∀ script, c.verb = .source → c.range = [] → c.text.trim ≠ [] →
      ed.shelf.files.readText (ed.scriptPath c.text) = .ok script → (∀ line ∈ scriptLines script, isTame line) →
        AsTyped ed (scriptLines script) (ed.execute line)
          (Call.starts (ed.nestingBound - 1) ⟨{}, line, ed.resume⟩) := by
  obtain ⟨n, hn⟩ : ∃ n, ed.nestingBound = n + 3 :=
    ⟨ed.nestingBound - 3, by simp only [nestingBound]; omega⟩
  have hcalm : Calm ed.resume := ⟨hidle, hquiet, rfl⟩
  have hinside := (ed.present_inside c).symm
  rw [hn, Nat.add_sub_cancel (n + 2) 1]
  constructor
  · intro count lines hverb hname hcount hpos hlines htame
    have hlines : ed.resume.macroLines (macroKey c.text.trim) = some lines := hlines
    have hcount : (ed.inside c).playCount c.range = .ok count := by
      have halike : (ed.inside c).frame.Alike ed.frame := .openGroup ed.frame
      unfold playCount at hcount ⊢
      rw [Calculator.evaluate_alike halike]
      exact hcount
    obtain ⟨hplay, hcalls⟩ := playCommand_of_count (runLine (n + 2)) { invoking := [line] } hname hcount
    refine .of_dispatch hidle hparse (.inr (by rw [hverb]; rfl)) hn hdown fun hdown => ?_
    unfold dispatch at hdown ⊢
    unfold dispatchCalls
    rw [hverb] at hdown ⊢
    dsimp only at hdown ⊢
    rw [hplay] at hdown ⊢
    rw [hcalls]
    exact play_asTyped hpos hlines htame rfl rfl n hcalm hinside hdown
  · intro script hverb hrange hname hread htame
    have hread : ed.resume.shelf.files.readText (ed.resume.scriptPath c.text) = .ok script := hread
    have hnew : ∀ l ∈ scriptLines script, ¬ [line].any fun under => bareInvocation under = l := by
      intro l hmem hunder
      obtain rfl : bareInvocation line = l := by simpa using hunder
      obtain ⟨c', hparse', hverb'⟩ := Command.parse_bareInvocation hparse hverb hrange
      have htame := htame _ hmem
      simp [isTame, hparse', hverb', Verb.isTame] at htame
    refine .of_dispatch hidle hparse (.inl hrange) hn hdown fun hdown => ?_
    unfold dispatch at hdown ⊢
    unfold dispatchCalls
    rw [hverb] at hdown ⊢
    dsimp only at hdown ⊢
    exact source_asTyped hname hread htame rfl hnew rfl n hcalm hinside hdown

/-- A macro that overwrites its own register is played three times and fails the second time, when no line is
left to mark; a script that does the same as one of its rounds runs to its end. -/
theorem run_as_typed_overwritten :
    let ed : Editor := { ofText "one\ntwo\n".toList with
      context.registers.shelf :=
        { store := { macros := [("a".toList, ["d a\ng/o/s/o/0/\n".toList])] }
          files := { entries := [([['s']], .file (.text "\" a round\n :d a\n\ng/o/s/o/0/\n".toList))] } } }
    let round : List Text := ["d a".toList, "g/o/s/o/0/".toList]
    AsTyped ed (List.replicate 3 round).flatten (ed.execute "3@A".toList)
        (Call.starts (ed.nestingBound - 1) ⟨{}, "3@A".toList, ed.resume⟩) ∧
      AsTyped ed round (ed.execute "so /s".toList)
        (Call.starts (ed.nestingBound - 1) ⟨{}, "so /s".toList, ed.resume⟩) ∧
      typedLines (List.replicate 3 round).flatten ed = round ++ round ∧ typedLines round ed = round ∧
      (executeAll (List.replicate 3 round).flatten ed).1.frame.text = [] ∧
      (executeAll round ed).1.frame.text = "tw0\n".toList := by
  intro ed round
  have hplay := (run_as_typed ed "3@A".toList ⟨['3'], .play, ['A'], false⟩ rfl rfl (by decide +kernel)
    (by decide +kernel)).1 3 round rfl (by decide) (by decide +kernel) (by decide) (by decide +kernel)
    (by decide +kernel)
  have hsource := (run_as_typed ed "so /s".toList ⟨[], .source, "/s".toList, false⟩ rfl rfl (by decide +kernel)
    (by decide +kernel)).2 "\" a round\n :d a\n\ng/o/s/o/0/\n".toList rfl rfl (by decide) (by decide +kernel)
    (by decide +kernel)
  exact ⟨hplay, hsource, by decide +kernel, by decide +kernel, by decide +kernel, by decide +kernel⟩

end Editor
end ExEditor
