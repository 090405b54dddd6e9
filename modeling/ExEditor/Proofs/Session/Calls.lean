import ExEditor.Session.Execute

/-! The lines that a line starts. Beside each function that runs other lines stands the list of those that
it starts, each with what is under way around it and the editor that it finds. What a function does depends
on nothing else about how lines are run. -/
namespace ExEditor

/-- A line that is started. -/
structure Call where
  running : Running
  line : Text
  editor : Editor

/-- What is under way in a macro. -/
def Running.playingOf (running : Running) (name : Text) : Running :=
  { running with playing := running.playing ++ [name] }

/-- What is under way in a script. -/
def Running.sourcingOf (running : Running) (path : Text) : Running :=
  { running with sourcing := running.sourcing ++ [path] }

/-- What is under way in a global command. -/
def Running.visiting (running : Running) : Running := { running with inGlobal := true }

namespace Editor

/-- Two ways to run lines that do the same at some calls. -/
def Agree (run run' : Runner) (calls : List Call) : Prop :=
  ∀ c ∈ calls, run c.running c.line c.editor = run' c.running c.line c.editor

theorem agree_cons {run run' : Runner} {c : Call} {calls : List Call} :
    Agree run run' (c :: calls) ↔
      run c.running c.line c.editor = run' c.running c.line c.editor ∧ Agree run run' calls := by
  simp [Agree]

theorem agree_append {run run' : Runner} {calls calls' : List Call} :
    Agree run run' (calls ++ calls') ↔ Agree run run' calls ∧ Agree run run' calls' := by
  simp [Agree, or_imp, forall_and]

/-- A global command that has marked its lines and is about to visit them. -/
structure Visiting where
  command : Text
  lines : List Nat
  editor : Editor

/-- A global command that may be carried out: its parts, its matcher and the lines of its range. -/
def prepareGlobal (running : Running) (r : AddressRange) (t : Text) (ed : Editor) :
    Except Failure (GlobalCommand × Matcher × Nat × Nat) := do
  if running.inGlobal then throw (.malformed .nestedGlobal)
  let (first, last) ← r.checked
  let g ← readGlobal ed t
  let m ← searchMatcher ed.context.settings.ignoreCase g.pattern
  return (g, m, first, last)

theorem prepareGlobal_ok {running : Running} {r : AddressRange} {t : Text} {ed : Editor} {g : GlobalCommand}
    {m : Matcher} {first last : Nat} (h : prepareGlobal running r t ed = .ok (g, m, first, last)) :
    running.inGlobal = false ∧ r.checked = .ok (first, last) ∧ readGlobal ed t = .ok g ∧
      searchMatcher ed.context.settings.ignoreCase g.pattern = .ok m := by
  unfold prepareGlobal at h
  cases hg : running.inGlobal with
  | true => simp [hg, bind, Except.bind, throw, throwThe, MonadExceptOf.throw] at h
  | false =>
    cases hr : r.checked with
    | error failure => simp [hg, hr, bind, Except.bind] at h
    | ok lines =>
      cases hread : readGlobal ed t with
      | error failure => simp [hg, hr, hread, bind, Except.bind] at h
      | ok g' =>
        cases hm : searchMatcher ed.context.settings.ignoreCase g'.pattern with
        | error failure => simp [hg, hr, hread, hm, bind, Except.bind] at h
        | ok m' =>
          simp only [hg, hr, hread, hm, bind, Except.bind, pure, Except.pure, Bool.false_eq_true, ↓reduceIte,
            Except.ok.injEq, Prod.mk.injEq] at h
          obtain ⟨rfl, rfl, rfl, rfl⟩ := h
          exact ⟨rfl, rfl, rfl, hm⟩

/-- What a global command comes to before it runs anything: a failure, or lines to visit. -/
def beginGlobal (running : Running) (r : AddressRange) (t : Text) (invert : Bool) (ed : Editor) :
    Except Result Visiting :=
  match prepareGlobal running r t ed with
  | .error failure => .error (ed, .failure failure)
  | .ok (g, m, first, last) =>
    let lines := matchedLines ed.frame m invert first last
    let ed := ed.rememberSearch g.pattern
    if lines = [] then .error (ed, .failure (.unresolved (.patternNotFound g.pattern)))
    else .ok ⟨g.command, lines, ed.mapFrame fun f => (markLines f lines).openGroup⟩

theorem beginGlobal_ok {running : Running} {r : AddressRange} {t : Text} {invert : Bool} {ed : Editor}
    {v : Visiting} (h : beginGlobal running r t invert ed = .ok v) :
    ∃ g m first last, prepareGlobal running r t ed = .ok (g, m, first, last) ∧ v.command = g.command ∧
      v.lines = matchedLines ed.frame m invert first last ∧
      v.editor = (ed.rememberSearch g.pattern).mapFrame fun f => (markLines f v.lines).openGroup := by
  unfold beginGlobal at h
  split at h
  · cases h
  · next g m first last hprepared =>
    dsimp only at h
    split at h
    · cases h
    · cases h
      exact ⟨g, m, first, last, hprepared, rfl, rfl, rfl⟩

/-- A global command that may be carried out and marks lines begins. -/
theorem beginGlobal_of {running : Running} {r : AddressRange} {t : Text} {invert : Bool} {ed : Editor}
    {g : GlobalCommand} {m : Matcher} {first last : Nat} (hg : running.inGlobal = false)
    (hr : r.checked = .ok (first, last)) (hread : readGlobal ed t = .ok g)
    (hm : searchMatcher ed.context.settings.ignoreCase g.pattern = .ok m)
    (hlines : matchedLines ed.frame m invert first last ≠ []) :
    beginGlobal running r t invert ed =
      .ok ⟨g.command, matchedLines ed.frame m invert first last, (ed.rememberSearch g.pattern).mapFrame fun f =>
        (markLines f (matchedLines ed.frame m invert first last)).openGroup⟩ := by
  have hprepared : prepareGlobal running r t ed = .ok (g, m, first, last) := by
    simp only [prepareGlobal, hg, hr, hread, hm, bind, Except.bind]
    rfl
  simp only [beginGlobal, hprepared, if_neg hlines]

theorem global_eq (run : Runner) (running : Running) (r : AddressRange) (t : Text) (invert : Bool)
    (ed : Editor) :
    global run running r t invert ed =
      match beginGlobal running r t invert ed with
      | .error result => result
      | .ok v =>
        let (after, outcome) := visitLines (run running.visiting v.command) v.lines v.editor
        (after.mapFrame fun f => (unmarkLines f v.lines).closeGroup, outcome) := by
  unfold beginGlobal
  change (match prepareGlobal running r t ed with | .error _ => _ | .ok (_, _, _, _) => _) = _
  rcases prepareGlobal running r t ed with failure | ⟨g, m, first, last⟩
  · rfl
  · dsimp only
    split <;> rfl

section calls
variable (run : Runner) (running : Running)

/-- The lines of a macro that are started. -/
def playLinesCalls : List Text → Editor → List Call
  | [], _ => []
  | line :: rest, ed =>
    match ed.look with
    | (true, _) => []
    | (false, ed) =>
      ⟨running, line, ed⟩ ::
        match run running line ed with
        | (_, .failure _) => []
        | (ed, _) => playLinesCalls rest ed

/-- The lines of a macro that are started as often as it is played. -/
def playTimesCalls (name : Text) (lines : List Text) : Nat → Editor → List Call
  | 0, _ => []
  | n + 1, ed =>
    playLinesCalls run running lines ed ++
      match playLines (run running) name lines ed with
      | (_, .failure _) => []
      | (ed, _) => playTimesCalls name lines n ed

/-- The name that a macro is played by. -/
def macroKey (name : Text) : Text := if isRegisterMacro name then name.toAsciiLower else name

theorem play_eq (name : Text) (count : Int) (ed : Editor) :
    play run running name count ed =
      if count ≤ 0 then (ed, .success)
      else
        match playable running ed (macroKey name) with
        | .error failure => (ed, .failure failure)
        | .ok [] => (ed, .success)
        | .ok lines =>
          let (ed, outcome) := playTimes (run (running.playingOf (macroKey name))) (macroKey name) lines
            count.toNat (ed.mapFrame Frame.openGroup)
          (ed.mapFrame Frame.closeGroup, outcome) :=
  rfl

/-- The lines that playing a macro starts. -/
def playCalls (name : Text) (count : Int) (ed : Editor) : List Call :=
  if count ≤ 0 then []
  else
    match playable running ed (macroKey name) with
    | .error _ => []
    | .ok lines =>
      playTimesCalls run (running.playingOf (macroKey name)) (macroKey name) lines count.toNat
        (ed.mapFrame Frame.openGroup)

/-- The lines that a command starts by playing a macro. -/
def playCommandCalls (count name : Text) (ed : Editor) : List Call :=
  let name := name.trim
  if name = [] then []
  else if count = [] then playCalls run running name 1 ed
  else
    match Calculator.evaluate ed.frame count with
    | .error _ => []
    | .ok count => playCalls run running name count ed

/-- The lines of a script that are started. -/
def runScriptCalls : List Text → Editor → List Call
  | [], _ => []
  | line :: rest, ed =>
    if running.invoking.any fun under => bareInvocation under = line then []
    else
      match ed.look with
      | (true, _) => []
      | (false, ed) =>
        ⟨running, line, ed⟩ ::
          match run running line ed with
          | (ed, .success) => runScriptCalls rest ed
          | (ed, .message t) => runScriptCalls rest (ed.tell t)
          | (_, .failure _) => []

/-- The path of a script. -/
def scriptPath (ed : Editor) (name : Text) : Text :=
  ed.shelf.files.canonical (Path.join ed.session.cwd name.trim)

theorem source_eq (name : Text) (ed : Editor) :
    source run running name ed =
      if name.trim = [] then (ed, .failure (.malformed .missingScriptName))
      else if running.sourcing.contains (ed.scriptPath name) then
        (ed, .failure (.recursion (.sourcing (ed.scriptPath name))))
      else
        match ed.shelf.files.readText (ed.scriptPath name) with
        | .error fault => (ed, .failure (.io (.unreadable (ed.scriptPath name) fault.reason)))
        | .ok script =>
          runScript run (running.sourcingOf (ed.scriptPath name)) (scriptLines script) ed :=
  rfl

/-- The lines that sourcing a script starts. -/
def sourceCalls (name : Text) (ed : Editor) : List Call :=
  if name.trim = [] then []
  else if running.sourcing.contains (ed.scriptPath name) then []
  else
    match ed.shelf.files.readText (ed.scriptPath name) with
    | .error _ => []
    | .ok script =>
      runScriptCalls run (running.sourcingOf (ed.scriptPath name)) (scriptLines script) ed

/-- The lines of the frame that a global command visits, each with the editor whose cursor is on it. -/
def visits (run : Editor → Result) : List Nat → Editor → List (Nat × Editor)
  | [], _ => []
  | line :: rest, ed =>
    match ed.look with
    | (true, _) => []
    | (false, ed) =>
      match ed.frame.mark? (.line line) with
      | none => visits run rest ed
      | some offset =>
        let here := ed.mapFrame fun f => (f.unsetMark (.line line)).setCursor offset
        (line, here) ::
          match run here with
          | (ed, .success) => visits run rest ed
          | (ed, .message t) => visits run rest (ed.tell t)
          | (_, .failure _) => []

/-- The lines that a global command starts: its command for each visit. -/
def globalCalls (r : AddressRange) (t : Text) (invert : Bool) (ed : Editor) : List Call :=
  match beginGlobal running r t invert ed with
  | .error _ => []
  | .ok v =>
    (visits (run running.visiting v.command) v.lines v.editor).map fun visit =>
      ⟨running.visiting, v.command, visit.2⟩

/-- The lines that a command starts. -/
def dispatchCalls (c : Command) (ed : Editor) : List Call :=
  match c.verb with
  | .play => playCommandCalls run running c.range c.text ed
  | .source => sourceCalls run running c.text ed
  | .global invert =>
    match ed.resolveRange c.range ['%'] with
    | (.error _, _) => []
    | (.ok r, ed) => globalCalls run running r c.text invert ed
  | _ => []

/-- The lines that a command line starts. -/
def runParsedCalls (line : Text) (ed : Editor) : List Call :=
  match Command.parse line with
  | .ok (some c) =>
    if !c.verb.takesRange && c.range ≠ [] then [] else dispatchCalls run running c (ed.log c)
  | _ => []

end calls

section agree
variable {run run' : Runner} {running : Running}

theorem playLines_agree (name : Text) {lines : List Text} {ed : Editor}
    (h : Agree run run' (playLinesCalls run running lines ed)) :
    playLines (run running) name lines ed = playLines (run' running) name lines ed := by
  induction lines generalizing ed with
  | nil => rfl
  | cons line rest ih =>
    unfold playLinesCalls at h
    unfold playLines
    generalize ed.look = looked at h ⊢
    rcases looked with ⟨_ | _, ed'⟩
    · obtain ⟨hline, hrest⟩ := agree_cons.mp h
      dsimp only at hline ⊢
      rw [← hline]
      generalize run running line ed' = result at hrest ⊢
      rcases result with ⟨ed'', _ | _ | failure⟩
      · exact ih hrest
      · exact ih hrest
      · rfl
    · rfl

theorem playTimes_agree {name : Text} {lines : List Text} {n : Nat} {ed : Editor}
    (h : Agree run run' (playTimesCalls run running name lines n ed)) :
    playTimes (run running) name lines n ed = playTimes (run' running) name lines n ed := by
  induction n generalizing ed with
  | zero => rfl
  | succ n ih =>
    obtain ⟨hlines, hrest⟩ := agree_append.mp h
    unfold playTimes
    rw [← playLines_agree name hlines]
    generalize playLines (run running) name lines ed = result at hrest ⊢
    rcases result with ⟨ed', _ | _ | failure⟩
    · exact ih hrest
    · exact ih hrest
    · rfl

theorem play_agree {name : Text} {count : Int} {ed : Editor}
    (h : Agree run run' (playCalls run running name count ed)) :
    play run running name count ed = play run' running name count ed := by
  unfold playCalls at h
  rw [play_eq, play_eq]
  split
  · rfl
  · next hcount =>
    rw [if_neg hcount] at h
    generalize playable running ed (macroKey name) = found at h ⊢
    rcases found with failure | ⟨_ | ⟨line, rest⟩⟩
    · rfl
    · rfl
    · exact congrArg (fun r : Result => (r.1.mapFrame Frame.closeGroup, r.2)) (playTimes_agree h)

theorem playCommand_agree {count name : Text} {ed : Editor}
    (h : Agree run run' (playCommandCalls run running count name ed)) :
    playCommand run running count name ed = playCommand run' running count name ed := by
  unfold playCommandCalls at h
  unfold playCommand
  dsimp only at h ⊢
  split
  · rfl
  · next hname =>
    rw [if_neg hname] at h
    split
    · next hcount =>
      rw [if_pos hcount] at h
      exact play_agree h
    · next hcount =>
      rw [if_neg hcount] at h
      generalize Calculator.evaluate ed.frame count = times at h ⊢
      rcases times with failure | times
      · rfl
      · exact play_agree h

theorem runScript_agree {lines : List Text} {ed : Editor}
    (h : Agree run run' (runScriptCalls run running lines ed)) :
    runScript run running lines ed = runScript run' running lines ed := by
  induction lines generalizing ed with
  | nil => rfl
  | cons line rest ih =>
    unfold runScriptCalls at h
    unfold runScript
    split
    · rfl
    · next hline =>
      rw [if_neg hline] at h
      generalize ed.look = looked at h ⊢
      rcases looked with ⟨_ | _, ed'⟩
      · obtain ⟨hline, hrest⟩ := agree_cons.mp h
        dsimp only at hline ⊢
        rw [← hline]
        generalize run running line ed' = result at hrest ⊢
        rcases result with ⟨ed'', _ | _ | failure⟩
        · exact ih hrest
        · exact ih hrest
        · rfl
      · rfl

theorem source_agree {name : Text} {ed : Editor}
    (h : Agree run run' (sourceCalls run running name ed)) :
    source run running name ed = source run' running name ed := by
  unfold sourceCalls at h
  rw [source_eq, source_eq]
  split
  · rfl
  · next hname =>
    rw [if_neg hname] at h
    split
    · rfl
    · next hpath =>
      rw [if_neg hpath] at h
      split
      · rfl
      · next script hread =>
        rw [hread] at h
        exact runScript_agree h

theorem visitLines_agree {command : Text} {lines : List Nat} {ed : Editor}
    (h : Agree run run' ((visits (run running command) lines ed).map fun v =>
      ⟨running, command, v.2⟩)) :
    visitLines (run running command) lines ed = visitLines (run' running command) lines ed := by
  induction lines generalizing ed with
  | nil => rfl
  | cons line rest ih =>
    unfold visits at h
    unfold visitLines
    generalize ed.look = looked at h ⊢
    rcases looked with ⟨_ | _, ed'⟩
    · dsimp only at h ⊢
      generalize ed'.frame.mark? (.line line) = mark at h ⊢
      rcases mark with _ | offset
      · exact ih h
      · obtain ⟨hhere, hrest⟩ := agree_cons.mp h
        dsimp only at hhere ⊢
        rw [← hhere]
        generalize run running command
          (ed'.mapFrame fun f => (f.unsetMark (.line line)).setCursor offset) = result at hrest ⊢
        rcases result with ⟨ed'', _ | _ | failure⟩
        · exact ih hrest
        · exact ih hrest
        · rfl
    · rfl

theorem global_agree {r : AddressRange} {t : Text} {invert : Bool} {ed : Editor}
    (h : Agree run run' (globalCalls run running r t invert ed)) :
    global run running r t invert ed = global run' running r t invert ed := by
  unfold globalCalls at h
  rw [global_eq, global_eq]
  generalize beginGlobal running r t invert ed = begun at h ⊢
  rcases begun with result | v
  · rfl
  · dsimp only
    rw [visitLines_agree h]

theorem dispatch_agree {c : Command} {ed : Editor}
    (h : Agree run run' (dispatchCalls run running c ed)) :
    dispatch run running c ed = dispatch run' running c ed := by
  obtain ⟨range, verb, t, bang⟩ := c
  cases verb with
  | play => exact playCommand_agree h
  | source => exact source_agree h
  | global invert =>
    unfold dispatchCalls at h
    dsimp only at h
    change onRange ed _ _ _ = onRange ed _ _ _
    unfold onRange
    generalize ed.resolveRange range ['%'] = resolved at h ⊢
    rcases resolved with ⟨failure | r, ed'⟩
    · rfl
    · exact global_agree h
  | _ => rfl

/-- What a line does depends on how lines are run only at those that it starts. -/
theorem runParsed_agree {line : Text} {ed : Editor}
    (h : Agree run run' (runParsedCalls run running line ed)) :
    runParsed run running line ed = runParsed run' running line ed := by
  unfold runParsedCalls at h
  unfold runParsed
  generalize Command.parse line = parsed at h ⊢
  rcases parsed with failure | _ | c
  · rfl
  · rfl
  · dsimp only at h ⊢
    split
    · rfl
    · next hc =>
      rw [if_neg hc] at h
      exact dispatch_agree h

end agree
end Editor
end ExEditor
