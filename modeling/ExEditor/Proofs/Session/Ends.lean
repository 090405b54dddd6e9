import ExEditor.Proofs.Session.Recursion
import ExEditor.Proofs.Session.Replies

/-! How lines are started one after another, and come to their end. A macro, a script and a global command start no
line once the flag is up, whatever they are nested in, and what is around the line in which the flag went up only
comes to its end. -/
namespace ExEditor

/-- A frame without what commands work with: their marks, and the groups that they have opened. -/
def Frame.bare (f : Frame) : Frame := { f with marks := f.marks.filter (! ·.1.isWorking), depth := 0 }

theorem Frame.bare_unsetLine (f : Frame) (line : Nat) : (f.unsetMark (.line line)).bare = f.bare := by
  have hmarks : (f.marks.filter (·.1 ≠ .line line)).filter (! ·.1.isWorking) =
      f.marks.filter (! ·.1.isWorking) := by
    rw [List.filter_filter]
    refine List.filter_congr fun m _ => ?_
    by_cases hm : m.1 = .line line <;> simp [hm, MarkId.isWorking]
  exact congrArg (fun marks => { f with marks, depth := 0 }) hmarks

/-- Whether an event is a message. -/
def Event.isMessage : Event → Bool
  | message _ => true
  | _ => false

/-- Surroundings without the messages that went out, and without what comes from outside. -/
def Host.bare (h : Host) : Host :=
  { h with events := h.events.filter (! ·.isMessage), cancelsAfter := none }

theorem Host.bare_tell (h : Host) (t : Text) : (h.tell t).bare = h.bare := by
  simp [bare, tell, note, Event.isMessage]

/-- While the flag is up, it is seen, and looking at it changes nothing. -/
theorem Host.bare_look {h : Host} (hc : h.cancelled) : h.look.1 ∧ h.look.2.bare = h.bare := by
  unfold look
  rcases h.cancelsAfter with _ | _ | n
  · exact ⟨hc, rfl⟩
  · exact ⟨rfl, by simp [bare, hc]⟩
  · exact ⟨hc, rfl⟩

/-- Where the flag is seen down, it is down. -/
theorem Host.look_down {h : Host} (hl : h.look.1 = false) : h.cancelled = false ∧ h.look.2.cancelled = false := by
  unfold look at hl ⊢
  rcases hn : h.cancelsAfter with _ | _ | n <;> rw [hn] at hl
  · exact ⟨hl, hl⟩
  · cases hl
  · exact ⟨hl, hl⟩

namespace Editor

/-- An editor without what belongs to the commands around a line and to their end: the marks that they work with, the
groups that they have opened, their messages and the recording. -/
def bare (ed : Editor) : Editor :=
  { ed with
    session := { ed.session with frame := ed.session.frame.bare, recorder := none }
    host := ed.host.bare }

theorem cancelled_of_bare {ed ed' : Editor} (h : ed.bare = ed'.bare) : ed.host.cancelled = ed'.host.cancelled :=
  congrArg (·.host.cancelled) h

theorem bare_mapFrame {act : Frame → Frame} (h : ∀ f, (act f).bare = f.bare) (ed : Editor) :
    (ed.mapFrame act).bare = ed.bare := by
  unfold bare mapFrame
  dsimp only
  rw [h]

theorem bare_tell (ed : Editor) (t : Text) : (ed.tell t).bare = ed.bare := by
  unfold bare tell
  dsimp only
  rw [Host.bare_tell]

theorem bare_look {ed : Editor} (hc : ed.host.cancelled) : ed.look.1 ∧ ed.look.2.bare = ed.bare := by
  obtain ⟨hseen, hbare⟩ := Host.bare_look hc
  refine ⟨hseen, ?_⟩
  unfold bare look
  dsimp only
  rw [hbare]

theorem bare_unmarkLines (f : Frame) (lines : List Nat) : (unmarkLines f lines).closeGroup.bare = f.bare := by
  induction lines generalizing f with
  | nil => rfl
  | cons line rest ih => exact (ih (f.unsetMark (.line line))).trans (f.bare_unsetLine line)

/-- How lines are started and come to their end: each finds the flag down, one that leaves it up is the last, and
only replies that lines take raise it. -/
structure Ends (run : Runner) (ed : Editor) (calls : List Call) (r : Result) : Prop where
  down : ∀ c ∈ calls, c.editor.host.cancelled = false
  last : ∀ earlier c later, calls = earlier ++ c :: later → (run c.running c.line c.editor).1.host.cancelled →
    later = [] ∧ r.1.bare = (run c.running c.line c.editor).1.bare
  heeds : (∀ c ∈ calls, c.editor.host.Heeds (run c.running c.line c.editor).1.host) →
    (∀ c ∈ calls, ed.host.Heeds c.editor.host) ∧ ed.host.Heeds r.1.host

/-- And none is started, and nothing is done, while the flag is up. -/
structure Halts (run : Runner) (ed : Editor) (calls : List Call) (r : Result) : Prop extends
    Ends run ed calls r where
  up : ed.host.cancelled → calls = [] ∧ r.1.bare = ed.bare

section loops
variable {run : Runner} {running : Running} {ed ed' after : Editor} {c : Call} {calls calls' : List Call}
  {r r' : Result}

theorem Ends.none (h : ed.host.Heeds r.1.host) : Ends run ed [] r where
  down := by simp
  last := by simp
  heeds _ := ⟨by simp, h⟩

/-- What is done before the lines and after them. -/
theorem Ends.around (h : Ends run ed' calls r) (hed : ed.host.Heeds ed'.host) (hb : r'.1.bare = r.1.bare)
    (hr : r.1.host.Heeds r'.1.host) : Ends run ed calls r' where
  down := h.down
  last earlier c later hcalls hflag := by
    obtain ⟨hlater, hbare⟩ := h.last earlier c later hcalls hflag
    exact ⟨hlater, hb.trans hbare⟩
  heeds hcalls := by
    obtain ⟨hstart, hend⟩ := h.heeds hcalls
    exact ⟨fun c hc => hed.trans (hstart c hc), hed.trans (hend.trans hr)⟩

theorem Halts.none (h : ed.host.Heeds r.1.host) (hb : ed.host.cancelled → r.1.bare = ed.bare) :
    Halts run ed [] r := ⟨.none h, fun hc => ⟨rfl, hb hc⟩⟩

/-- Nothing goes on where the flag is seen up. -/
theorem Halts.stop (h : ed.look = (true, ed')) (outcome : Outcome) : Halts run ed [] (ed', outcome) := by
  have hed' : ed' = ed.look.2 := by rw [h]
  refine .none ?_ fun hc => ?_
  · rw [hed']
    exact .look ed.host
  · rw [hed']
    exact (bare_look hc).2

theorem look_down (h : ed.look = (false, ed')) :
    ed.host.cancelled = false ∧ ed'.host.cancelled = false ∧ ed.host.Heeds ed'.host := by
  have hed' : ed' = ed.look.2 := by rw [h]
  obtain ⟨hdown, hdown'⟩ := Host.look_down (h := ed.host) (congrArg Prod.fst h)
  rw [hed']
  exact ⟨hdown, hdown', .look ed.host⟩

/-- It is looked at the flag, which is down, and gone on. -/
theorem Halts.look (h : ed.look = (false, ed')) (hrest : Halts run ed' calls r) : Halts run ed calls r := by
  obtain ⟨hdown, -, hheeds⟩ := look_down h
  exact ⟨hrest.toEnds.around hheeds rfl (.refl _), fun hc => by simp [hdown] at hc⟩

theorem Halts.told {t : Text} (h : Halts run (ed.tell t) calls r) : Halts run ed calls r := by
  have htold : ed.host.Heeds (ed.tell t).host := .of_eq rfl rfl rfl rfl
  refine ⟨h.toEnds.around htold rfl (.refl _), fun hc => ?_⟩
  obtain ⟨hnil, hbare⟩ := h.up hc
  exact ⟨hnil, hbare.trans (bare_tell ed t)⟩

/-- A line is started where the flag is seen down, and gone on from what it leaves. -/
theorem Halts.line {outcome : Outcome} (h : ed.look = (false, ed')) (hc : c.editor.host = ed'.host)
    (hran : run c.running c.line c.editor = (after, outcome)) (hrest : Halts run after calls r) :
    Halts run ed (c :: calls) r := by
  obtain ⟨hdown, hdown', hheeds⟩ := look_down h
  rw [← hc] at hdown' hheeds
  have hafter : (run c.running c.line c.editor).1 = after := by rw [hran]
  refine ⟨⟨?down, fun earlier c' later hcalls hflag => ?last, fun hcalls => ?heeds⟩,
    fun hup => by simp [hdown] at hup⟩
  case down =>
    simp only [List.mem_cons, forall_eq_or_imp]
    exact ⟨hdown', hrest.down⟩
  case last =>
    rcases List.cons_eq_append_iff.mp hcalls with ⟨rfl, heq⟩ | ⟨earlier', rfl, heq⟩
    · obtain ⟨rfl, rfl⟩ := List.cons.inj heq
      rw [hafter] at hflag ⊢
      exact hrest.up hflag
    · exact hrest.last earlier' c' later heq hflag
  case heeds =>
    simp only [List.mem_cons, forall_eq_or_imp, hafter] at hcalls ⊢
    obtain ⟨hline, hcalls⟩ := hcalls
    obtain ⟨hstart, hend⟩ := hrest.heeds hcalls
    exact ⟨⟨hheeds, fun c' hc' => hheeds.trans (hline.trans (hstart c' hc'))⟩, hheeds.trans (hline.trans hend)⟩

/-- Lines are started, and others after them. -/
theorem Halts.append (h : Halts run ed calls r) (h' : Halts run r.1 calls' r') :
    Halts run ed (calls ++ calls') r' where
  down c hc := (List.mem_append.mp hc).elim (h.down c) (h'.down c)
  last earlier c later hcalls hflag := by
    rcases List.append_eq_append_iff.mp hcalls with ⟨middle, rfl, hright⟩ | ⟨middle, hleft, hright⟩
    · exact h'.last middle c later hright hflag
    · rcases List.cons_eq_append_iff.mp hright with ⟨rfl, hlater⟩ | ⟨middle', rfl, rfl⟩
      · exact h'.last [] c later hlater hflag
      · -- The flag goes up in the last of the first lines, so that none of the others is started.
        obtain ⟨rfl, hbare⟩ := h.last earlier c middle' hleft hflag
        obtain ⟨hnil, hbare'⟩ := h'.up ((cancelled_of_bare hbare).trans hflag)
        exact ⟨hnil, hbare'.trans hbare⟩
  heeds hcalls := by
    simp only [List.mem_append, or_imp, forall_and] at hcalls ⊢
    obtain ⟨hstart, hend⟩ := h.heeds hcalls.1
    obtain ⟨hstart', hend'⟩ := h'.heeds hcalls.2
    exact ⟨⟨hstart, fun c hc => hend.trans (hstart' c hc)⟩, hend.trans hend'⟩
  up hc := by
    obtain ⟨hnil, hbare⟩ := h.up hc
    obtain ⟨hnil', hbare'⟩ := h'.up ((cancelled_of_bare hbare).trans hc)
    exact ⟨by rw [hnil, hnil', List.append_nil], hbare'.trans hbare⟩

theorem playLines_halts (name : Text) (lines : List Text) (ed : Editor) :
    Halts run ed (playLinesCalls run running lines ed) (playLines (run running) name lines ed) := by
  induction lines generalizing ed with
  | nil => exact .none (.refl _) fun _ => rfl
  | cons line rest ih =>
    unfold playLinesCalls playLines
    rcases hlook : ed.look with ⟨_ | _, ed'⟩
    · dsimp only
      rcases hran : run running line ed' with ⟨after, _ | t | failure⟩
      · exact .line hlook rfl hran (ih after)
      · exact .line hlook rfl hran (ih after)
      · exact .line hlook rfl hran (.told (.none (.refl _) fun _ => rfl))
    · exact .stop hlook _

theorem playTimes_halts (name : Text) (lines : List Text) (n : Nat) (ed : Editor) :
    Halts run ed (playTimesCalls run running name lines n ed) (playTimes (run running) name lines n ed) := by
  induction n generalizing ed with
  | zero => exact .none (.refl _) fun _ => rfl
  | succ n ih =>
    have hlines : Halts run ed (playLinesCalls run running lines ed) (playLines (run running) name lines ed) :=
      playLines_halts name lines ed
    unfold playTimesCalls playTimes
    rcases hran : playLines (run running) name lines ed with ⟨after, _ | t | failure⟩ <;> rw [hran] at hlines
    · exact hlines.append (ih after)
    · exact hlines.append (ih after)
    · exact hlines.append (.none (.refl _) fun _ => rfl)

theorem playTimesCalls_nil (name : Text) (n : Nat) (ed : Editor) :
    playTimesCalls run running name [] n ed = [] := by
  induction n generalizing ed with
  | zero => rfl
  | succ n ih => exact ih ed

theorem play_ends (name : Text) (count : Int) (ed : Editor) :
    Ends run ed (playCalls run running name count ed) (play run running name count ed) := by
  rw [play_eq]
  unfold playCalls
  split
  · exact .none (.refl _)
  · rcases playable running ed (macroKey name) with failure | _ | ⟨line, rest⟩
    · exact .none (.refl _)
    · dsimp only
      rw [playTimesCalls_nil]
      exact .none (.refl _)
    · exact (playTimes_halts (macroKey name) (line :: rest) count.toNat (ed.mapFrame Frame.openGroup)).toEnds.around
        (.refl _) rfl (.refl _)

theorem playCommand_ends (count name : Text) (ed : Editor) :
    Ends run ed (playCommandCalls run running count name ed) (playCommand run running count name ed) := by
  unfold playCommandCalls playCommand
  dsimp only
  split
  · exact .none (.refl _)
  split
  · exact play_ends _ _ _
  · rcases Calculator.evaluate ed.frame count with failure | times
    · exact .none (.refl _)
    · exact play_ends _ _ _

theorem runScript_halts (lines : List Text) (ed : Editor) :
    Halts run ed (runScriptCalls run running lines ed) (runScript run running lines ed) := by
  induction lines generalizing ed with
  | nil => exact .none (.refl _) fun _ => rfl
  | cons line rest ih =>
    unfold runScriptCalls runScript
    split
    · exact .none (.refl _) fun _ => rfl
    · rcases hlook : ed.look with ⟨_ | _, ed'⟩
      · dsimp only
        rcases hran : run running line ed' with ⟨after, _ | t | failure⟩
        · exact .line hlook rfl hran (ih after)
        · exact .line hlook rfl hran (.told (ih _))
        · exact .line hlook rfl hran (.none (.refl _) fun _ => rfl)
      · exact .stop hlook _

theorem source_ends (name : Text) (ed : Editor) :
    Ends run ed (sourceCalls run running name ed) (source run running name ed) := by
  rw [source_eq]
  unfold sourceCalls
  split
  · exact .none (.refl _)
  split
  · exact .none (.refl _)
  · rcases ed.shelf.files.readText (ed.scriptPath name) with fault | script
    · exact .none (.refl _)
    · exact (runScript_halts _ ed).toEnds

theorem visitLines_halts (command : Text) (lines : List Nat) (ed : Editor) :
    Halts run ed ((visits (run running command) lines ed).map fun v => ⟨running, command, v.2⟩)
      (visitLines (run running command) lines ed) := by
  induction lines generalizing ed with
  | nil => exact .none (.refl _) fun _ => rfl
  | cons line rest ih =>
    unfold visits visitLines
    rcases hlook : ed.look with ⟨_ | _, ed'⟩
    · dsimp only
      rcases ed'.frame.mark? (.line line) with _ | offset
      · exact .look hlook (ih ed')
      · dsimp only
        rcases hran : run running command (ed'.mapFrame fun f => (f.unsetMark (.line line)).setCursor offset) with
          ⟨after, _ | t | failure⟩
        · exact .line hlook rfl hran (ih after)
        · exact .line hlook rfl hran (.told (ih _))
        · exact .line hlook rfl hran (.none (.refl _) fun _ => rfl)
    · exact .stop hlook _

/-- Before its visits a global command leaves the surroundings alone. -/
theorem beginGlobal_host (running : Running) (r : AddressRange) (t : Text) (invert : Bool) (ed : Editor) :
    match beginGlobal running r t invert ed with
    | .error result => result.1.host = ed.host
    | .ok v => v.editor.host = ed.host := by
  unfold beginGlobal
  rcases prepareGlobal running r t ed with failure | ⟨g, m, first, last⟩
  · rfl
  · dsimp only
    by_cases hlines : matchedLines ed.frame m invert first last = []
    · rw [if_pos hlines]
      exact rememberSearch_host ed g.pattern
    · rw [if_neg hlines]
      exact rememberSearch_host ed g.pattern

theorem global_ends (r : AddressRange) (t : Text) (invert : Bool) (ed : Editor) :
    Ends run ed (globalCalls run running r t invert ed) (global run running r t invert ed) := by
  have hhost := beginGlobal_host running r t invert ed
  rw [global_eq]
  unfold globalCalls
  generalize beginGlobal running r t invert ed = begun at hhost ⊢
  rcases begun with result | v
  · have hed : result.1.host = ed.host := hhost
    exact .none (hed ▸ .refl _)
  · have hed : v.editor.host = ed.host := hhost
    have hlines := @visitLines_halts run running.visiting v.command v.lines v.editor
    exact hlines.toEnds.around (hed ▸ .refl _) (bare_mapFrame (bare_unmarkLines · v.lines) _) (.refl _)

theorem dispatch_ends (c : Command) (ed : Editor) :
    Ends run ed (dispatchCalls run running c ed) (dispatch run running c ed) := by
  obtain ⟨range, verb, t, bang⟩ := c
  by_cases hlines : verb.runsLines
  · cases verb with
    | play => exact playCommand_ends _ _ _
    | source => exact source_ends _ _
    | global invert =>
      have hrange : ed.host.Heeds (ed.resolveRange range ['%']).2.host := .refl _
      unfold dispatchCalls dispatch onRange
      dsimp only
      generalize ed.resolveRange range ['%'] = resolved at hrange ⊢
      rcases resolved with ⟨failure | r, ed'⟩
      · exact .none hrange
      · exact (global_ends r t invert ed').around hrange rfl (.refl _)
    | _ => cases hlines
  · have hcalls : dispatchCalls run running ⟨range, verb, t, bang⟩ ed = [] := by
      cases verb <;> first | rfl | exact absurd rfl hlines
    rw [hcalls]
    exact .none (dispatch_heeds run running (by simpa using hlines))

/-- A line comes to its end as the lines do that it starts. -/
theorem runParsed_ends (line : Text) (ed : Editor) :
    Ends run ed (runParsedCalls run running line ed) (runParsed run running line ed) := by
  unfold runParsedCalls runParsed
  rcases Command.parse line with failure | _ | c
  · exact .none (.refl _)
  · exact .none (.refl _)
  · have hlog : ed.host.Heeds (ed.log c).host := .of_eq rfl rfl rfl rfl
    dsimp only
    split
    · exact .none hlog
    · exact (dispatch_ends c (ed.log c)).around hlog rfl (.refl _)

end loops
end Editor

namespace Call
open Editor

/-- What a line leaves. The first argument bounds how deep lines nest. -/
def result (n : Nat) (c : Call) : Result := runLine n c.running c.line c.editor

theorem ends (n : Nat) (c : Call) : Ends (runLine n) c.editor (c.starts n) (c.result (n + 1)) :=
  (runParsed_ends c.line (c.editor.mapFrame Frame.openGroup)).around (.refl _) rfl (.refl _)

/-- Whatever a line starts, only replies raise the flag while it runs. -/
theorem result_heeds (n : Nat) (c : Call) : c.editor.host.Heeds (c.result n).1.host := by
  induction n generalizing c with
  | zero => exact .refl _
  | succ n ih => exact ((c.ends n).heeds fun c' _ => ih c').2

/-- A line that is started at some depth below a line, with the bound that it is given and the lines around it still
to be started when it has come to its end. -/
inductive Started : Nat → Call → Nat → Call → List Call → Prop
  | self (n : Nat) (c : Call) : Started n c n c []
  | inside {n k : Nat} {c c' c'' : Call} {earlier later after : List Call} (h : c.starts n = earlier ++ c' :: later)
    (h' : Started n c' k c'' after) : Started (n + 1) c k c'' (after ++ later)

variable {n k : Nat} {c c' : Call} {later : List Call}

theorem Started.down (h : Started n c k c' later) (hc : c.editor.host.cancelled = false) :
    c'.editor.host.cancelled = false := by
  induction h with
  | self => exact hc
  | @inside n k c c' c'' earlier later after h h' ih =>
    exact ih ((c.ends n).down c' (by rw [h]; simp))

theorem Started.cancelsAfter (h : Started n c k c' later) (hc : c.editor.host.cancelsAfter = none) :
    c'.editor.host.cancelsAfter = none := by
  induction h with
  | self => exact hc
  | @inside n k c c' c'' earlier later after h h' ih =>
    have hheeds := ((c.ends n).heeds fun c' _ => c'.result_heeds n).1 c' (by rw [h]; simp)
    obtain ⟨_, _, htook⟩ := hheeds hc
    exact ih htook.cancelsAfter

/-- A line that leaves the flag up is the last one, and what is around it comes to its end. -/
theorem Started.last (h : Started n c k c' later) (hflag : (c'.result k).1.host.cancelled) :
    later = [] ∧ (c.result n).1.bare = (c'.result k).1.bare := by
  induction h with
  | self => exact ⟨rfl, rfl⟩
  | @inside n k c c' c'' earlier later after h h' ih =>
    obtain ⟨hafter, hbare⟩ := ih hflag
    obtain ⟨hlater, hbare'⟩ := (c.ends n).last earlier c' later h ((cancelled_of_bare hbare).trans hflag)
    exact ⟨by rw [hafter, hlater, List.append_nil], hbare'.trans hbare⟩

end Call
end ExEditor
