import ExEditor.Proofs.Session.KeepStep
import ExEditor.Proofs.Session.Recorded
import ExEditor.Proofs.Session.Relay

/-! The lines that a recording captures. Recordings start and stop in lines at any depth, and what is recorded is
what is typed; so what happens to the recorder in a line is told by the lines that run in it, and over a run of
typed lines each recording is followed from the line in which it starts to the one in which it stops. -/
namespace ExEditor

/-- What becomes of the recording: one starts, or one stops and is stored. -/
inductive Turn
  | starts (r : Recording)
  | stops (r : Recording)
  deriving DecidableEq, Repr

namespace Turn

/-- The recorder after a turn. -/
def recorder : Turn → Recorder
  | starts r => some r
  | stops _ => none

end Turn

/-- What a command does to the recording itself. It does nothing if it is refused or fails. -/
def Command.turn? (c : Command) (ed : Editor) : Option Turn :=
  if c.range ≠ [] then none
  else
    match c.verb with
    | .record =>
      match ed.session.recorder.start ed.shelf c.text.trim with
      | .ok (r, _) => some (.starts r)
      | .error _ => none
    | .stop => ed.session.recorder.map .stops
    | _ => none

namespace Editor

/-- The recorder as a command leaves it by itself. -/
def turned (ed : Editor) (c : Command) : Recorder := ((c.turn? ed).map Turn.recorder).getD ed.session.recorder

/-- A command leaves the recorder as it is, unless it is one that starts or stops a recording or runs lines. -/
theorem recorder_dispatch (run : Runner) (running : Running) {c : Command} (hlines : c.verb.runsLines = false)
    (hr : c.verb ≠ .record) (hs : c.verb ≠ .stop) (ed : Editor) :
    (dispatch run running c ed).1.session.recorder = ed.session.recorder := by
  by_cases hu : c.verb = .undo
  · simp only [dispatch, hu]
    rfl
  · have htame : c.verb.isTame := by
      cases hv : c.verb <;> simp_all [Verb.isTame, Verb.runsLines]
    have hglobal : ∀ invert, c.verb ≠ .global invert := fun invert hg => by simp [hg, Verb.runsLines] at hlines
    exact (@dispatch_present run run running running c htame hglobal ed).steady.recorder

theorem turned_eq {c : Command} (hr : c.verb ≠ .record) (hs : c.verb ≠ .stop) (ed : Editor) :
    ed.turned c = ed.session.recorder := by
  obtain ⟨range, verb, t, bang⟩ := c
  unfold turned Command.turn?
  dsimp only
  split
  · rfl
  · cases verb <;> first | rfl | exact absurd rfl hr | exact absurd rfl hs

/-- The recorder lies neither in the frame nor in the host. -/
theorem apart_recorder : Apart fun ed => ed.session.recorder := ⟨fun _ _ => rfl, fun _ _ => rfl⟩

/-- What a command does itself to the recorder, before it starts lines. -/
theorem worked_recorder (run : Runner) (running : Running) {c : Command} (hc : c.verb.takesRange ∨ c.range = [])
    (ed : Editor) : (ed.worked run running c).session.recorder = ed.turned c := by
  obtain ⟨range, verb, t, bang⟩ := c
  by_cases hlines : verb.runsLines
  · rw [turned_eq (by rintro rfl; cases hlines) (by rintro rfl; cases hlines)]
    exact apart_recorder.worked run running (fun _ _ => rfl) hlines ed
  · rw [worked_of_not (by simpa using hlines)]
    by_cases hr : verb = .record
    · subst hr
      obtain rfl : range = [] := hc.resolve_left Bool.false_ne_true
      unfold turned Command.turn? dispatch startRecording
      dsimp only
      rw [if_neg (by simp)]
      rcases ed.session.recorder.start ed.shelf t.trim with failure | ⟨r, shelf⟩ <;> rfl
    by_cases hs : verb = .stop
    · subst hs
      obtain rfl : range = [] := hc.resolve_left Bool.false_ne_true
      unfold turned Command.turn? dispatch stopRecording
      dsimp only
      rw [if_neg (by simp)]
      cases hrec : ed.session.recorder with
      | none => exact hrec
      | some r => rfl
    · rw [recorder_dispatch run running (by simpa using hlines) hr hs, turned_eq hr hs]

end Editor

namespace Call
open Editor

/-- What a line does to the recording itself, apart from the lines that it starts. -/
def turn? (c : Call) : Option Turn :=
  match Command.parse c.line with
  | .ok (some command) => command.turn? c.editor
  | _ => none

/-- The recorder as a line by itself leaves it. -/
def turned (c : Call) : Recorder := (c.turn?.map Turn.recorder).getD c.editor.session.recorder

theorem recorder_worked (n : Nat) (c : Call) : (c.worked n).session.recorder = c.turned := by
  unfold worked workedLine turned turn?
  rcases Command.parse c.line with failure | _ | command
  · rfl
  · rfl
  · dsimp only
    split
    · next hrefused =>
      have hrange : command.range ≠ [] := by simpa using (Bool.and_eq_true_iff.mp hrefused).2
      unfold Command.turn?
      rw [if_pos hrange]
      rfl
    · next hrefused =>
      refine worked_recorder _ _ ?_ ((c.editor.mapFrame Frame.openGroup).log command)
      cases ht : command.verb.takesRange with
      | true => exact .inl rfl
      | false => exact .inr (by simpa [ht] using hrefused)

/-- The recorder goes through a line from one of the lines that run in it to the next. -/
theorem recorder_trace (n : Nat) (c : Call) :
    Carried (fun c : Call => c.editor.session.recorder) turned c.editor.session.recorder (c.trace n)
      (c.result n).1.session.recorder := by
  have hown : ∀ (n : Nat) (c : Call), Carried (fun c : Call => c.editor.session.recorder) turned
      c.editor.session.recorder [c] (c.worked n).session.recorder :=
    fun n c => ⟨rfl, (c.recorder_worked n).symm⟩
  have htrace := trace_carried apart_recorder hown n c
  rwa [List.flatMap_singleton'] at htrace

theorem turn?_eq_some {c : Call} {turn : Turn} (h : c.turn? = some turn) :
    ∃ t bang,
      Command.parse c.line = .ok (some ⟨[], .record, t, bang⟩) ∧
          (∃ r shelf, c.editor.session.recorder.start c.editor.shelf t.trim = .ok (r, shelf) ∧ turn = .starts r) ∨
        Command.parse c.line = .ok (some ⟨[], .stop, t, bang⟩) ∧
          ∃ r, c.editor.session.recorder = some r ∧ turn = .stops r := by
  unfold turn? at h
  split at h
  · next command hparse =>
    obtain ⟨range, verb, t, bang⟩ := command
    unfold Command.turn? at h
    dsimp only at h
    split at h
    · cases h
    · next hrange =>
      obtain rfl : range = [] := not_not.mp hrange
      refine ⟨t, bang, ?_⟩
      split at h
      · split at h
        · next r shelf hstart => exact .inl ⟨hparse, r, shelf, hstart, (Option.some.inj h).symm⟩
        · cases h
      · obtain ⟨r, hrecorder, hr⟩ := Option.map_eq_some_iff.mp h
        exact .inr ⟨hparse, r, hrecorder, hr.symm⟩
      · cases h
  · cases h

variable {c : Call} {r : Recording}

/-- A recording starts empty, and where none is under way. -/
theorem recorder_of_starts (h : c.turn? = some (.starts r)) :
    c.editor.session.recorder = none ∧ r.commands = [] ∧ r.isOpen = false := by
  obtain ⟨t, bang, ⟨-, r', shelf, hstart, hr⟩ | ⟨-, r', -, hr⟩⟩ := turn?_eq_some h <;> cases hr
  obtain ⟨hnone, -, -, rfl⟩ := Recorder.start_ok hstart
  exact ⟨hnone, rfl, rfl⟩

/-- The recording that stops is the one that is under way, and it is stored. -/
theorem recorder_of_stops (h : c.turn? = some (.stops r)) :
    c.editor.session.recorder = some r ∧ ∀ n, (c.result (n + 1)).1.shelf = r.keep c.editor.shelf := by
  obtain ⟨t, bang, ⟨-, r', shelf, -, hr⟩ | ⟨hparse, r', hrecorder, hr⟩⟩ := turn?_eq_some h <;> cases hr
  refine ⟨hrecorder, fun n => ?_⟩
  obtain ⟨stopped, said, hstop, hshelf⟩ :=
    @stopRecording_eq ((c.editor.mapFrame Frame.openGroup).log ⟨[], .stop, t, bang⟩) _ hrecorder
  have hresult : c.result (n + 1) = (stopped.mapFrame Frame.closeGroup, said) := by
    simp [result, runLine, runParsed, hparse, Verb.takesRange, dispatch, hstop, settle]
  rw [hresult]
  exact hshelf

end Call

/-- How the recorder goes from turn to turn: a recording starts empty where none is under way, and the one that is
under way stops. -/
def Turned : Recorder → List Turn → Recorder → Prop
  | recorder, [], last => last = recorder
  | recorder, .starts r :: turns, last =>
    recorder = none ∧ r.commands = [] ∧ r.isOpen = false ∧ Turned (some r) turns last
  | recorder, .stops r :: turns, last => recorder = some r ∧ Turned none turns last

namespace Turned
variable {recorder last : Recorder} {turns earlier later : List Turn} {r : Recording}

theorem of_carried {calls : List Call}
    (h : Carried (fun c : Call => c.editor.session.recorder) Call.turned recorder calls last) :
    Turned recorder (calls.filterMap Call.turn?) last := by
  induction calls generalizing recorder with
  | nil => exact Eq.symm h
  | cons c calls ih =>
    obtain ⟨rfl, hrest⟩ := h
    unfold Call.turned at hrest
    rcases hturn : c.turn? with _ | r | r <;> rw [hturn] at hrest
    · rw [List.filterMap_cons_none hturn]
      exact ih hrest
    · rw [List.filterMap_cons_some hturn]
      obtain ⟨hnone, hempty, hopen⟩ := Call.recorder_of_starts hturn
      exact ⟨hnone, hempty, hopen, ih hrest⟩
    · rw [List.filterMap_cons_some hturn]
      exact ⟨(Call.recorder_of_stops hturn).1, ih hrest⟩

theorem split (h : Turned recorder (earlier ++ later) last) :
    ∃ middle, Turned recorder earlier middle ∧ Turned middle later last := by
  induction earlier generalizing recorder with
  | nil => exact ⟨recorder, rfl, h⟩
  | cons turn earlier ih =>
    cases turn with
    | starts r =>
      obtain ⟨hnone, hempty, hopen, hrest⟩ := h
      obtain ⟨middle, hearlier, hlater⟩ := ih hrest
      exact ⟨middle, ⟨hnone, hempty, hopen, hearlier⟩, hlater⟩
    | stops r =>
      obtain ⟨hsome, hrest⟩ := h
      obtain ⟨middle, hearlier, hlater⟩ := ih hrest
      exact ⟨middle, ⟨hsome, hearlier⟩, hlater⟩

/-- A recording that is under way in the end was so all the time, or is what has started last, and is empty. -/
theorem underWay (h : Turned recorder turns (some r)) :
    turns = [] ∧ recorder = some r ∨
      turns.getLast? = some (.starts r) ∧ r.commands = [] ∧ r.isOpen = false := by
  induction turns generalizing recorder with
  | nil => exact .inl ⟨rfl, Eq.symm h⟩
  | cons turn turns ih =>
    refine .inr ?_
    cases turn with
    | starts r' =>
      obtain ⟨-, hempty, hopen, hrest⟩ := h
      rcases ih hrest with ⟨rfl, heq⟩ | ⟨hlast, hr⟩
      · cases heq
        exact ⟨rfl, hempty, hopen⟩
      · exact ⟨by rw [List.getLast?_cons, hlast]; rfl, hr⟩
    | stops r' =>
      obtain ⟨-, hrest⟩ := h
      rcases ih hrest with ⟨-, heq⟩ | ⟨hlast, hr⟩
      · cases heq
      · exact ⟨by rw [List.getLast?_cons, hlast]; rfl, hr⟩

end Turned

namespace Editor

/-- The lines that run when a line is executed, itself and those at any depth below it. -/
def callsOf (ed : Editor) (line : Text) : List Call := Call.trace ed.nestingBound ⟨{}, line, ed.resume⟩

/-- The recordings that start and stop while a line is executed, in order. -/
def turns (ed : Editor) (line : Text) : List Turn := (ed.callsOf line).filterMap Call.turn?

/-- A line is recorded after what has happened to the recorder in it, if it succeeds and a recording was under way
before it. -/
theorem execute_turned (ed : Editor) (line : Text) :
    ∃ recorder, Turned ed.session.recorder (ed.turns line) recorder ∧
      (ed.execute line).1.session.recorder =
        if ed.session.recorder.isSome && !(ed.execute line).2.isFailure then recorder.record line true
        else recorder := by
  have hturned := Turned.of_carried (Call.recorder_trace ed.nestingBound ⟨{}, line, ed.resume⟩)
  refine ⟨_, hturned, ?_⟩
  have hreport : ∀ (ed : Editor) (outcome : Outcome), (ed.report outcome).session.recorder = ed.session.recorder :=
    fun ed outcome => by
      unfold report
      cases outcome.shown <;> rfl
  unfold execute Call.result
  rcases runLine ed.nestingBound {} line ed.resume with ⟨after, outcome⟩
  dsimp only
  rw [hreport]
  cases hrec : after.session.recorder with
  | none => simp [hrec, Recorder.record]
  | some r =>
    simp only [Option.isSome_some, Bool.and_true]
    split
    · simp [record, setRecorder, hrec]
    · exact hrec

/-- No recording starts or stops while lines run one after the other. -/
def Quiet : List Text → Editor → Prop
  | [], _ => True
  | line :: rest, ed => ed.turns line = [] ∧ Quiet rest (ed.execute line).1

/-- Those of some lines that succeed when they are typed one after the other. -/
def succeeding : List Text → Editor → List Text
  | [], _ => []
  | line :: rest, ed =>
    (if (ed.execute line).2.isFailure then [] else [line]) ++ succeeding rest (ed.execute line).1

/-- A recording starts in a line, and captures the lines after it, as long as it is under way, that succeed. The
line itself is captured as well if it succeeds and has stopped another recording first. -/
structure Captures (ed : Editor) (first : Text) (between : List Text) (r : Recording) : Prop where
  started : ∃ r₀, (ed.turns first).getLast? = some (.starts r₀) ∧ r.name = r₀.name ∧ r.append = r₀.append
  quiet : Quiet between (ed.execute first).1
  commands : r.commands =
    ((if ed.session.recorder.isSome && !(ed.execute first).2.isFailure then [first] else []) ++
      succeeding between (ed.execute first).1).map Recording.entry

theorem executeEach_concat (ed : Editor) (lines : List Text) (line : Text) :
    ed.executeEach (lines ++ [line]) = ((ed.executeEach lines).execute line).1 := by
  rw [executeEach, List.foldl_append]
  rfl

theorem executeEach_between (ed : Editor) (before : List Text) (first : Text) (between : List Text) :
    ed.executeEach (before ++ first :: between) = ((ed.executeEach before).execute first).1.executeEach between := by
  rw [executeEach, List.foldl_append]
  rfl

theorem quiet_concat {lines : List Text} {line : Text} {ed : Editor} (h : Quiet lines ed)
    (hline : (ed.executeEach lines).turns line = []) : Quiet (lines ++ [line]) ed := by
  induction lines generalizing ed with
  | nil => exact ⟨hline, trivial⟩
  | cons first rest ih => exact ⟨h.1, ih h.2 hline⟩

theorem succeeding_concat (lines : List Text) (line : Text) (ed : Editor) :
    succeeding (lines ++ [line]) ed =
      succeeding lines ed ++ if ((ed.executeEach lines).execute line).2.isFailure then [] else [line] := by
  induction lines generalizing ed with
  | nil => exact List.append_nil _
  | cons first rest ih =>
    rw [List.cons_append, succeeding, ih, succeeding, List.append_assoc]
    rfl

/-- What a recording holds once a line has been recorded in it, or not. -/
theorem recording_of_record {m r : Recording} {recorded : Bool} {line : Text} (hopen : m.isOpen = false)
    (h : (if recorded then Recorder.record (some m) line true else some m) = some r) :
    r = { m with commands := m.commands ++ (if recorded then [line] else []).map Recording.entry } := by
  cases recorded with
  | true =>
    have hadd : m.add line true = r := Option.some.inj h
    rw [← hadd, Recording.add_complete hopen]
    rfl
  | false =>
    obtain rfl : m = r := Option.some.inj h
    simp

/-- A recording that is under way after some lines has started in one of them, and captures those since. -/
theorem underWay_captures {ed : Editor} (h : ed.session.recorder = none) (lines : List Text) {r : Recording}
    (hr : (ed.executeEach lines).session.recorder = some r) :
    r.isOpen = false ∧ ∃ before first between, lines = before ++ first :: between ∧
      (ed.executeEach before).Captures first between r := by
  induction lines using List.reverseRecOn generalizing r with
  | nil =>
    have hnone : ed.session.recorder = some r := hr
    rw [h] at hnone
    cases hnone
  | append_singleton lines line ih =>
    rw [executeEach_concat] at hr
    obtain ⟨recorder, hturned, hrecorder⟩ := (ed.executeEach lines).execute_turned line
    rw [hrecorder] at hr
    cases recorder with
    | none => split at hr <;> cases hr
    | some m =>
      rcases hturned.underWay with ⟨hquiet, hbefore⟩ | ⟨hstarts, hempty, hopen⟩
      · obtain ⟨hopen, before, first, between, rfl, hcaptures⟩ := ih hbefore
        obtain rfl := recording_of_record hopen hr
        refine ⟨hopen, before, first, between ++ [line], by simp, hcaptures.started, ?_, ?_⟩
        · exact quiet_concat hcaptures.quiet (executeEach_between .. ▸ hquiet)
        · have hcommands := hcaptures.commands
          rw [succeeding_concat, ← executeEach_between, ← List.append_assoc, List.map_append, ← hcommands, hbefore]
          cases ((ed.executeEach (before ++ first :: between)).execute line).2.isFailure <;> rfl
      · obtain rfl := recording_of_record hopen hr
        exact ⟨hopen, lines, line, [], rfl, ⟨m, hstarts, rfl, rfl⟩, trivial, by simp [hempty, succeeding]⟩

/-- Over any lines that are typed, whatever they run: what is stored when a recording stops is either nothing, if
it has started in the same line, or the lines that have succeeded between the one in which it started and the
one in which it stops. The line in which it started is among them if it has stopped another recording. -/
theorem recording_captures {ed : Editor} (h : ed.session.recorder = none) (lines : List Text) (line : Text)
    {earlier later : List Turn} {r : Recording}
    (hstop : (ed.executeEach lines).turns line = earlier ++ .stops r :: later) :
    (earlier.getLast? = some (.starts r) ∧ r.commands = [] ∨
        earlier = [] ∧ ∃ before first between, lines = before ++ first :: between ∧
          (ed.executeEach before).Captures first between r) ∧
      ∃ c ∈ (ed.executeEach lines).callsOf line, c.turn? = some (.stops r) ∧
        ∀ n, (c.result (n + 1)).1.shelf = r.keep c.editor.shelf := by
  constructor
  · obtain ⟨recorder, hturned, -⟩ := (ed.executeEach lines).execute_turned line
    rw [hstop] at hturned
    obtain ⟨middle, hearlier, hsome, -⟩ := hturned.split
    rw [hsome] at hearlier
    rcases hearlier.underWay with ⟨rfl, hbefore⟩ | ⟨hstarts, hempty, -⟩
    · exact .inr ⟨rfl, (underWay_captures h lines hbefore).2⟩
    · exact .inl ⟨hstarts, hempty⟩
  · have hmem : Turn.stops r ∈ (ed.executeEach lines).turns line := by simp [hstop]
    obtain ⟨c, hc, hturn⟩ := List.mem_filterMap.mp hmem
    exact ⟨c, hc, hturn, (Call.recorder_of_stops hturn).2⟩

/-- An editor with a macro that stops a recording and starts another. -/
def switching : Editor :=
  { context := { registers := { shelf := { store :=
    { macros := [("xx".toList, ["stop".toList, "rec b".toList])] } } } } }

/-- The line that plays the macro is in the recording that starts in it, and one that fails is not. -/
theorem recording_captures_switched :
    let lines := ["rec a".toList, "1ka".toList, "@xx".toList, "@q".toList, "pwd".toList]
    let r : Recording := { name := ['b'], append := false, commands := ["@xx".toList, "pwd".toList] }
    switching.session.recorder = none ∧
      (switching.executeEach lines).turns "stop".toList = [.stops r] ∧
      ∃ before first between, lines = before ++ first :: between ∧
        (switching.executeEach before).Captures first between r := by
  intro lines r
  have hstop : (switching.executeEach lines).turns "stop".toList = [] ++ .stops r :: [] := by decide +kernel
  rcases (recording_captures rfl lines "stop".toList hstop).1 with ⟨hlast, -⟩ | ⟨-, hcaptures⟩
  · cases hlast
  · exact ⟨rfl, hstop, hcaptures⟩

/-- A line in which one recording stops and another starts is recorded in the one that starts. -/
theorem switching_line_captured :
    (switching.executeEach ["rec a".toList, "1ka".toList]).turns "@xx".toList =
        [.stops { name := ['a'], append := false, commands := ["1ka".toList] },
          .starts { name := ['b'], append := false }] ∧
      (switching.executeEach ["rec a".toList, "1ka".toList, "@xx".toList, "1ka".toList, "stop".toList]).shelf.commands?
        ['b'] = some ["@xx\n".toList, "1ka\n".toList] := by
  decide +kernel

end Editor
end ExEditor
