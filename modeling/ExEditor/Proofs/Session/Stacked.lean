import ExEditor.Proofs.Session.Calls
import ExEditor.Proofs.Session.Steps
import ExEditor.Proofs.Session.Undo

/-! What is under way, kept on stacks that lines push to when they begin and pop from when they end. Running lines
this way comes to the same as handing what is under way on to them, so that every way out of a line, however it
nests, leaves the stacks as they were. -/
namespace ExEditor

/-- An editor with the stacks of what is under way. -/
structure Stacked where
  running : Running := {}
  editor : Editor := {}

namespace Stacked

/-- Stacks and editor after a command, and how it went. -/
abbrev Ending := Stacked × Outcome

/-- A way to run a line. -/
abbrev LineRun := Text → Stacked → Ending

/-- Change the editor. -/
def mapEditor (g : Editor → Editor) (s : Stacked) : Stacked := { s with editor := g s.editor }

/-- Put the result of a command in place, below the stacks as they are. -/
def put (s : Stacked) (r : Result) : Ending := ({ s with editor := r.1 }, r.2)

/-- Look whether everything is to stop. -/
def look (s : Stacked) : Bool × Stacked := (s.editor.look.1, { s with editor := s.editor.look.2 })

/-- A line begins. -/
def pushInvoking (line : Text) (s : Stacked) : Stacked :=
  { s with running := { s.running with invoking := s.running.invoking ++ [line] } }

/-- A line ends. -/
def popInvoking (s : Stacked) : Stacked :=
  { s with running := { s.running with invoking := s.running.invoking.dropLast } }

/-- A macro begins. -/
def pushPlaying (name : Text) (s : Stacked) : Stacked := { s with running := s.running.playingOf name }

/-- A macro ends. -/
def popPlaying (s : Stacked) : Stacked :=
  { s with running := { s.running with playing := s.running.playing.dropLast } }

/-- A script begins. -/
def pushSourcing (path : Text) (s : Stacked) : Stacked := { s with running := s.running.sourcingOf path }

/-- A script ends. -/
def popSourcing (s : Stacked) : Stacked :=
  { s with running := { s.running with sourcing := s.running.sourcing.dropLast } }

/-- Set whether a global command runs. -/
def setGlobal (inGlobal : Bool) (s : Stacked) : Stacked := { s with running := { s.running with inGlobal } }

section run
variable (run : LineRun)

/-- Run the lines of a macro, up to the first that fails. -/
def playLines (name : Text) : List Text → Stacked → Ending
  | [], s => (s, .success)
  | line :: rest, s =>
    match s.look with
    | (true, s) => (s, .failure .cancelled)
    | (false, s) =>
      match run line s with
      | (s, .failure failure) =>
        (s.mapEditor (·.tell ("macro " ++ name ++ " failed at: ".toList ++ line)), .failure failure)
      | (s, _) => playLines name rest s

/-- Run the lines of a macro a number of times. -/
def playTimes (name : Text) (lines : List Text) : Nat → Stacked → Ending
  | 0, s => (s, .success)
  | n + 1, s =>
    match playLines run name lines s with
    | (s, .failure failure) => (s, .failure failure)
    | (s, _) => playTimes name lines n s

/-- Play a macro a number of times. -/
def play (name : Text) (count : Int) (s : Stacked) : Ending :=
  if count ≤ 0 then (s, .success)
  else
    match Editor.playable s.running s.editor (Editor.macroKey name) with
    | .error failure => (s, .failure failure)
    | .ok [] => (s, .success)
    | .ok lines =>
      let (s, outcome) := playTimes run (Editor.macroKey name) lines count.toNat
        ((s.pushPlaying (Editor.macroKey name)).mapEditor (·.mapFrame Frame.openGroup))
      ((s.mapEditor (·.mapFrame Frame.closeGroup)).popPlaying, outcome)

/-- Play the macro that a command names. -/
def playCommand (count name : Text) (s : Stacked) : Ending :=
  if name.trim = [] then (s, .failure (.malformed .missingMacroName))
  else if count = [] then play run name.trim 1 s
  else
    match Calculator.evaluate s.editor.frame count with
    | .error failure => (s, .failure failure)
    | .ok count => play run name.trim count s

/-- Run the lines of a script, up to the first that fails. -/
def runScript : List Text → Stacked → Ending
  | [], s => (s, .success)
  | line :: rest, s =>
    if s.running.invoking.any fun under => Editor.bareInvocation under = line then
      (s, .failure (.recursion (.scriptLine line)))
    else
      match s.look with
      | (true, s) => (s, .failure .cancelled)
      | (false, s) =>
        match run line s with
        | (s, .success) => runScript rest s
        | (s, .message t) => runScript rest (s.mapEditor (·.tell t))
        | (s, .failure failure) => (s, .failure failure)

/-- Run a script. -/
def source (name : Text) (s : Stacked) : Ending :=
  let path := s.editor.scriptPath name
  if name.trim = [] then (s, .failure (.malformed .missingScriptName))
  else if s.running.sourcing.contains path then (s, .failure (.recursion (.sourcing path)))
  else
    match s.editor.shelf.files.readText path with
    | .error fault => (s, .failure (.io (.unreadable path fault.reason)))
    | .ok script =>
      let (s, outcome) := runScript run (Editor.scriptLines script) (s.pushSourcing path)
      (s.popSourcing, outcome)

/-- Run a command on each marked line that is still there, up to the first failure. -/
def visitLines (command : Text) : List Nat → Stacked → Ending
  | [], s => (s, .success)
  | line :: rest, s =>
    match s.look with
    | (true, s) => (s, .failure .cancelled)
    | (false, s) =>
      match s.editor.frame.mark? (.line line) with
      | none => visitLines command rest s
      | some offset =>
        match run command
          (s.mapEditor (·.mapFrame fun f => (f.unsetMark (.line line)).setCursor offset)) with
        | (s, .success) => visitLines command rest s
        | (s, .message t) => visitLines command rest (s.mapEditor (·.tell t))
        | (s, .failure failure) => (s, .failure failure)

/-- Run a command on the lines that match. A global command is not run inside another, so that the flag is
taken back when it ends. -/
def global (r : AddressRange) (t : Text) (invert : Bool) (s : Stacked) : Ending :=
  match Editor.beginGlobal s.running r t invert s.editor with
  | .error result => s.put result
  | .ok v =>
    let (s, outcome) := visitLines run v.command v.lines ({ s with editor := v.editor }.setGlobal true)
    ((s.mapEditor (·.mapFrame fun f => (Editor.unmarkLines f v.lines).closeGroup)).setGlobal false, outcome)

/-- Carry out a command. All but those that run lines leave the stacks alone. -/
def dispatch (c : Command) (s : Stacked) : Ending :=
  match c.verb with
  | .play => playCommand run c.range c.text s
  | .source => source run c.text s
  | .global invert =>
    match s.editor.resolveRange c.range ['%'] with
    | (.error failure, ed) => ({ s with editor := ed }, .failure failure)
    | (.ok r, ed) => global run r c.text invert { s with editor := ed }
  | _ => s.put (Editor.dispatch (fun _ _ ed => (ed, .success)) s.running c s.editor)

/-- Parse a command line and carry it out. -/
def runParsed (line : Text) (s : Stacked) : Ending :=
  match Command.parse line with
  | .error failure => (s, .failure failure)
  | .ok none => (s, .success)
  | .ok (some c) =>
    let s := s.mapEditor (·.log c)
    if !c.verb.takesRange && c.range ≠ [] then (s, .failure (.malformed (.rangeRefused c.verb.label)))
    else dispatch run c s

end run

/-- Run a command line. The first argument bounds how deep lines nest. -/
def runLine : Nat → LineRun
  | 0, _, s => (s, .failure (.recursion .tooDeep))
  | n + 1, line, s =>
    let (s, outcome) := runParsed (runLine n) line
      ((s.pushInvoking line).mapEditor (·.mapFrame Frame.openGroup))
    ((s.mapEditor (·.mapFrame Frame.closeGroup)).popInvoking, outcome)

/-- A way to run lines on stacks that comes to the same as one that is handed what is under way: whatever it
pushes it pops again. -/
def Restores (run : Runner) (runs : LineRun) : Prop :=
  ∀ line (s : Stacked), runs line s = s.put (run s.running line s.editor)

@[simp] theorem popPlaying_pushPlaying (name : Text) (s : Stacked) (ed : Editor) :
    popPlaying { s.pushPlaying name with editor := ed } = { s with editor := ed } := by
  simp [popPlaying, pushPlaying, Running.playingOf]

@[simp] theorem popSourcing_pushSourcing (path : Text) (s : Stacked) (ed : Editor) :
    popSourcing { s.pushSourcing path with editor := ed } = { s with editor := ed } := by
  simp [popSourcing, pushSourcing, Running.sourcingOf]

@[simp] theorem popInvoking_pushInvoking (line : Text) (s : Stacked) (ed : Editor) :
    popInvoking { s.pushInvoking line with editor := ed } = { s with editor := ed } := by
  simp [popInvoking, pushInvoking]

/-- The flag is taken back to what it was, since it was not set. -/
theorem setGlobal_setGlobal {s : Stacked} (h : s.running.inGlobal = false) (ed : Editor) :
    setGlobal false { s.setGlobal true with editor := ed } = { s with editor := ed } := by
  obtain ⟨⟨sourcing, invoking, playing, inGlobal⟩, ed'⟩ := s
  cases h
  rfl

namespace Restores
variable {run : Runner} {runs : LineRun} (h : Restores run runs)
include h

theorem playLines (name : Text) (lines : List Text) (s : Stacked) :
    playLines runs name lines s = s.put (Editor.playLines (run s.running) name lines s.editor) := by
  induction lines generalizing s with
  | nil => rfl
  | cons line rest ih =>
    unfold Stacked.playLines Editor.playLines look
    rcases s.editor.look with ⟨_ | _, ed⟩
    · have hline := h line { s with editor := ed }
      dsimp only at hline ⊢
      rw [hline]
      rcases run s.running line ed with ⟨ed', _ | _ | failure⟩
      · exact ih { s with editor := ed' }
      · exact ih { s with editor := ed' }
      · rfl
    · rfl

theorem playTimes (name : Text) (lines : List Text) (n : Nat) (s : Stacked) :
    playTimes runs name lines n s = s.put (Editor.playTimes (run s.running) name lines n s.editor) := by
  induction n generalizing s with
  | zero => rfl
  | succ n ih =>
    unfold Stacked.playTimes Editor.playTimes
    rw [h.playLines name lines s]
    rcases Editor.playLines (run s.running) name lines s.editor with ⟨ed', _ | _ | failure⟩
    · exact ih { s with editor := ed' }
    · exact ih { s with editor := ed' }
    · rfl

theorem play (name : Text) (count : Int) (s : Stacked) :
    play runs name count s = s.put (Editor.play run s.running name count s.editor) := by
  rw [Editor.play_eq]
  unfold Stacked.play
  split
  · rfl
  · rcases Editor.playable s.running s.editor (Editor.macroKey name) with failure | ⟨_ | ⟨line, rest⟩⟩
    · rfl
    · rfl
    · dsimp only
      rw [h.playTimes]
      exact congrArg (·, _) (popPlaying_pushPlaying (Editor.macroKey name) s _)

theorem playCommand (count name : Text) (s : Stacked) :
    playCommand runs count name s = s.put (Editor.playCommand run s.running count name s.editor) := by
  unfold Stacked.playCommand Editor.playCommand
  dsimp only
  split
  · rfl
  split
  · exact h.play name.trim 1 s
  · rcases Calculator.evaluate s.editor.frame count with failure | count
    · rfl
    · exact h.play name.trim count s

theorem runScript (lines : List Text) (s : Stacked) :
    runScript runs lines s = s.put (Editor.runScript run s.running lines s.editor) := by
  induction lines generalizing s with
  | nil => rfl
  | cons line rest ih =>
    unfold Stacked.runScript Editor.runScript look
    split
    · rfl
    rcases s.editor.look with ⟨_ | _, ed⟩
    · have hline := h line { s with editor := ed }
      dsimp only at hline ⊢
      rw [hline]
      rcases run s.running line ed with ⟨ed', _ | t | failure⟩
      · exact ih { s with editor := ed' }
      · exact ih { s with editor := ed'.tell t }
      · rfl
    · rfl

theorem source (name : Text) (s : Stacked) :
    source runs name s = s.put (Editor.source run s.running name s.editor) := by
  rw [Editor.source_eq]
  unfold Stacked.source
  dsimp only
  split
  · rfl
  split
  · rfl
  rcases s.editor.shelf.files.readText (s.editor.scriptPath name) with fault | script
  · rfl
  · dsimp only
    rw [h.runScript]
    exact congrArg (·, _) (popSourcing_pushSourcing (s.editor.scriptPath name) s _)

theorem visitLines (command : Text) (lines : List Nat) (s : Stacked) :
    visitLines runs command lines s =
      s.put (Editor.visitLines (run s.running command) lines s.editor) := by
  induction lines generalizing s with
  | nil => rfl
  | cons line rest ih =>
    unfold Stacked.visitLines Editor.visitLines look
    rcases s.editor.look with ⟨_ | _, ed⟩
    · dsimp only
      rcases ed.frame.mark? (.line line) with _ | offset
      · exact ih { s with editor := ed }
      · have hvisit := h command
          { s with editor := ed.mapFrame fun f => (f.unsetMark (.line line)).setCursor offset }
        dsimp only [mapEditor] at hvisit ⊢
        rw [hvisit]
        rcases run s.running command _ with ⟨ed', _ | t | failure⟩
        · exact ih { s with editor := ed' }
        · exact ih { s with editor := ed'.tell t }
        · rfl
    · rfl

theorem global (r : AddressRange) (t : Text) (invert : Bool) (s : Stacked) :
    global runs r t invert s = s.put (Editor.global run s.running r t invert s.editor) := by
  rw [Editor.global_eq]
  unfold Stacked.global
  rcases hb : Editor.beginGlobal s.running r t invert s.editor with result | v
  · rfl
  · obtain ⟨g, m, first, last, hprepared, -⟩ := Editor.beginGlobal_ok hb
    -- A global command that gets as far as its lines has found the flag down.
    have hflag := (Editor.prepareGlobal_ok hprepared).1
    dsimp only
    rw [h.visitLines]
    exact congrArg (·, _) (setGlobal_setGlobal hflag _)

theorem dispatch (c : Command) (s : Stacked) :
    dispatch runs c s = s.put (Editor.dispatch run s.running c s.editor) := by
  obtain ⟨range, verb, t, bang⟩ := c
  cases verb with
  | play => exact h.playCommand range t s
  | source => exact h.source t s
  | global invert =>
    unfold Stacked.dispatch Editor.dispatch Editor.onRange
    dsimp only
    rcases s.editor.resolveRange range ['%'] with ⟨failure | r, ed⟩
    · rfl
    · exact h.global r t invert { s with editor := ed }
  | _ => rfl

theorem runParsed (line : Text) (s : Stacked) :
    runParsed runs line s = s.put (Editor.runParsed run s.running line s.editor) := by
  unfold Stacked.runParsed Editor.runParsed
  rcases Command.parse line with failure | _ | c
  · rfl
  · rfl
  · dsimp only
    split
    · rfl
    · exact h.dispatch c (s.mapEditor (·.log c))

end Restores

/-- A line leaves the stacks as they were. -/
theorem restores_runLine (n : Nat) : Restores (Editor.runLine n) (runLine n) := by
  induction n with
  | zero => exact fun _ _ => rfl
  | succ n ih =>
    intro line s
    unfold runLine Editor.runLine
    dsimp only
    rw [ih.runParsed]
    exact congrArg (·, _) (popInvoking_pushInvoking line s _)

/-- Every way out of a line cleans up, a failure at any depth as well. Whatever is under way when a line begins, the
stacks and the flag are the same when it ends, as is the number of groups that are open, and the editor is the one
that running the line with what is under way handed on comes to. A line on its own, in an editor that has come to
be in any steps, leaves no mark in the text that only commands work with. -/
theorem runLine_cleans_up :
    (∀ (n : Nat) (line : Text) (s : Stacked),
      (runLine n line s).1.running = s.running ∧
        (runLine n line s).1.editor.frame.depth = s.editor.frame.depth ∧
        ((runLine n line s).1.editor, (runLine n line s).2) = Editor.runLine n s.running line s.editor) ∧
    (∀ (ed : Editor) (list : List Editor.Step) (n : Nat) (line : Text), ed.IsNew →
      let after := (runLine n line { editor := ed.steps list }).1.editor.frame
      after.mark? .rangeBegin = none ∧ after.mark? .rangeEnd = none ∧ ∀ k, after.mark? (.line k) = none) := by
  constructor
  · intro n line s
    rw [restores_runLine n line s]
    exact ⟨rfl, (Editor.stepwise_ran.runLine n s.running line s.editor).depth, rfl⟩
  · intro ed list n line hnew after
    have hnone : ed.frame.marks.NoneNew after.marks := by
      have hline := Editor.stepwise_noneNew.runLine n {} line (ed.steps list)
      have hafter : after = (Editor.runLine n {} line (ed.steps list)).1.frame :=
        congrArg (·.1.editor.frame) (restores_runLine n line { editor := ed.steps list })
      rw [hafter]
      exact (ed.noneNew_steps list).trans hline
    rw [hnew.marks] at hnone
    have hgone : ∀ id : MarkId, id.isWorking → after.mark? id = none := fun id hid =>
      Marks.get?_of_not_mem fun hmem => nomatch hnone id hmem hid
    exact ⟨hgone _ rfl, hgone _ rfl, fun k => hgone _ rfl⟩

/-- A macro that runs a script that runs a global command that plays a macro that fails at the first of two marked
lines, after a substitution: all four are left at once. -/
theorem runLine_cleans_up_nested :
    let ed : Editor := { Editor.ofText "x\nx\n".toList with
      context.registers.shelf :=
        { store := { macros := [("ab".toList, ["so /s".toList]), ("cd".toList, ["s/x/y/".toList, "k1".toList])] }
          files := { entries := [(([['s']], .file (.text "g/x/@cd\n".toList)))] } } }
    ((runLine 9 "@ab".toList { editor := ed.steps [.setCursor 2] }).2 =
        .failure (.malformed (.invalidMarkName ['1'])) ∧
      (runLine 9 "@ab".toList { editor := ed.steps [.setCursor 2] }).1.editor.frame.text = "y\nx\n".toList) ∧
      (runLine 9 "@ab".toList { editor := ed.steps [.setCursor 2] }).1.running = {} ∧
      let after := (runLine 9 "@ab".toList { editor := ed.steps [.setCursor 2] }).1.editor.frame
      after.mark? .rangeBegin = none ∧ after.mark? .rangeEnd = none ∧ ∀ k, after.mark? (.line k) = none := by
  intro ed
  have hnew : ed.IsNew := ⟨rfl, rfl, rfl, rfl⟩
  have hrunning := (runLine_cleans_up.1 9 "@ab".toList { editor := ed.steps [.setCursor 2] }).1
  have hmarks := runLine_cleans_up.2 ed [.setCursor 2] 9 "@ab".toList hnew
  exact ⟨by decide +kernel, hrunning, hmarks⟩

end Stacked
end ExEditor
