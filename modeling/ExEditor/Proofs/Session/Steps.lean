import ExEditor.Proofs.Frame.Edited
import ExEditor.Proofs.Session.Stepwise
import ExEditor.Session.Execute
import ExEditor.Session.Typing

/-! The editors that a session can come to: by command lines, by changes of mode and typing, and by what
its front end does to the frame. -/
namespace ExEditor

/-- What a front end may do to a frame by itself. It closes the groups that it opens. -/
inductive Frame.Touched : Frame → Frame → Prop
  | none (f : Frame) : Touched f f
  | trans {f g k : Frame} : Touched f g → Touched g k → Touched f k
  | insert (f : Frame) (offset : Nat) (t : Text) : Touched f (f.insert offset t)
  | delete (f : Frame) (a b : Nat) : Touched f (f.delete a b)
  | setCursor (f : Frame) (offset : Nat) : Touched f (f.setCursor offset)
  | select (f : Frame) (s : Selection) : Touched f (f.select s)
  | setMark (f : Frame) (id : MarkId) (offset : Nat) : Touched f (f.setMark id offset)
  | unsetMark (f : Frame) (id : MarkId) : Touched f (f.unsetMark id)
  | clearMarksWithin (f : Frame) (a b : Nat) : Touched f (f.clearMarksWithin a b)
  | undo (f : Frame) : Touched f f.undo.1
  | group {f g : Frame} : Touched f.openGroup g → Touched f g.closeGroup

theorem Frame.Touched.depth {f g : Frame} (h : f.Touched g) : g.depth = f.depth := by
  induction h with
  | none f => rfl
  | trans _ _ ih ih' => exact ih'.trans ih
  | insert f offset t => exact (f.edited_insert offset t).depth
  | delete f a b => exact (f.edited_delete a b).depth
  | setCursor f offset => rfl
  | select f s => rfl
  | setMark f id offset => rfl
  | unsetMark f id => rfl
  | clearMarksWithin f a b => rfl
  | undo f => exact f.undo_depth
  | group _ ih => exact congrArg (· - 1) ih

theorem InsertCommand.edited_prepare (c : InsertCommand) (f : Frame) : f.Edited (c.prepare f) := by
  cases c with
  | append => exact f.edited_setCursor _
  | insert => exact .refl f
  | openBelow => exact (f.edited_insert _ _).trans (Frame.edited_setCursor _ _)
  | appendEol => exact f.edited_setCursor _
  | changeEol => exact (f.edited_delete _ _).trans (Frame.edited_setCursor _ _)
  | insertBol => exact f.edited_setCursor _
  | openAbove => exact (f.edited_insert _ _).trans (Frame.edited_setCursor _ _)
  | overtype => exact .refl f
  | change =>
    unfold prepare
    dsimp only
    split
    · exact .refl f
    · exact (f.edited_delete _ _).trans (Frame.edited_setCursor _ _)

namespace ModeState

theorem edited_reselect (source target : Mode) (f : Frame) : f.Edited (reselect source target f) := by
  cases target with
  | command =>
    unfold reselect
    dsimp only
    split
    · exact f.edited_select _
    · exact .refl f
  | insert => exact .refl f
  | insertBlock => exact .refl f
  | visual => exact f.edited_select _
  | visualLine => exact f.edited_select _
  | visualBlock => exact f.edited_select _

theorem edited_handle (s : ModeState) (event : ModeEvent) (f : Frame) :
    f.Edited (s.handle event f).frame := by
  unfold handle
  dsimp only
  split
  · exact .refl f
  · cases event with
    | insert command => exact (command.edited_prepare f).trans (edited_reselect _ _ _)
    | _ => exact edited_reselect _ _ _

end ModeState

namespace Editor

theorem edited_handleMode (ed : Editor) (event : ModeEvent) :
    ed.frame.Edited (ed.handleMode event).1.frame := by
  have h := ed.session.modes.edited_handle event ed.frame
  unfold handleMode
  dsimp only
  split
  · exact h
  · dsimp only
    split <;> exact h

theorem edited_typeText {ed after : Editor} {t : Text} (h : ed.typeText t = .ok after) :
    ed.frame.Edited after.frame := by
  unfold typeText at h
  split at h
  · cases h
  · dsimp only at h
    split at h
    · cases h
    · next frame hf =>
      cases h
      refine Frame.Edited.trans ?_ (frame.edited_setCursor _)
      split at hf
      · obtain ⟨room, -, rfl⟩ := Option.map_eq_some_iff.mp hf
        exact Frame.edited_replace _ _ _ _
      · cases hf
        exact Frame.edited_insert _ _ _

theorem edited_insertVariable (ed : Editor) (name : Text) :
    ed.frame.Edited (ed.insertVariable name).1.frame := by
  unfold insertVariable
  split
  · exact .refl _
  · have hexpand : (ed.expandVariable name).2.frame = ed.frame := rfl
    rcases hx : ed.expandVariable name with ⟨failure | t, ed'⟩ <;> rw [hx] at hexpand <;>
      rw [← hexpand]
    · exact .refl _
    · exact (Frame.edited_insert _ _ _).trans (Frame.edited_setCursor _ _)

/-- An editor to which its front end and its user have led. -/
inductive Reachable : Editor → Prop
  /-- A session on a frame in which nothing has been done yet. -/
  | start {ed : Editor} (hd : ed.frame.depth = 0) (hh : ed.frame.history = []) : Reachable ed
  | execute {ed : Editor} (h : Reachable ed) (line : Text) : Reachable (ed.execute line).1
  | playMacro {ed : Editor} (h : Reachable ed) (name : Text) (count : Int) :
    Reachable (ed.playMacro name count).1
  | handleMode {ed : Editor} (h : Reachable ed) (event : ModeEvent) : Reachable (ed.handleMode event).1
  | typeText {ed after : Editor} {t : Text} (h : Reachable ed) (ht : ed.typeText t = .ok after) :
    Reachable after
  | insertVariable {ed : Editor} (h : Reachable ed) (name : Text) : Reachable (ed.insertVariable name).1
  | touch {ed : Editor} {f : Frame} (h : Reachable ed) (hf : ed.frame.Touched f) :
    Reachable (ed.mapFrame fun _ => f)
  /-- All but the frame may change at any time. -/
  | aside {ed after : Editor} (h : Reachable ed) (hf : after.frame = ed.frame) : Reachable after

/-! What front ends do with an editor, step by step. Between the steps no mark is set that only commands work
with. -/

/-- An editor on a frame that has just been made, in which nothing has been done. -/
structure IsNew (ed : Editor) : Prop where
  history : ed.frame.history = []
  depth : ed.frame.depth = 0
  marks : ed.frame.marks = []
  modes : ed.session.modes = {}

/-- What a front end can do with an editor. -/
inductive Step
  /-- A command line is typed. -/
  | execute (line : Text)
  /-- A macro is played by a key. -/
  | playMacro (name : Text) (count : Int)
  | handleMode (event : ModeEvent)
  | typeText (t : Text)
  | insertVariable (name : Text)
  | undo
  | setCursor (offset : Nat)
  | select (s : Selection)
  /-- A mark is set by its name. -/
  | setMark (name : Char) (offset : Nat)
  | unsetMark (name : Char)
  /-- Time passes. All but the frame and the mode may be another afterwards. -/
  | aside (session : Session) (context : Context) (host : Host)

/-- Whether a step is one of typing text: it is typed, or the mode is changed for it. -/
def Step.isTyping : Step → Bool
  | handleMode _ | typeText _ => true
  | _ => false

/-- The editor after a step. -/
def step (ed : Editor) : Step → Editor
  | .execute line => (ed.execute line).1
  | .playMacro name count => (ed.playMacro name count).1
  | .handleMode event => (ed.handleMode event).1
  | .typeText t => (ed.typeText t).toOption.getD ed
  | .insertVariable name => (ed.insertVariable name).1
  | .undo => ed.undo.1
  | .setCursor offset => ed.mapFrame (·.setCursor offset)
  | .select s => ed.mapFrame (·.select s)
  | .setMark name offset => ed.mapFrame (·.setMark (.named name) offset)
  | .unsetMark name => ed.mapFrame (·.unsetMark (.named name))
  | .aside session context host =>
    { session := { session with frame := ed.session.frame, modes := ed.session.modes }, context, host }

/-- The editor after steps. -/
def steps (ed : Editor) (list : List Step) : Editor := list.foldl step ed

/-! The marks that commands work with. -/

theorem unmarkLines_unsetMark (f : Frame) (id : MarkId) (lines : List Nat) :
    unmarkLines (f.unsetMark id) lines = (unmarkLines f lines).unsetMark id := by
  induction lines generalizing f with
  | nil => rfl
  | cons line rest ih =>
    calc unmarkLines (f.unsetMark id) (line :: rest)
        = unmarkLines ((f.unsetMark (.line line)).unsetMark id) rest := by rw [Frame.unsetMark_comm]; rfl
      _ = (unmarkLines f (line :: rest)).unsetMark id := ih _

/-- Lines that are marked and unmarked again leave no mark behind. -/
theorem noneNew_marked {f g : Frame} {lines : List Nat} (h : (markLines f lines).marks.NoneNew g.marks) :
    f.marks.NoneNew (unmarkLines g lines).marks := by
  induction lines generalizing f with
  | nil => exact h
  | cons line rest ih =>
    -- The first line is marked first and unmarked first, so its mark is moved to the end to go last.
    have hrest : (f.setMark (.line line) (f.lineStart line)).marks.NoneNew (unmarkLines g rest).marks := ih h
    change f.marks.NoneNew (unmarkLines (g.unsetMark (.line line)) rest).marks
    rw [unmarkLines_unsetMark]
    exact hrest.bracket

/-- Whatever a line runs, it leaves no working mark behind that was not there. -/
theorem stepwise_noneNew : Stepwise fun ed after => ed.frame.marks.NoneNew after.frame.marks where
  trans := .trans
  worked h := h.frame.marks
  log ed _ _ := .refl ed.frame.marks
  undo ed _ _ _ := ed.frame.undo_marks
  group {ed after} h := by
    have hopen : ed.frame.remember.marks.NoneNew after.frame.marks := h
    rwa [ed.frame.remember_marks] at hopen
  marked h := noneNew_marked h

theorem noneNew_step (ed : Editor) (step : Step) : ed.frame.marks.NoneNew (ed.step step).frame.marks := by
  cases step with
  | execute line => exact stepwise_noneNew.execute ed line
  | playMacro name count => exact stepwise_noneNew.playMacro ed name count
  | handleMode event => exact (ed.edited_handleMode event).marks
  | typeText t =>
    dsimp only [Editor.step]
    rcases h : ed.typeText t with fault | after
    · exact .refl _
    · exact (edited_typeText h).marks
  | insertVariable name => exact (ed.edited_insertVariable name).marks
  | undo => exact ed.frame.undo_marks
  | setCursor offset => exact (ed.frame.edited_setCursor offset).marks
  | select s => exact (ed.frame.edited_select s).marks
  | setMark name offset => exact (ed.frame.edited_setNamed name offset).marks
  | unsetMark name => exact (ed.frame.edited_unsetMark _).marks
  | aside session context host => exact .refl _

theorem noneNew_steps (ed : Editor) (list : List Step) :
    ed.frame.marks.NoneNew (ed.steps list).frame.marks := by
  induction list generalizing ed with
  | nil => exact .refl _
  | cons step rest ih => exact (ed.noneNew_step step).trans (ih _)

end Editor
end ExEditor
