import ExEditor.Proofs.Register
import ExEditor.Proofs.Session.Steps

/-! Stays in the modes for text. One hook is called when such a mode is entered and another when it is left, and
what is typed in between is what the register for insertions holds afterwards. -/
namespace ExEditor

/-- What is called when a mode for text is entered, and when it is left. -/
inductive Hook
  | setup (mode : Mode)
  | restore
  deriving DecidableEq, Repr

/-- Whether hooks are called in turn, where `inside` says whether a mode for text is on before them. -/
def Hook.InTurn : Bool → List Hook → Prop
  | _, [] => True
  | inside, setup _ :: rest => inside = false ∧ InTurn true rest
  | inside, restore :: rest => inside = true ∧ InTurn false rest

/-- The hooks that an event calls. -/
def ModeState.Step.hooks (step : ModeState.Step) : List Hook :=
  match step.changed with
  | none => []
  | some (source, target) =>
    (if source.isInsert then [.restore] else []) ++ if target.isInsert then [.setup target] else []

namespace Registers
variable {c : Char} {name : RegisterName}

theorem slot?_ne_dot (hc : RegisterName.ofChar? c = some name) (hne : name ≠ .lastInsert) :
    name.slot? ≠ some ['.'] := by
  rcases name_of_char hc with ⟨l, hl, rfl | rfl⟩ | ⟨-, rfl | ⟨n, -, hn, rfl⟩⟩ | rfl | rfl | rfl
  · simp [RegisterName.slot?, hl.ne_dot]
  · simp [RegisterName.slot?, hl.ne_dot]
  · simp [RegisterName.slot?]
  · simpa [RegisterName.slot?] using ofNat_ne_singleton (c := '.') rfl hn
  · exact absurd rfl hne
  · simp [RegisterName.slot?]
  · simp [RegisterName.slot?]

theorem get_inserted (r : Registers) (t : Text) : (r.inserted t).get .lastInsert = t := by
  have hslot : RegisterName.lastInsert.slot? = some ['.'] := rfl
  rw [get_of_slot hslot, inserted, fragments_set, if_pos hslot]
  simp

/-- Keeping inserted text writes to no other register. -/
theorem get_inserted_of_ne (hc : RegisterName.ofChar? c = some name) (hne : name ≠ .lastInsert) (r : Registers)
    (t : Text) : (r.inserted t).get name = r.get name := by
  cases hslot : name.slot? with
  | some slot =>
    have hother : RegisterName.lastInsert.slot? ≠ some slot := fun h => slot?_ne_dot hc hne (hslot.trans h.symm)
    rw [get_of_slot hslot, get_of_slot hslot, inserted, fragments_set, if_neg hother]
  | none =>
    rw [get, get, hslot]
    rfl

end Registers

namespace ModeState

/-- A mode for text is left for one in which keys are commands. -/
theorem after_isInsert {mode : Mode} (h : mode.isInsert) (event : ModeEvent) (readOnly : Bool) :
    mode.after event readOnly = mode ∨ (mode.after event readOnly).isInsert = false := by
  cases mode <;> cases event <;> simp_all [Mode.after, Mode.isInsert]

/-- An event calls one hook if it leads into a mode for text or out of one, and none otherwise. -/
theorem hooks_handle (s : ModeState) (event : ModeEvent) (f : Frame) :
    (s.handle event f).hooks =
      if (s.handle event f).state.mode.isInsert = s.mode.isInsert then []
      else if s.mode.isInsert then [.restore] else [.setup (s.handle event f).state.mode] := by
  have hleft := fun h : s.mode.isInsert => after_isInsert h event f.readOnly
  unfold handle
  dsimp only
  generalize s.mode.after event f.readOnly = target at *
  split
  · rw [if_pos rfl]
    rfl
  · next hmoves =>
    dsimp only [Step.hooks]
    cases hs : s.mode.isInsert with
    | true => simp [(hleft hs).resolve_left hmoves]
    | false => cases ht : target.isInsert <;> simp

end ModeState

namespace Editor

/-- Whether the mode is one for text. -/
def inserting (ed : Editor) : Bool := ed.session.modes.mode.isInsert

/-- What a hook does. -/
def hook (ed : Editor) : Hook → Editor
  | .setup _ => { ed with session := { ed.session with inserted := [] } }
  | .restore =>
    if ed.session.inserted = [] then ed else ed.mapRegisters (·.inserted ed.session.inserted)

theorem hook_modes (ed : Editor) (h : Hook) : (ed.hook h).session.modes = ed.session.modes := by
  cases h with
  | setup mode => rfl
  | restore => rw [hook]; split <;> rfl

theorem foldl_hook_modes (ed : Editor) (hooks : List Hook) :
    (hooks.foldl hook ed).session.modes = ed.session.modes := by
  induction hooks generalizing ed with
  | nil => rfl
  | cons h rest ih => exact (ih _).trans (ed.hook_modes h)

/-- The editor with the mode and the frame that an event leads to. -/
def moved (ed : Editor) (step : ModeState.Step) : Editor :=
  { ed with session := { ed.session with modes := step.state, frame := step.frame } }

theorem hook_restore_moved (ed : Editor) (step : ModeState.Step) :
    (ed.moved step).hook .restore = (ed.hook .restore).moved step := by
  have hsame : (ed.moved step).session.inserted = ed.session.inserted := rfl
  rw [hook, hook, hsame]
  split <;> rfl

/-- An event changes the mode and the frame and calls its hooks. -/
theorem handleMode_eq (ed : Editor) (event : ModeEvent) :
    (ed.handleMode event).1 = (ed.session.modes.handle event ed.frame).hooks.foldl hook
      (ed.moved (ed.session.modes.handle event ed.frame)) := by
  unfold handleMode ModeState.Step.hooks
  dsimp only
  generalize ed.session.modes.handle event ed.frame = step
  obtain ⟨state, frame, _ | ⟨source, target⟩⟩ := step
  · rfl
  · cases hs : source.isInsert <;> cases ht : target.isInsert <;>
      by_cases hnone : ed.session.inserted = [] <;> simp [hnone, hs, ht, hook, moved, mapRegisters]

/-- A step of a run, with the editor that it is made in. -/
structure Moment where
  editor : Editor
  step : Step

namespace Moment

/-- The editor after the step. -/
def after (m : Moment) : Editor := m.editor.step m.step

def Enters (m : Moment) : Prop := m.editor.inserting = false ∧ m.after.inserting = true

def Leaves (m : Moment) : Prop := m.editor.inserting = true ∧ m.after.inserting = false

def Stays (m : Moment) : Prop := m.editor.inserting = true ∧ m.after.inserting = true

instance (m : Moment) : Decidable m.Enters := inferInstanceAs (Decidable (_ ∧ _))

instance (m : Moment) : Decidable m.Leaves := inferInstanceAs (Decidable (_ ∧ _))

/-- The hooks that the step calls. -/
def hooks (m : Moment) : List Hook :=
  match m.step with
  | .handleMode event => (m.editor.session.modes.handle event m.editor.frame).hooks
  | _ => []

/-- The text that is typed, none if it is refused. -/
def typed (m : Moment) : Text :=
  match m.step with
  | .typeText t => if (m.editor.typeText t).isOk then t else []
  | _ => []

end Moment

/-- The moments of a run of steps. -/
def moments (ed : Editor) : List Step → List Moment
  | [] => []
  | step :: rest => ⟨ed, step⟩ :: (ed.step step).moments rest

/-- Text is typed only in a mode for text, and neither the mode nor what sessions share changes with it. -/
theorem typeText_ok {ed ed' : Editor} {t : Text} (h : ed.typeText t = .ok ed') :
    ed.inserting ∧
      ∃ frame, ed' = { ed with session := { ed.session with frame, inserted := ed.session.inserted ++ t } } := by
  unfold typeText at h
  dsimp only at h
  split at h
  · cases h
  · next hmode =>
    split at h
    · cases h
    · cases h
      exact ⟨by simpa [inserting] using hmode, _, rfl⟩

theorem typeText_refused {ed : Editor} (h : ed.inserting = false) (t : Text) :
    ed.typeText t = .error .notInserting := by
  have hmode : ed.session.modes.mode.isInsert = false := h
  simp [typeText, hmode]

namespace Moment
variable {m : Moment}

/-- What a step of typing does, by the modes before it and after it. -/
inductive Goes (m : Moment) : Prop
  | enters (modes : m.Enters) (hooks : m.hooks = [.setup m.after.session.modes.mode])
      (inserted : m.after.session.inserted = []) (context : m.after.context = m.editor.context)
  | leaves (modes : m.Leaves) (hooks : m.hooks = [.restore])
      (context : m.after.context = (m.editor.hook .restore).context)
  | stays (modes : m.Stays) (hooks : m.hooks = [])
      (inserted : m.after.session.inserted = m.editor.session.inserted ++ m.typed)
      (context : m.after.context = m.editor.context)
  | outside (before : m.editor.inserting = false) (after : m.after.inserting = false) (hooks : m.hooks = [])
      (typed : ∀ t, m.step = .typeText t → m.after = m.editor) (context : m.after.context = m.editor.context)

theorem after_typeText (ed : Editor) (t : Text) :
    (Moment.mk ed (.typeText t)).after = (ed.typeText t).toOption.getD ed := rfl

theorem typed_typeText (ed : Editor) (t : Text) :
    (Moment.mk ed (.typeText t)).typed = if (ed.typeText t).isOk then t else [] := rfl

theorem goes_typeText (ed : Editor) (t : Text) : Goes ⟨ed, .typeText t⟩ := by
  have hafter := after_typeText ed t
  have htext := typed_typeText ed t
  cases htyped : ed.typeText t with
  | ok ed' =>
    obtain ⟨hin, frame, rfl⟩ := typeText_ok htyped
    rw [htyped] at hafter htext
    exact .stays ⟨hin, by rw [hafter]; exact hin⟩ rfl (by rw [hafter, htext]; rfl) (by rw [hafter]; rfl)
  | error fault =>
    rw [htyped] at hafter htext
    cases hin : ed.inserting with
    | true =>
      refine .stays ⟨hin, by rw [hafter]; exact hin⟩ rfl ?_ (by rw [hafter]; rfl)
      rw [hafter, htext]
      exact (List.append_nil _).symm
    | false => exact .outside hin (by rw [hafter]; exact hin) rfl (fun _ _ => hafter) (by rw [hafter]; rfl)

theorem goes_handleMode (ed : Editor) (event : ModeEvent) : Goes ⟨ed, .handleMode event⟩ := by
  have hafter : (Moment.mk ed (.handleMode event)).after =
      (Moment.mk ed (.handleMode event)).hooks.foldl hook (ed.moved (ed.session.modes.handle event ed.frame)) :=
    ed.handleMode_eq event
  have hhooks : (Moment.mk ed (.handleMode event)).hooks = _ := ed.session.modes.hooks_handle event ed.frame
  have htyped : (Moment.mk ed (.handleMode event)).typed = [] := rfl
  generalize ed.session.modes.handle event ed.frame = step at *
  have hmodes : (Moment.mk ed (.handleMode event)).after.session.modes = step.state := by
    rw [hafter]
    exact foldl_hook_modes _ _
  cases hb : ed.session.modes.mode.isInsert <;> cases ha : step.state.mode.isInsert <;>
    simp only [ha, hb, if_true, if_false, Bool.true_eq_false, Bool.false_eq_true] at hhooks <;>
    rw [hhooks] at hafter <;> rw [← hmodes] at ha
  · exact .outside hb ha hhooks (fun t ht => by cases ht) (by rw [hafter]; rfl)
  · exact .enters ⟨hb, ha⟩ (by rw [hhooks, hmodes]) (by rw [hafter]; rfl) (by rw [hafter]; rfl)
  · refine .leaves ⟨hb, ha⟩ hhooks ?_
    rw [hafter, List.foldl_cons, hook_restore_moved]
    rfl
  · refine .stays ⟨hb, ha⟩ hhooks ?_ (by rw [hafter]; rfl)
    rw [hafter]
    exact (List.append_nil _).symm

theorem goes (h : m.step.isTyping) : m.Goes := by
  obtain ⟨ed, step⟩ := m
  cases step with
  | handleMode event => exact goes_handleMode ed event
  | typeText t => exact goes_typeText ed t
  | _ => cases h

theorem hooks_eq (h : m.step.isTyping) : m.hooks =
    if m.Enters then [.setup m.after.session.modes.mode] else if m.Leaves then [.restore] else [] := by
  cases goes h with
  | enters modes hooks => rw [if_pos modes, hooks]
  | leaves modes hooks => rw [if_neg (by simp [Enters, modes.1]), if_pos modes, hooks]
  | stays modes hooks => rw [if_neg (by simp [Enters, modes.1]), if_neg (by simp [Leaves, modes.2]), hooks]
  | outside before after hooks => rw [if_neg (by simp [Enters, after]), if_neg (by simp [Leaves, before]), hooks]

end Moment

/-- That some moments end within a stay, in which a text has been typed. The stay has begun with one of them, or
before them. -/
inductive EndsStay (ed : Editor) : List Moment → Text → Prop
  | entered {before stay : List Moment} {enter : Moment} (h : enter.Enters) (hstay : ∀ m ∈ stay, m.Stays) :
    EndsStay ed (before ++ enter :: stay) (stay.flatMap Moment.typed)
  | inside {stay : List Moment} (h : ed.inserting) (hstay : ∀ m ∈ stay, m.Stays) :
    EndsStay ed stay (ed.session.inserted ++ stay.flatMap Moment.typed)

section run
variable {ed : Editor} {steps : List Step} (h : ∀ step ∈ steps, step.isTyping)
include h

theorem hooks_inTurn : Hook.InTurn ed.inserting ((ed.moments steps).flatMap Moment.hooks) := by
  induction steps generalizing ed with
  | nil => trivial
  | cons step rest ih =>
    have hrest : Hook.InTurn (ed.step step).inserting (((ed.step step).moments rest).flatMap Moment.hooks) :=
      ih fun s hs => h s (List.mem_cons_of_mem _ hs)
    rw [moments, List.flatMap_cons]
    cases Moment.goes (m := ⟨ed, step⟩) (h step List.mem_cons_self) with
    | enters modes hooks =>
      rw [hooks]
      exact ⟨modes.1, modes.2 ▸ hrest⟩
    | leaves modes hooks =>
      rw [hooks]
      exact ⟨modes.1, modes.2 ▸ hrest⟩
    | stays modes hooks =>
      rw [hooks, List.nil_append, show ed.inserting = true from modes.1, ← modes.2]
      exact hrest
    | outside before after hooks =>
      rw [hooks, List.nil_append, show ed.inserting = false from before, ← after]
      exact hrest

/-- Where a mode for text is left, all has been kept that was typed since it was entered. -/
theorem leaves_typed {front back : List Moment} {leave : Moment} (hsplit : ed.moments steps = front ++ leave :: back)
    (hleave : leave.Leaves) : EndsStay ed front leave.editor.session.inserted := by
  induction steps generalizing ed front with
  | nil => simp [moments] at hsplit
  | cons step rest ih =>
    rw [moments] at hsplit
    cases front with
    | nil =>
      obtain ⟨rfl, -⟩ := List.cons.inj hsplit
      have hstart : EndsStay ed [] (ed.session.inserted ++ [].flatMap Moment.typed) := .inside hleave.1 (by simp)
      rwa [List.flatMap_nil, List.append_nil] at hstart
    | cons m front =>
      obtain ⟨rfl, hrest⟩ := List.cons.inj hsplit
      generalize hin : leave.editor.session.inserted = t
      have hends := ih (fun s hs => h s (List.mem_cons_of_mem _ hs)) hrest
      rw [hin] at hends
      cases hends with
      | @entered before stay enter henter hstay =>
        change EndsStay ed ((⟨ed, step⟩ :: before) ++ enter :: stay) _
        exact .entered henter hstay
      | inside hinside hstay =>
        have hin : (Moment.mk ed step).after.inserting := hinside
        cases Moment.goes (m := ⟨ed, step⟩) (h step List.mem_cons_self) with
        | enters modes hooks hnone context =>
          have hempty : (ed.step step).session.inserted = [] := hnone
          rw [hempty]
          change EndsStay ed ([] ++ ⟨ed, step⟩ :: front) _
          exact .entered modes hstay
        | stays modes hooks hinserted context =>
          have htyped : (ed.step step).session.inserted = ed.session.inserted ++ (Moment.mk ed step).typed := hinserted
          rw [htyped, List.append_assoc]
          exact .inside modes.1 (List.forall_mem_cons.mpr ⟨modes, hstay⟩)
        | leaves modes => rw [modes.2] at hin; cases hin
        | outside before after => rw [after] at hin; cases hin

theorem isTyping_of_mem {m : Moment} (hm : m ∈ ed.moments steps) : m.step.isTyping := by
  induction steps generalizing ed with
  | nil => cases hm
  | cons step rest ih =>
    rcases List.mem_cons.mp hm with rfl | hm
    · exact h step List.mem_cons_self
    · exact ih (fun s hs => h s (List.mem_cons_of_mem _ hs)) hm

end run

/-- Only where a mode for text is left with something typed a register is written, and only that for insertions. -/
theorem Moment.leaves_registers {m : Moment} (h : m.step.isTyping) (hleave : m.Leaves) :
    m.after.context.registers.get .lastInsert =
        (if m.editor.session.inserted = [] then m.editor.context.registers.get .lastInsert
         else m.editor.session.inserted) ∧
      ∀ c name, RegisterName.ofChar? c = some name → name ≠ .lastInsert →
        m.after.context.registers.get name = m.editor.context.registers.get name := by
  cases goes h with
  | leaves modes hooks context =>
    rw [context, hook]
    split
    · exact ⟨rfl, fun _ _ _ _ => rfl⟩
    · exact ⟨Registers.get_inserted _ _, fun c name hc hne => Registers.get_inserted_of_ne hc hne _ _⟩
  | enters modes => simp [Leaves, modes.1] at hleave
  | stays modes => simp [Leaves, modes.2] at hleave
  | outside before => simp [Leaves, before] at hleave

theorem Moment.registers_eq {m : Moment} (h : m.step.isTyping) (hleave : ¬ m.Leaves) :
    m.after.context.registers = m.editor.context.registers := by
  cases goes h with
  | leaves modes => exact absurd modes hleave
  | enters _ _ _ context | stays _ _ _ context | outside _ _ _ _ context => rw [context]

theorem Moment.typed_outside {m : Moment} (h : m.step.isTyping) (hout : m.editor.inserting = false) {t : Text}
    (ht : m.step = .typeText t) : m.after = m.editor := by
  obtain ⟨ed, step⟩ := m
  obtain rfl := ht
  rw [after_typeText, typeText_refused hout]
  rfl

/-- In every run of events and of text that is typed, the two hooks are called in turn, one where a mode for text is
entered and one where it is left. Text is typed only in between. Where such a mode is left, the register for insertions
gets what was typed since it was entered, and keeps what it holds if that is nothing; nothing else writes to a
register. -/
theorem lastInsert_holds_typed (ed : Editor) {steps : List Step} (h : ∀ step ∈ steps, step.isTyping) :
    Hook.InTurn ed.inserting ((ed.moments steps).flatMap Moment.hooks) ∧
      (∀ m ∈ ed.moments steps,
        m.hooks = (if m.Enters then [.setup m.after.session.modes.mode] else if m.Leaves then [.restore] else []) ∧
          (∀ event, m.step = .handleMode event →
            m.after = m.hooks.foldl hook (m.editor.moved (m.editor.session.modes.handle event m.editor.frame))) ∧
          (∀ t, m.step = .typeText t → m.editor.inserting = false → m.after = m.editor) ∧
          (¬ m.Leaves → m.after.context.registers = m.editor.context.registers)) ∧
      ∀ front leave back, ed.moments steps = front ++ leave :: back → leave.Leaves →
        ∃ typed, EndsStay ed front typed ∧
          leave.after.context.registers.get .lastInsert =
            (if typed = [] then leave.editor.context.registers.get .lastInsert else typed) ∧
          ∀ c name, RegisterName.ofChar? c = some name → name ≠ .lastInsert →
            leave.after.context.registers.get name = leave.editor.context.registers.get name := by
  refine ⟨hooks_inTurn h, fun m hm => ?_, fun front leave back hsplit hleave => ?_⟩
  · have htyping := isTyping_of_mem h hm
    refine ⟨Moment.hooks_eq htyping, fun event he => ?_, fun t ht hout => Moment.typed_outside htyping hout ht,
      Moment.registers_eq htyping⟩
    obtain ⟨ed', step⟩ := m
    obtain rfl := he
    exact ed'.handleMode_eq event
  · have hmem : leave ∈ ed.moments steps := by simp [hsplit]
    exact ⟨_, leaves_typed h hsplit hleave, Moment.leaves_registers (isTyping_of_mem h hmem) hleave⟩

/-- Two stays, in one of which something is typed and in the other nothing. What is typed before them is refused, and
the event in the first of them leads nowhere. -/
theorem lastInsert_holds_typed_twice :
    let ed := ofText ['x']
    let steps : List Step := [.typeText ['n'], .handleMode (.insert .append), .typeText ['a', 'b'],
      .handleMode .visual, .typeText ['c'], .handleMode .escape, .handleMode .visualBlock,
      .handleMode (.insert .insert), .handleMode .escape]
    let leave : Moment := ⟨ed.steps (steps.take 5), .handleMode .escape⟩
    (∀ step ∈ steps, step.isTyping) ∧ leave.Leaves ∧
      ed.moments steps = (ed.moments steps).take 5 ++ leave :: (ed.moments steps).drop 6 ∧
      Hook.InTurn false [.setup .insert, .restore, .setup .insertBlock, .restore] ∧
      (∃ typed, EndsStay ed ((ed.moments steps).take 5) typed ∧
        leave.after.context.registers.get .lastInsert =
          if typed = [] then leave.editor.context.registers.get .lastInsert else typed) ∧
      leave.after.context.registers.get .lastInsert = ['a', 'b', 'c'] ∧
      (ed.steps steps).context.registers.get .lastInsert = ['a', 'b', 'c'] := by
  intro ed steps leave
  have htyping : ∀ step ∈ steps, step.isTyping := by simp [steps, Step.isTyping]
  have hleaves : leave.Leaves := by decide
  have hsplit : ed.moments steps = (ed.moments steps).take 5 ++ leave :: (ed.moments steps).drop 6 := rfl
  have hhooks : (ed.moments steps).flatMap Moment.hooks =
      [.setup .insert, .restore, .setup .insertBlock, .restore] := by decide
  obtain ⟨hturn, -, hleft⟩ := lastInsert_holds_typed ed htyping
  obtain ⟨typed, hends, hget, -⟩ := hleft _ _ _ hsplit hleaves
  rw [hhooks] at hturn
  exact ⟨htyping, hleaves, hsplit, hturn, ⟨typed, hends, hget⟩, by decide, by decide⟩

end Editor
end ExEditor
