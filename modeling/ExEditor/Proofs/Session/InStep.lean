import ExEditor.Proofs.Address.Resolve
import ExEditor.Proofs.Frame.Present
import ExEditor.Session.Execute

/-! Commands go on from the present: what an editor has shown and logged, and the texts that it could go back
to, have no part in what it does, unless something is undone. Two editors that differ in nothing else stay in
step. -/
namespace ExEditor

namespace Host

/-- The surroundings without what went out to them. -/
def present (h : Host) : Host := { h with events := [], displayed := [], log := [] }

variable {h h' : Host}

/-- The flag is seen the same. -/
theorem look_congr (hp : h.present = h'.present) :
    h.look.1 = h'.look.1 ∧ h.look.2.present = h'.look.2.present := by
  have hlook : ∀ h : Host, h.present.look = (h.look.1, h.look.2.present) := fun h => by
    rcases hc : h.cancelsAfter with _ | _ | n <;> simp [look, present, hc]
  have heq := hlook h
  rw [hp, hlook h', Prod.mk.injEq] at heq
  exact ⟨heq.1.symm, heq.2.symm⟩

/-- A question is answered the same. -/
theorem confirm_congr (hp : h.present = h'.present) (question : Text) (selection : Selection) :
    (h.confirm question selection).1 = (h'.confirm question selection).1 ∧
      (h.confirm question selection).2.present = (h'.confirm question selection).2.present := by
  have hconfirm : ∀ h : Host, (h.confirm question selection).1 = (h.present.confirm question selection).1 ∧
      (h.confirm question selection).2.present = (h.present.confirm question selection).2.present := fun h => by
    rcases hc : h.confirms with _ | ⟨reply, rest⟩ <;> simp [confirm, present, note, hc]
  rw [(hconfirm h).1, (hconfirm h).2, (hconfirm h').1, (hconfirm h').2, hp]
  exact ⟨rfl, rfl⟩

/-- A command runs the same. -/
theorem run_congr (hp : h.present = h'.present) (files : FileTree) (command directory : Text)
    (file : Option Text) :
    (h.run files command directory file).1 = (h'.run files command directory file).1 ∧
      (h.run files command directory file).2.1.present = (h'.run files command directory file).2.1.present ∧
      (h.run files command directory file).2.2 = (h'.run files command directory file).2.2 := by
  have hrun : ∀ h : Host,
      (h.run files command directory file).1 = (h.present.run files command directory file).1 ∧
        (h.run files command directory file).2.1.present =
          (h.present.run files command directory file).2.1.present ∧
        (h.run files command directory file).2.2 = (h.present.run files command directory file).2.2 := by
    intro h
    rcases hp : h.processes with _ | ⟨⟨_ | _, cancels⟩, rest⟩
    · rcases hw : h.withoutProcess with result | _ <;> simp [run, present, note, answer, hp, hw]
    · simp [run, present, note, answer, hp]
    · simp [run, present, note, answer, hp]
  rw [(hrun h).1, (hrun h).2.1, (hrun h).2.2, (hrun h').1, (hrun h').2.1, (hrun h').2.2, hp]
  exact ⟨rfl, rfl, rfl⟩

/-- Surroundings in which nothing takes back a cancellation, and nothing comes to cancel from outside. -/
structure Steady (h after : Host) : Prop where
  cancelled : h.cancelled → after.cancelled
  cancelsAfter : h.cancelsAfter = none → after.cancelsAfter = none

namespace Steady
variable {h after last : Host}

theorem refl (h : Host) : Steady h h := ⟨id, id⟩

theorem trans (h₁ : Steady h after) (h₂ : Steady after last) : Steady h last :=
  ⟨h₂.cancelled ∘ h₁.cancelled, h₂.cancelsAfter ∘ h₁.cancelsAfter⟩

theorem look (h : Host) : Steady h h.look.2 := by
  rcases hc : h.cancelsAfter with _ | _ | n <;> constructor <;> simp [Host.look, hc]

theorem confirm (h : Host) (question : Text) (selection : Selection) :
    Steady h (h.confirm question selection).2 := by
  rcases hc : h.confirms with _ | ⟨reply, rest⟩ <;> constructor <;> simp +contextual [Host.confirm, note, hc]

theorem run (h : Host) (files : FileTree) (command directory : Text) (file : Option Text) :
    Steady h (h.run files command directory file).2.1 := by
  rcases hp : h.processes with _ | ⟨⟨_ | _, cancels⟩, rest⟩
  · rcases hw : h.withoutProcess with result | _ <;> constructor <;> simp [Host.run, note, answer, hp, hw]
  · constructor <;> simp +contextual [Host.run, note, answer, hp]
  · constructor <;> simp +contextual [Host.run, note, answer, hp]

end Steady
end Host

namespace Substitution

/-- Two lines being worked on that differ in their past alone. -/
structure LineDraft.Twin (w w' : LineDraft) : Prop where
  frame : w.frame.present = w'.frame.present
  host : w.host.present = w'.host.present
  applied : w.applied = w'.applied
  stopped : w.stopped = w'.stopped

variable {w w' : LineDraft}

theorem answer_twin (s : Substitution) (h : w.Twin w') (start : Nat) (m : Match) (replacement : Text) :
    (s.answer w start m replacement).1 = (s.answer w' start m replacement).1 ∧
      (s.answer w start m replacement).2.Twin (s.answer w' start m replacement).2 ∧
      w'.host.Steady (s.answer w' start m replacement).2.host := by
  unfold answer
  split
  · have hselect := (Frame.timeless_select ⟨start + m.start, start + m.stop, .stream⟩).congr h.frame
    have htext := Frame.read_eq Frame.text (fun _ => rfl) hselect
    have hselection := Frame.read_eq Frame.selection (fun _ => rfl) hselect
    dsimp only
    rw [htext, hselection]
    generalize (w'.frame.select ⟨start + m.start, start + m.stop, .stream⟩).text = text
    generalize (w'.frame.select ⟨start + m.start, start + m.stop, .stream⟩).selection = selection
    have hdisplay : (w.host.display text).present = (w'.host.display text).present := h.host
    obtain ⟨hanswer, hhost⟩ := Host.confirm_congr hdisplay ("Replace with " ++ replacement ++ ['?']) selection
    have hsteady := Host.Steady.confirm (w'.host.display text) ("Replace with " ++ replacement ++ ['?']) selection
    exact ⟨hanswer, ⟨hselect, hhost, h.applied, h.stopped⟩, hsteady.cancelled, hsteady.cancelsAfter⟩
  · exact ⟨rfl, h, .refl _⟩

theorem takeMatches_twin (s : Substitution) (start : Nat) (ms : List Match) (offset : Nat) (rest : Text)
    (h : w.Twin w') :
    (s.takeMatches start ms offset rest w).1 = (s.takeMatches start ms offset rest w').1 ∧
      (s.takeMatches start ms offset rest w).2.Twin (s.takeMatches start ms offset rest w').2 ∧
      w'.host.Steady (s.takeMatches start ms offset rest w').2.host := by
  induction ms generalizing offset rest w w' with
  | nil => exact ⟨rfl, h, .refl _⟩
  | cons m others ih =>
    obtain ⟨hcancelled, hlooked⟩ := Host.look_congr h.host
    have hsteady := Host.Steady.look w'.host
    simp only [takeMatches]
    rw [hcancelled]
    split
    · exact ⟨rfl, ⟨h.frame, hlooked, h.applied, rfl⟩, hsteady⟩
    · have htwin : LineDraft.Twin { w with host := w.host.look.2 } { w' with host := w'.host.look.2 } :=
        ⟨h.frame, hlooked, h.applied, h.stopped⟩
      generalize expandReplacement (m.groupText (rest.drop (m.start - offset))) .asIs s.replacement = replacement
      obtain ⟨hanswer, hdraft, hasked⟩ := s.answer_twin htwin start m replacement
      generalize s.answer { w with host := w.host.look.2 } start m replacement = r at hanswer hdraft ⊢
      generalize s.answer { w' with host := w'.host.look.2 } start m replacement = r' at hanswer hdraft hasked ⊢
      obtain ⟨given, w₁⟩ := r
      obtain ⟨given', w₁'⟩ := r'
      obtain rfl : given = given' := hanswer
      replace hasked : w'.host.Steady w₁'.host := hsteady.trans hasked
      cases given with
      | cancel => exact ⟨rfl, ⟨hdraft.frame, hdraft.host, hdraft.applied, rfl⟩, hasked⟩
      | no =>
        obtain ⟨htext, hdone, hlater⟩ := ih offset rest hdraft
        exact ⟨htext, hdone, hasked.trans hlater⟩
      | yes =>
        have happlied : LineDraft.Twin { w₁ with applied := w₁.applied + 1 }
            { w₁' with applied := w₁'.applied + 1 } :=
          ⟨hdraft.frame, hdraft.host, congrArg (· + 1) hdraft.applied, hdraft.stopped⟩
        obtain ⟨htext, hdone, hlater⟩ :=
          ih m.stop ((rest.drop (m.start - offset)).drop (m.stop - m.start)) happlied
        exact ⟨by dsimp only; rw [htext], hdone, hasked.trans hlater⟩

/-- Two substitutions under way that differ in their past alone. -/
structure Progress.Twin (p p' : Progress) : Prop where
  frame : p.frame.present = p'.frame.present
  host : p.host.present = p'.host.present
  count : p.count = p'.count
  lastChanged : p.lastChanged = p'.lastChanged

variable {p p' : Progress}

theorem workOnLines_twin (s : Substitution) (m : Matcher) (n line : Nat) (h : p.Twin p') :
    (s.workOnLines m n line p).Twin (s.workOnLines m n line p') ∧
      p'.host.Steady (s.workOnLines m n line p').host := by
  induction n generalizing line p p' with
  | zero => exact ⟨h, .refl _⟩
  | succ n ih =>
    have hmark := Frame.read_eq (·.mark? .rangeEnd) (fun _ => rfl) h.frame
    have hline := Frame.read_eq (·.line line) (fun _ => rfl) h.frame
    have hstart := Frame.read_eq (·.lineStart line) (fun _ => rfl) h.frame
    unfold workOnLines
    rw [hmark]
    split
    · exact ⟨h, .refl _⟩
    · next stop _ =>
      have hat := Frame.read_eq (·.lineAt stop) (fun _ => rfl) h.frame
      rw [hat, hline, hstart]
      split
      · exact ⟨h, .refl _⟩
      · dsimp only
        generalize p'.frame.line line = text
        generalize p'.frame.lineStart line = start
        have hdraft : LineDraft.Twin { frame := p.frame, host := p.host } { frame := p'.frame, host := p'.host } :=
          ⟨h.frame, h.host, rfl, rfl⟩
        obtain ⟨hrebuilt, hw, hsteady⟩ := s.takeMatches_twin start (s.consideredMatches m text) 0 text hdraft
        generalize s.takeMatches start (s.consideredMatches m text) 0 text
          { frame := p.frame, host := p.host } = r at hrebuilt hw ⊢
        generalize s.takeMatches start (s.consideredMatches m text) 0 text
          { frame := p'.frame, host := p'.host } = r' at hrebuilt hw hsteady ⊢
        rw [hw.applied, hw.stopped, hrebuilt]
        by_cases happlied : r'.2.applied = 0
        · have hsame : Progress.Twin { p with frame := r.2.frame, host := r.2.host }
              { p' with frame := r'.2.frame, host := r'.2.host } := ⟨hw.frame, hw.host, h.count, h.lastChanged⟩
          simp only [happlied, ↓reduceIte]
          split
          · exact ⟨hsame, hsteady⟩
          · obtain ⟨htwin, hlater⟩ := ih (line + 1 + 0) hsame
            exact ⟨htwin, hsteady.trans hlater⟩
        · have hreplaced := (Frame.timeless_replace start (start + text.length) r'.1).congr hw.frame
          have hchanged : Progress.Twin
              ⟨r.2.frame.replace start (start + text.length) r'.1, r.2.host, p.count + r'.2.applied, some line⟩
              ⟨r'.2.frame.replace start (start + text.length) r'.1, r'.2.host, p'.count + r'.2.applied, some line⟩ :=
            ⟨hreplaced, hw.host, by rw [h.count], rfl⟩
          simp only [happlied, ↓reduceIte]
          split
          · exact ⟨hchanged, hsteady⟩
          · obtain ⟨htwin, hlater⟩ := ih (line + 1 + r'.1.count '\n') hchanged
            exact ⟨htwin, hsteady.trans hlater⟩

/-- A substitution does the same whatever the past. -/
theorem run_twin (s : Substitution) (m : Matcher) (first last : Nat) {f f' : Frame} {h h' : Host}
    (hf : f.present = f'.present) (hh : h.present = h'.present) :
    (s.run m first last f h).Twin (s.run m first last f' h') ∧
      h'.Steady (s.run m first last f' h').host := by
  have hbound : lineBound f = lineBound f' := Frame.read_eq lineBound (fun _ => rfl) hf
  have hmarks : Frame.Timeless fun f => (markLines f first last).openGroup := fun f => by
    rw [Frame.openGroup_present, Frame.openGroup_present]
    rfl
  have hstart : Progress.Twin { frame := (markLines f first last).openGroup, host := h }
      { frame := (markLines f' first last).openGroup, host := h' } := ⟨hmarks.congr hf, hh, rfl, rfl⟩
  obtain ⟨hloop, hsteady⟩ := s.workOnLines_twin m (lineBound f') first hstart
  unfold run
  rw [hbound]
  generalize s.workOnLines m (lineBound f') first { frame := (markLines f first last).openGroup, host := h } = p
    at hloop ⊢
  generalize s.workOnLines m (lineBound f') first { frame := (markLines f' first last).openGroup, host := h' } =
    p' at hloop hsteady ⊢
  refine ⟨⟨?_, hloop.host, hloop.count, hloop.lastChanged⟩, hsteady⟩
  unfold Progress.finish
  dsimp only
  rw [hloop.lastChanged]
  cases p'.lastChanged with
  | none =>
    have hend : Frame.Timeless fun f =>
      let g := (f.closeGroup.unsetMark .rangeBegin).unsetMark .rangeEnd
      g.select (.caret g.cursor) := fun _ => rfl
    exact hend.congr hloop.frame
  | some line =>
    have hend : Frame.Timeless fun f =>
      let g := ((f.closeGroup.unsetMark .rangeBegin).unsetMark .rangeEnd).goToLine line
      g.select (.caret g.cursor) := fun _ => rfl
    exact hend.congr hloop.frame

end Substitution

namespace Editor

/-- An editor without its past. -/
def present (ed : Editor) : Editor :=
  { ed with session := { ed.session with frame := ed.frame.present }, host := ed.host.present }

theorem present_present (ed : Editor) : ed.present.present = ed.present := rfl
theorem present_context (ed : Editor) : ed.present.context = ed.context := rfl
theorem present_shelf (ed : Editor) : ed.present.shelf = ed.shelf := rfl
theorem present_home (ed : Editor) : ed.present.home? = ed.home? := rfl

/-- What a command leaves alone that undoes nothing, plays and sources nothing, and neither begins nor ends a
recording. -/
structure Steady (ed after : Editor) : Prop where
  recorder : after.session.recorder = ed.session.recorder
  host : ed.host.Steady after.host

theorem Steady.refl (ed : Editor) : Steady ed ed := ⟨rfl, .refl _⟩

theorem Steady.trans {ed after last : Editor} (h : Steady ed after) (h' : Steady after last) :
    Steady ed last := ⟨h'.recorder.trans h.recorder, h.host.trans h'.host⟩

/-- Two results in step, the second one of a run from `ed`. -/
structure InStep (ed : Editor) (r r' : Result) : Prop where
  present : r.1.present = r'.1.present
  outcome : r.2 = r'.2
  steady : Steady ed r'.1

theorem InStep.trans {ed ed' : Editor} {r r' : Result} (hs : Steady ed ed') (h : InStep ed' r r') :
    InStep ed r r' := ⟨h.present, h.outcome, hs.trans h.steady⟩

/-- Something else done to the frame keeps the step. -/
theorem present_mapFrame {act : Frame → Frame} (h : Frame.Timeless act) {ed ed' : Editor}
    (hp : ed.present = ed'.present) : (ed.mapFrame act).present = (ed'.mapFrame act).present := by
  obtain ⟨⟨f, _, _, _, _, _, _, _⟩, _, _⟩ := ed
  obtain ⟨⟨f', _, _, _, _, _, _, _⟩, _, _⟩ := ed'
  simp only [present, frame, Editor.mk.injEq, Session.mk.injEq] at hp
  simp only [present, mapFrame, frame, Editor.mk.injEq, Session.mk.injEq]
  exact ⟨⟨h.congr hp.1.1, hp.1.2⟩, hp.2⟩

theorem present_openGroup (ed : Editor) : (ed.mapFrame Frame.openGroup).present = ed.present :=
  congrArg (fun f => ed.present.mapFrame fun _ => f) ed.frame.openGroup_present

end Editor

/-- Two changes in step, the first one of an editor without its past. -/
def Change.InStep (ed : Editor) (change change' : Change) : Prop :=
  Editor.InStep ed (ed.present.settle change) (ed.settle change')

namespace Change
variable {ed : Editor}

theorem inStep_error (failure : Failure) : InStep ed (.error failure) (.error failure) :=
  ⟨rfl, rfl, .refl ed⟩

theorem inStep_bind {α : Type} (x : Except Failure α) {f g : α → Change} (h : ∀ a, InStep ed (f a) (g a)) :
    InStep ed (x >>= f) (x >>= g) := by
  cases x with
  | error failure => exact inStep_error failure
  | ok a => exact h a

theorem inStep_ite {p : Prop} [Decidable p] {a b a' b' : Change} (ha : InStep ed a a') (hb : InStep ed b b') :
    InStep ed (if p then a else b) (if p then a' else b') := by
  split
  · exact ha
  · exact hb

theorem inStep_ok {a b : Editor} {outcome : Outcome} (hp : a.present = b.present) (hs : ed.Steady b) :
    InStep ed (.ok (a, outcome)) (.ok (b, outcome)) := ⟨hp, rfl, hs⟩

/-- A change that ends with something done to the frame. -/
theorem inStep_frame {a b : Editor} {act : Frame → Frame} {outcome : Outcome} (h : Frame.Timeless act)
    (hp : a.present = b.present) (hs : ed.Steady b) :
    InStep ed (.ok (a.mapFrame act, outcome)) (.ok (b.mapFrame act, outcome)) :=
  inStep_ok (Editor.present_mapFrame h hp) ⟨hs.recorder, hs.host⟩

end Change

namespace Editor
open Change

section lines
variable (ed : Editor) (r : AddressRange)

theorem goto_inStep : Change.InStep ed (ed.present.goto r) (ed.goto r) :=
  inStep_bind _ fun _ => inStep_frame (Frame.timeless_goToLine _) rfl (.refl ed)

theorem delete_inStep (t : Text) : Change.InStep ed (ed.present.delete r t) (ed.delete r t) :=
  inStep_bind _ fun _ => inStep_bind _ fun _ =>
    inStep_frame (Frame.timeless_deleteLines _ _) rfl ⟨rfl, .refl _⟩

theorem yank_inStep (t : Text) : Change.InStep ed (ed.present.yank r t) (ed.yank r t) :=
  inStep_bind _ fun _ => inStep_bind _ fun _ => inStep_ok rfl ⟨rfl, .refl _⟩

theorem put_inStep (line : Nat) (t : Text) : Change.InStep ed (ed.present.put line t) (ed.put line t) :=
  inStep_bind _ fun _ => inStep_ite (inStep_error _) <| inStep_ite (inStep_error _) <|
    inStep_frame (Frame.timeless_putAndFollow _ _) rfl (.refl ed)

theorem timeless_placeText (first last : Nat) (t : Text) (placement : Placement) :
    Frame.Timeless (placeText · first last t placement) := by
  cases placement with
  | append => exact Frame.timeless_insertLine _ _
  | insert => exact Frame.timeless_insertLine _ _
  | change => exact Frame.timeless_changeLines _ _ _

theorem enterText_inStep (placement : Placement) (t : Text) :
    Change.InStep ed (ed.present.enterText r placement t) (ed.enterText r placement t) :=
  inStep_bind _ fun _ => inStep_frame (timeless_placeText _ _ _ _) rfl ⟨rfl, .refl _⟩

theorem copy_inStep (destination : Nat) :
    Change.InStep ed (ed.present.copy r destination) (ed.copy r destination) :=
  inStep_bind _ fun _ => inStep_frame (Frame.timeless_copyLines _ _ _) rfl (.refl ed)

theorem move_inStep (destination : Nat) :
    Change.InStep ed (ed.present.move r destination) (ed.move r destination) :=
  inStep_bind _ fun _ => inStep_ite (inStep_error _) <|
    inStep_frame (Frame.timeless_moveLines _ _ _) rfl (.refl ed)

theorem join_inStep (asIs : Bool) : Change.InStep ed (ed.present.join r asIs) (ed.join r asIs) :=
  inStep_bind _ fun _ => inStep_ite (inStep_error _) <|
    inStep_frame (Frame.timeless_joinLines _ _ _) rfl (.refl ed)

theorem print_inStep (numbered : Bool) : Change.InStep ed (ed.present.print r numbered) (ed.print r numbered) :=
  inStep_bind _ fun _ => inStep_frame (Frame.timeless_goToLine _) rfl (.refl ed)

theorem showLineNumber_inStep : Change.InStep ed (ed.present.showLineNumber r) (ed.showLineNumber r) :=
  inStep_bind _ fun _ => inStep_ok rfl (.refl ed)

theorem setMark_inStep (t : Text) : Change.InStep ed (ed.present.setMark r t) (ed.setMark r t) := by
  refine inStep_bind _ fun lines => ?_
  dsimp only
  split
  · next id _ =>
    have hmark : Frame.Timeless fun f => f.setMark id (f.lineStart lines.2) := fun _ => rfl
    exact inStep_frame hmark rfl (.refl ed)
  · exact inStep_error _

theorem shift_inStep (forward : Bool) (count : Nat) :
    Change.InStep ed (ed.present.shift r forward count) (ed.shift r forward count) := by
  refine inStep_bind _ fun lines => inStep_frame ?_ rfl (.refl ed)
  cases forward with
  | true => exact Frame.timeless_eachLine (fun line => Frame.timeless_indentLine _ line) _ _
  | false => exact Frame.timeless_eachLine (fun line => Frame.timeless_outdentLine _ _ line) _ _

theorem sort_inStep (t : Text) : Change.InStep ed (ed.present.sort r t) (ed.sort r t) :=
  inStep_bind _ fun _ => inStep_bind _ fun _ => inStep_frame (Frame.timeless_sortLines _ _ _) rfl (.refl ed)

theorem present_rememberSearch {ed ed' : Editor} (h : ed.present = ed'.present) (pattern : Text) :
    (ed.rememberSearch pattern).present = (ed'.rememberSearch pattern).present := by
  have hjump : ed.session.tagJump = ed'.session.tagJump := congrArg (·.session.tagJump) h
  unfold rememberSearch
  rw [hjump]
  split
  · exact h
  · exact congrArg (·.setLastSearch (some pattern)) h

/-- An editor with another frame in other surroundings. -/
theorem present_replaced {ed ed' : Editor} (h : ed.present = ed'.present) {f f' : Frame} {k k' : Host}
    (hf : f.present = f'.present) (hk : k.present = k'.present) :
    Editor.present { ed.mapFrame (fun _ => f) with host := k } =
      Editor.present { ed'.mapFrame (fun _ => f') with host := k' } := by
  have hrest := congrArg (fun e : Editor => { e.mapFrame (fun _ => f.present) with host := k.present }) h
  calc Editor.present { ed.mapFrame (fun _ => f) with host := k }
      = { ed.present.mapFrame (fun _ => f.present) with host := k.present } := rfl
    _ = { ed'.present.mapFrame (fun _ => f.present) with host := k.present } := hrest
    _ = Editor.present { ed'.mapFrame (fun _ => f') with host := k' } := by rw [hf, hk]; rfl

theorem steady_rememberSearch {ed ed' : Editor} (h : ed.Steady ed') (pattern : Text) :
    ed.Steady (ed'.rememberSearch pattern) := by
  unfold rememberSearch
  split
  · exact h
  · exact ⟨h.recorder, h.host⟩

theorem runSubstitution_inStep (s : Substitution) :
    Change.InStep ed (ed.present.runSubstitution r s) (ed.runSubstitution r s) := by
  refine inStep_bind _ fun lines => inStep_bind _ fun m => ?_
  have hf : ed.present.frame.present = ed.frame.present := rfl
  have hh : ed.present.host.present = ed.host.present := rfl
  obtain ⟨htwin, hsteady⟩ := s.run_twin m lines.1 lines.2 hf hh
  have hsearch := present_rememberSearch (present_replaced ed.present_present htwin.frame htwin.host) s.pattern
  dsimp only
  rw [htwin.count]
  refine inStep_ok (congrArg (fun e : Editor =>
    { e with context := { e.context with lastSubstitution := some s } }) hsearch) ?_
  have hworked : ed.Steady { ed.mapFrame (fun _ => (s.run m lines.1 lines.2 ed.frame ed.host).frame) with
      host := (s.run m lines.1 lines.2 ed.frame ed.host).host } := ⟨rfl, hsteady⟩
  have hremembered := steady_rememberSearch hworked s.pattern
  exact ⟨hremembered.recorder, hremembered.host⟩

theorem repeatSubstitution_inStep (flags : Text) (keepFlags : Bool) :
    Change.InStep ed (ed.present.repeatSubstitution r flags keepFlags)
      (ed.repeatSubstitution r flags keepFlags) := by
  unfold repeatSubstitution
  rw [present_context]
  generalize ed.context.lastSubstitution = last
  cases last with
  | none => exact inStep_error _
  | some s =>
    exact inStep_ite (inStep_bind _ fun _ => ed.runSubstitution_inStep r _)
      (inStep_bind _ fun _ => ed.runSubstitution_inStep r _)

theorem repeatWithSearch_inStep (flags : Text) :
    Change.InStep ed (ed.present.repeatWithSearch r flags) (ed.repeatWithSearch r flags) := by
  unfold repeatWithSearch
  rw [present_context]
  generalize ed.context.lastSubstitution = last, ed.context.lastSearch = pattern
  rcases last with _ | s
  · exact inStep_error _
  rcases pattern with _ | pattern
  · exact inStep_error _
  · exact inStep_bind _ fun _ => ed.runSubstitution_inStep r _

theorem substitute_inStep (t : Text) : Change.InStep ed (ed.present.substitute r t) (ed.substitute r t) :=
  inStep_ite (ed.repeatSubstitution_inStep r _ _) (inStep_bind _ fun _ => ed.runSubstitution_inStep r _)

end lines

section state
variable (ed : Editor) (t : Text)

theorem changeDirectory_inStep : Change.InStep ed (ed.present.changeDirectory t) (ed.changeDirectory t) := by
  have hgo : ∀ x : Except Failure Text, Change.InStep ed
      (do
        let target ← x
        if !ed.present.shelf.files.isDirectory target then throw (.io (.notADirectory target))
        return ({ ed.present with session := { ed.present.session with
          cwd := ed.present.shelf.files.canonical target } }, .success))
      (do
        let target ← x
        if !ed.shelf.files.isDirectory target then throw (.io (.notADirectory target))
        return ({ ed with session := { ed.session with cwd := ed.shelf.files.canonical target } },
          .success)) := fun x =>
    inStep_bind x fun _ => inStep_ite (inStep_error _) (inStep_ok rfl ⟨rfl, .refl _⟩)
  unfold changeDirectory
  refine inStep_ite ?_ (hgo _)
  rw [present_home]
  generalize ed.home? = home
  cases home with
  | some home => exact hgo _
  | none => exact inStep_error _

theorem switchHighlight_inStep : Change.InStep ed (ed.present.switchHighlight t) (ed.switchHighlight t) := by
  unfold switchHighlight
  dsimp only
  split
  · exact inStep_ok rfl ⟨rfl, .refl _⟩
  · exact inStep_ok rfl ⟨rfl, .refl _⟩
  · exact inStep_ok rfl (.refl ed)
  · exact inStep_error _

theorem abbreviate_inStep : Change.InStep ed (ed.present.abbreviate t) (ed.abbreviate t) := by
  unfold abbreviate
  dsimp only
  split
  · exact inStep_ok rfl (.refl ed)
  · exact inStep_error _
  · exact inStep_ok rfl ⟨rfl, .refl _⟩

theorem unabbreviate_inStep : Change.InStep ed (ed.present.unabbreviate t) (ed.unabbreviate t) := by
  unfold unabbreviate
  rw [present_shelf]
  generalize ed.shelf.store.removeAbbreviation? t.trim = store
  cases store with
  | some store => exact inStep_ok rfl ⟨rfl, .refl _⟩
  | none => exact inStep_error _

theorem mapKeys_inStep : Change.InStep ed (ed.present.mapKeys t) (ed.mapKeys t) := by
  unfold mapKeys
  dsimp only
  split
  · exact inStep_ok rfl (.refl ed)
  · exact inStep_error _
  · exact inStep_ok rfl ⟨rfl, .refl _⟩

theorem unmapKeys_inStep : Change.InStep ed (ed.present.unmapKeys t) (ed.unmapKeys t) := by
  unfold unmapKeys
  rw [present_shelf]
  generalize ed.shelf.store.removeMapping? t.trim = store
  cases store with
  | some store => exact inStep_ok rfl ⟨rfl, .refl _⟩
  | none => exact inStep_error _

theorem setOptions_inStep : InStep ed (ed.present.setOptions t) (ed.setOptions t) := by
  unfold setOptions
  rw [present_context]
  dsimp only
  split
  · exact ⟨rfl, rfl, rfl, .refl _⟩
  · exact ⟨rfl, rfl, rfl, .refl _⟩
  · exact ⟨rfl, rfl, rfl, .refl _⟩

theorem clearHighlight_inStep : InStep ed ed.present.clearHighlight ed.clearHighlight :=
  ⟨present_mapFrame (fun _ => rfl) ed.present_present, rfl, rfl, .refl _⟩

end state

section shell
variable (ed : Editor)

theorem runShell_inStep (command : Text) (file : Option Text) :
    (ed.present.runShell command file).1 = (ed.runShell command file).1 ∧
      (ed.present.runShell command file).2.present = (ed.runShell command file).2.present ∧
      ed.Steady (ed.runShell command file).2 := by
  have hh : ed.present.host.present = ed.host.present := rfl
  obtain ⟨hresult, hhost, hfiles⟩ := Host.run_congr hh ed.shelf.files command ed.session.cwd file
  have hsteady := Host.Steady.run ed.host ed.shelf.files command ed.session.cwd file
  unfold runShell
  rw [present_shelf]
  change ed.host.Steady (ed.host.run ed.shelf.files command ed.session.cwd file).2.1 at hsteady
  have hcwd : ed.present.session.cwd = ed.session.cwd := rfl
  rw [hcwd]
  generalize ed.present.host.run ed.shelf.files command ed.session.cwd file = r at hresult hhost hfiles ⊢
  generalize ed.host.run ed.shelf.files command ed.session.cwd file = r' at hresult hhost hfiles hsteady ⊢
  obtain ⟨result, host, files⟩ := r
  obtain ⟨result', host', files'⟩ := r'
  obtain rfl : result = result' := hresult
  obtain rfl : files = files' := hfiles
  have hafter : Editor.present ({ ed.present with host }.setShelf { ed.shelf with files }) =
      Editor.present ({ ed with host := host' }.setShelf { ed.shelf with files }) :=
    congrArg (fun k => { ed.present with host := k }.setShelf { ed.shelf with files }) hhost
  dsimp only
  split
  · exact ⟨rfl, hafter, rfl, hsteady⟩
  · split
    · exact ⟨rfl, hafter, rfl, hsteady⟩
    · exact ⟨rfl, hafter, rfl, hsteady⟩

theorem shell_inStep (t : Text) : InStep ed (ed.present.shell t) (ed.shell t) := by
  obtain ⟨hresult, hafter, hsteady⟩ := ed.runShell_inStep t.trim none
  unfold shell
  dsimp only
  split
  · exact ⟨rfl, rfl, .refl ed⟩
  · generalize ed.present.runShell t.trim none = r at hresult hafter ⊢
    generalize ed.runShell t.trim none = r' at hresult hafter hsteady ⊢
    obtain ⟨result, after⟩ := r
    obtain ⟨result', after'⟩ := r'
    obtain rfl : result = result' := hresult
    cases result with
    | error failure => exact ⟨hafter, rfl, hsteady⟩
    | ok output => exact ⟨hafter, rfl, hsteady⟩

theorem filter_inStep (r : AddressRange) (command : Text) :
    InStep ed (ed.present.filter r command) (ed.filter r command) := by
  have hchecked : (do
      let lines ← r.editable ed.present.frame
      if command.trim = [] then throw (.malformed .missingFilterCommand)
      return lines : Except Failure (Nat × Nat)) = do
      let lines ← r.editable ed.frame
      if command.trim = [] then throw (.malformed .missingFilterCommand)
      return lines := rfl
  unfold filter
  dsimp only
  rw [hchecked]
  generalize (do
      let lines ← r.editable ed.frame
      if command.trim = [] then throw (.malformed .missingFilterCommand)
      return lines : Except Failure (Nat × Nat)) = checked
  rcases checked with failure | ⟨first, last⟩
  · exact ⟨rfl, rfl, .refl ed⟩
  · have hspan : ed.present.frame.linesSpan first last = ed.frame.linesSpan first last := rfl
    have hslice : ed.present.frame.slice = ed.frame.slice := rfl
    dsimp only
    rw [hspan, hslice]
    generalize ed.frame.linesSpan first last = span
    obtain ⟨start, stop⟩ := span
    dsimp only
    generalize ed.frame.slice start stop = input
    obtain ⟨hresult, hafter, hsteady⟩ := ed.runShell_inStep command.trim (some input)
    generalize ed.present.runShell command.trim (some input) = r at hresult hafter ⊢
    generalize ed.runShell command.trim (some input) = r' at hresult hafter hsteady ⊢
    obtain ⟨result, after⟩ := r
    obtain ⟨result', after'⟩ := r'
    obtain rfl : result = result' := hresult
    cases result with
    | error failure => exact ⟨hafter, rfl, hsteady⟩
    | ok output =>
      have hact : Frame.Timeless fun f => (f.replace start stop (filtered f input output)).goToLine first :=
        fun f => ((Frame.timeless_replace start stop (filtered f input output)).andThen
          (Frame.timeless_goToLine first)) f
      exact ⟨present_mapFrame hact hafter, rfl, hsteady.recorder, hsteady.host⟩

end shell

section range
variable (ed : Editor) (c : Command)

/-- A range is resolved whatever the past. -/
theorem present_resolveRange (t default : Text) : ed.present.resolveRange t default =
    ((ed.resolveRange t default).1, (ed.resolveRange t default).2.present) := by
  have halike : ed.present.frame.Alike ed.frame := ⟨rfl, rfl, rfl, rfl, rfl, rfl⟩
  unfold resolveRange
  obtain ⟨hresult, hframe⟩ := Address.resolveRange_alike halike ed.searchRule ed.context.lastSearch
    (if t.isBlank then default else t)
  obtain ⟨cursor, hcursor⟩ := Address.resolveRange_frame ed.frame ed.searchRule ed.context.lastSearch
    (if t.isBlank then default else t)
  obtain ⟨cursor', hcursor'⟩ := Address.resolveRange_frame ed.present.frame ed.searchRule
    ed.context.lastSearch (if t.isBlank then default else t)
  obtain rfl : cursor' = cursor := by
    have hsame := hframe.cursor
    rw [hcursor, hcursor'] at hsame
    exact hsame
  have hrule : ed.present.searchRule = ed.searchRule := rfl
  have hlast : ed.present.context.lastSearch = ed.context.lastSearch := rfl
  rw [hrule, hlast]
  generalize Address.resolveRange ed.present.frame ed.searchRule ed.context.lastSearch
    (if t.isBlank then default else t) = r at hresult hcursor' ⊢
  generalize Address.resolveRange ed.frame ed.searchRule ed.context.lastSearch
    (if t.isBlank then default else t) = r' at hresult hcursor ⊢
  obtain ⟨⟨range, lastSearch⟩, f⟩ := r
  obtain ⟨⟨range', lastSearch'⟩, f'⟩ := r'
  obtain ⟨rfl, rfl⟩ := Prod.mk.injEq .. ▸ hresult
  obtain rfl : f = _ := hcursor'
  obtain rfl : f' = _ := hcursor
  rfl

theorem steady_resolveRange (t default : Text) : ed.Steady (ed.resolveRange t default).2 := ⟨rfl, .refl _⟩

theorem present_resolveDestination (t : Text) : ed.present.resolveDestination t =
    ((ed.resolveDestination t).1, (ed.resolveDestination t).2.present) := by
  have halike : ed.present.frame.Alike ed.frame := ⟨rfl, rfl, rfl, rfl, rfl, rfl⟩
  have hresolve : Address.resolve ed.present.frame ed.present.searchRule =
      Address.resolve ed.frame ed.searchRule := Address.resolve_alike halike ed.searchRule
  unfold resolveDestination
  rw [hresolve]
  split
  · rfl
  · rfl

theorem steady_resolveDestination (t : Text) : ed.Steady (ed.resolveDestination t).2 := by
  unfold resolveDestination
  split
  · exact .refl ed
  · exact ⟨rfl, .refl _⟩

variable {ed}

/-- What is done on a range is in step if the actions are, wherever the range leads. -/
theorem onRange_inStep (default : Text) {action action' : Editor → AddressRange → Result}
    (h : ∀ ed r, InStep ed (action ed.present r) (action' ed r)) :
    InStep ed (ed.present.onRange c default action) (ed.onRange c default action') := by
  have hsteady := ed.steady_resolveRange c.range default
  unfold onRange
  rw [present_resolveRange]
  generalize ed.resolveRange c.range default = resolved at hsteady ⊢
  obtain ⟨failure | r, after⟩ := resolved
  · exact ⟨rfl, rfl, hsteady⟩
  · exact .trans hsteady (h after r)

theorem changeRange_inStep (default : Text) {change change' : Editor → AddressRange → Change}
    (h : ∀ ed r, Change.InStep ed (change ed.present r) (change' ed r)) :
    InStep ed (ed.present.changeRange c default change) (ed.changeRange c default change') :=
  onRange_inStep c default fun ed r => h ed r

theorem changeTo_inStep {change : Editor → AddressRange → Nat → Change}
    (h : ∀ ed r destination, Change.InStep ed (change ed.present r destination) (change ed r destination)) :
    InStep ed (ed.present.changeTo c change) (ed.changeTo c change) := by
  refine onRange_inStep c ['.'] fun ed r => ?_
  have hsteady := ed.steady_resolveDestination c.text
  rw [present_resolveDestination]
  generalize ed.resolveDestination c.text = resolved at hsteady ⊢
  obtain ⟨failure | destination, after⟩ := resolved
  · exact ⟨rfl, rfl, hsteady⟩
  · exact .trans hsteady (h after r destination)

theorem enter_inStep (placement : Placement) :
    InStep ed (ed.present.enter c placement) (ed.enter c placement) := by
  unfold enter
  split
  · exact ed.enterText_inStep (.ofLines ed.frame 1 1) .insert c.text
  · exact changeRange_inStep c ['.'] fun ed r => ed.enterText_inStep r placement c.text

theorem putAt_inStep : InStep ed (ed.present.putAt c) (ed.putAt c) := by
  unfold putAt
  split
  · exact ed.put_inStep 0 c.text
  · exact changeRange_inStep c ['.'] fun ed r => inStep_bind _ fun _ => ed.put_inStep r.last.line c.text

end range
end Editor
end ExEditor
