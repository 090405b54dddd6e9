import ExEditor.Proofs.Session.Calls
import ExEditor.Proofs.Session.InStep

/-! Two editors that differ in their past alone stay in step under the same line, whatever is under way around
each of them, if the line is tame: neither it nor the command of its global command undoes anything, plays or
sources anything, or begins or ends a recording. -/
namespace ExEditor

/-- Whether a verb neither undoes nor plays nor sources anything, and leaves the recording alone. -/
def Verb.isTame : Verb → Bool
  | .undo | .play | .source | .record | .stop => false
  | _ => true

/-- Whether the verb that a line is read with is tame. -/
def hasTameVerb (line : Text) : Bool :=
  match Command.parse line with
  | .ok (some c) => c.verb.isTame
  | _ => true

/-- The command that a global command runs, as its text writes it. -/
def globalCommand (t : Text) : Text :=
  let command := ((Address.splitAtDelimiter (t.headD ' ') t.tail).getD (t.tail, [])).2.trim
  if command = [] then ['p'] else command

/-- Whether a line is tame, and so is the command that it runs if it is a global command. -/
def isTame (line : Text) : Bool :=
  match Command.parse line with
  | .ok (some c) =>
    c.verb.isTame &&
      match c.verb with
      | .global _ => hasTameVerb (globalCommand c.text)
      | _ => true
  | _ => true

namespace Editor

/-- Two ways to go on from an editor that keep editors in step. -/
def KeepStep (act act' : Editor → Result) : Prop :=
  ∀ ⦃ed ed' : Editor⦄, ed.present = ed'.present → InStep ed' (act ed) (act' ed')

/-- To keep editors in step it is enough to do from an editor without its past what is done from the editor
itself. -/
theorem KeepStep.of_present {act act' : Editor → Result} (h : ∀ ed, InStep ed (act ed.present) (act ed))
    (h' : ∀ ed, InStep ed (act ed.present) (act' ed)) : KeepStep act act' := by
  intro ed ed' hp
  have hfirst := h ed
  rw [hp] at hfirst
  have hsecond := h' ed'
  exact ⟨hfirst.present.symm.trans hsecond.present, hfirst.outcome.symm.trans hsecond.outcome, hsecond.steady⟩

theorem present_look {ed ed' : Editor} (hp : ed.present = ed'.present) :
    ed.look.1 = ed'.look.1 ∧ ed.look.2.present = ed'.look.2.present := by
  obtain ⟨hflag, hhost⟩ := Host.look_congr (congrArg Editor.host hp)
  exact ⟨hflag, by rw [Editor.mk.injEq] at hp ⊢; exact ⟨hp.1, hp.2.1, hhost⟩⟩

section global
variable {run run' : Runner} {running running' : Running}

/-- Visits stay in step if the command that they run does. -/
theorem visitLines_inStep {act act' : Editor → Result} (h : KeepStep act act') (lines : List Nat) :
    KeepStep (visitLines act lines) (visitLines act' lines) := by
  induction lines with
  | nil => exact fun ed ed' hp => ⟨hp, rfl, .refl ed'⟩
  | cons line rest ih =>
    intro ed ed' hp
    obtain ⟨hflag, hlooked⟩ := present_look hp
    have hsteady : ed'.Steady ed'.look.2 := ⟨rfl, .look _⟩
    unfold visitLines
    generalize ed.look = looked at hflag hlooked ⊢
    generalize ed'.look = looked' at hflag hlooked hsteady ⊢
    obtain ⟨flag, ed₁⟩ := looked
    obtain ⟨flag', ed₁'⟩ := looked'
    obtain rfl : flag = flag' := hflag
    cases flag with
    | true => exact ⟨hlooked, rfl, hsteady⟩
    | false =>
      have hmark := Frame.read_eq (·.mark? (.line line)) (fun _ => rfl) (congrArg Editor.frame hlooked)
      dsimp only at hmark hlooked hsteady ⊢
      rw [hmark]
      cases ed₁'.frame.mark? (.line line) with
      | none => exact .trans hsteady (ih hlooked)
      | some offset =>
        have hact : Frame.Timeless fun f => (f.unsetMark (.line line)).setCursor offset := fun _ => rfl
        have hran := h (present_mapFrame hact hlooked)
        dsimp only
        generalize act (ed₁.mapFrame fun f => (f.unsetMark (.line line)).setCursor offset) = r at hran ⊢
        generalize act' (ed₁'.mapFrame fun f => (f.unsetMark (.line line)).setCursor offset) = r' at hran ⊢
        obtain ⟨ed₂, outcome⟩ := r
        obtain ⟨ed₂', outcome'⟩ := r'
        obtain rfl : outcome = outcome' := hran.outcome
        have hcome : ed'.Steady ed₂' := hsteady.trans ⟨hran.steady.recorder, hran.steady.host⟩
        cases outcome with
        | success => exact .trans hcome (ih hran.present)
        | message t => 
          have htold : (ed₂.tell t).present = (ed₂'.tell t).present := hran.present
          have hsteady : ed'.Steady (ed₂'.tell t) := ⟨hcome.recorder, hcome.host.cancelled, hcome.host.cancelsAfter⟩
          exact .trans hsteady (ih htold)
        | failure failure => exact ⟨hran.present, rfl, hcome⟩

theorem readGlobal_command {ed : Editor} {t : Text} {g : GlobalCommand} (h : readGlobal ed t = .ok g) :
    g.command = globalCommand t := by
  unfold readGlobal at h
  split at h
  · cases h
  · split at h
    · cases h
    · next delimiter body _ =>
      unfold globalCommand
      generalize hsplit : (Address.splitAtDelimiter delimiter body).getD (body, []) = parts at h
      obtain ⟨written, command⟩ := parts
      rw [List.headD_cons, List.tail_cons, hsplit]
      cases hp : Address.searchPattern ed.context.lastSearch (Address.unescapeDelimiter delimiter written) with
      | error failure => simp [hp, bind, Except.bind] at h
      | ok pattern =>
        simp only [hp, bind, Except.bind, pure, Except.pure, Except.ok.injEq] at h
        rw [← h]

theorem global_inStep {r : AddressRange} {t : Text} {invert : Bool} (hin : running.inGlobal = running'.inGlobal)
    (hrun : running.inGlobal = false →
      KeepStep (run running.visiting (globalCommand t)) (run' running'.visiting (globalCommand t))) :
    KeepStep (global run running r t invert) (global run' running' r t invert) := by
  intro ed ed' hp
  have hcontext : ed.context = ed'.context := congrArg (·.context) hp
  have hprepared : prepareGlobal running r t ed = prepareGlobal running' r t ed' := by
    unfold prepareGlobal readGlobal
    rw [hin, hcontext]
  rw [global_eq, global_eq]
  unfold beginGlobal
  rw [hprepared]
  cases hready : prepareGlobal running' r t ed' with
  | error failure => exact ⟨hp, rfl, .refl ed'⟩
  | ok parts =>
    obtain ⟨g, m, first, last⟩ := parts
    obtain ⟨hout, -, hread, -⟩ := prepareGlobal_ok hready
    have hcommand := readGlobal_command hread
    have hlines := Frame.read_eq (matchedLines · m invert first last) (fun _ => rfl) (congrArg Editor.frame hp)
    have hsearch := present_rememberSearch hp g.pattern
    have hsteady := steady_rememberSearch (.refl ed') g.pattern
    change matchedLines ed.frame m invert first last = matchedLines ed'.frame m invert first last at hlines
    dsimp only
    rw [hlines, hcommand]
    generalize matchedLines ed'.frame m invert first last = lines
    by_cases hempty : lines = []
    · rw [if_pos hempty, if_pos hempty]
      exact ⟨hsearch, rfl, hsteady⟩
    · rw [if_neg hempty, if_neg hempty]
      have hmark : Frame.Timeless fun f => (markLines f lines).openGroup := fun f => by
        have hfold : Frame.Timeless fun f => markLines f lines :=
          Frame.timeless_foldl (fun line f => rfl) lines
        rw [Frame.openGroup_present, Frame.openGroup_present]
        exact hfold f
      have hunmark : Frame.Timeless fun f => (unmarkLines f lines).closeGroup := fun f => by
        have hfold : Frame.Timeless fun f => unmarkLines f lines :=
          Frame.timeless_foldl (fun line f => rfl) lines
        rw [Frame.closeGroup_present, Frame.closeGroup_present]
        exact hfold f
      have hvisited := visitLines_inStep (hrun (hin.trans hout)) lines (present_mapFrame hmark hsearch)
      exact ⟨present_mapFrame hunmark hvisited.present, hvisited.outcome,
        hsteady.trans ⟨hvisited.steady.recorder, hvisited.steady.host⟩⟩

/-- Carrying out a tame command that is not a global one runs no other line. -/
theorem dispatch_present {c : Command} (htame : c.verb.isTame) (hglobal : ∀ invert, c.verb ≠ .global invert)
    (ed : Editor) : InStep ed (dispatch run running c ed.present) (dispatch run' running' c ed) := by
  obtain ⟨range, verb, t, bang⟩ := c
  cases verb with
  | goto => exact changeRange_inStep _ ['.'] goto_inStep
  | append => exact enter_inStep _ .append
  | insert => exact enter_inStep _ .insert
  | change => exact enter_inStep _ .change
  | delete => exact changeRange_inStep _ ['.'] fun ed r => ed.delete_inStep r t
  | yank => exact changeRange_inStep _ ['.'] fun ed r => ed.yank_inStep r t
  | put => exact putAt_inStep _
  | copy => exact changeTo_inStep _ copy_inStep
  | move => exact changeTo_inStep _ move_inStep
  | join => exact changeRange_inStep _ ['.'] fun ed r => ed.join_inStep r bang
  | print => exact changeRange_inStep _ ['.'] fun ed r => ed.print_inStep r false
  | number => exact changeRange_inStep _ ['.'] fun ed r => ed.print_inStep r true
  | lineNumber => exact changeRange_inStep _ ['$'] showLineNumber_inStep
  | mark => exact changeRange_inStep _ ['.'] fun ed r => ed.setMark_inStep r t
  | shift forward count => exact changeRange_inStep _ ['.'] fun ed r => ed.shift_inStep r forward count
  | sort => exact changeRange_inStep _ ['%'] fun ed r => ed.sort_inStep r t
  | bang =>
    unfold dispatch
    dsimp only
    by_cases hrange : range = []
    · rw [if_pos hrange, if_pos hrange]
      exact ed.shell_inStep t
    · rw [if_neg hrange, if_neg hrange]
      exact onRange_inStep _ ['.'] fun ed r => ed.filter_inStep r t
  | substitute => exact changeRange_inStep _ ['.'] fun ed r => ed.substitute_inStep r t
  | repeatSubstitute keepFlags =>
    exact changeRange_inStep _ ['.'] fun ed r => ed.repeatSubstitution_inStep r t keepFlags
  | repeatWithSearch => exact changeRange_inStep _ ['.'] fun ed r => ed.repeatWithSearch_inStep r t
  | global invert => exact absurd rfl (hglobal invert)
  | cd => exact ed.changeDirectory_inStep t
  | pwd => exact ⟨rfl, rfl, .refl ed⟩
  | syntaxState => exact ed.switchHighlight_inStep t
  | registers => exact ⟨rfl, rfl, .refl ed⟩
  | marks => exact ⟨rfl, rfl, .refl ed⟩
  | set => exact ed.setOptions_inStep t
  | abbreviate => exact ed.abbreviate_inStep t
  | unabbreviate => exact ed.unabbreviate_inStep t
  | map => exact ed.mapKeys_inStep t
  | unmap => exact ed.unmapKeys_inStep t
  | noHighlight => exact ed.clearHighlight_inStep
  | play | source | undo | record | stop => cases htame

/-- A tame command is carried out in step, if the command of a global one is. -/
theorem dispatch_inStep {c : Command} (htame : c.verb.isTame) (hin : running.inGlobal = running'.inGlobal)
    (hrun : ∀ invert, c.verb = .global invert → running.inGlobal = false →
      KeepStep (run running.visiting (globalCommand c.text)) (run' running'.visiting (globalCommand c.text))) :
    KeepStep (dispatch run running c) (dispatch run' running' c) := by
  by_cases hglobal : ∃ invert, c.verb = .global invert
  · obtain ⟨invert, hverb⟩ := hglobal
    intro ed ed' hp
    have hpresent := ed.present_resolveRange c.range ['%']
    have hsteady := ed'.steady_resolveRange c.range ['%']
    rw [hp, present_resolveRange, Prod.mk.injEq] at hpresent
    unfold dispatch
    rw [hverb]
    change InStep ed' (ed.onRange c ['%'] _) (ed'.onRange c ['%'] _)
    unfold onRange
    generalize ed.resolveRange c.range ['%'] = resolved at hpresent ⊢
    generalize ed'.resolveRange c.range ['%'] = resolved' at hpresent hsteady ⊢
    obtain ⟨result, after⟩ := resolved
    obtain ⟨result', after'⟩ := resolved'
    obtain ⟨rfl, hafter⟩ : result' = result ∧ after'.present = after.present := hpresent
    cases result' with
    | error failure => exact ⟨hafter.symm, rfl, hsteady⟩
    | ok r => exact .trans hsteady (global_inStep hin (hrun invert hverb) hafter.symm)
  · rw [not_exists] at hglobal
    exact .of_present (dispatch_present htame hglobal) (dispatch_present htame hglobal)

theorem runParsed_inStep {line : Text} (hline : hasTameVerb line) (hin : running.inGlobal = running'.inGlobal)
    (hrun : ∀ c invert, Command.parse line = .ok (some c) → c.verb = .global invert → running.inGlobal = false →
      KeepStep (run running.visiting (globalCommand c.text)) (run' running'.visiting (globalCommand c.text))) :
    KeepStep (runParsed run running line) (runParsed run' running' line) := by
  intro ed ed' hp
  unfold hasTameVerb at hline
  unfold runParsed
  cases hparse : Command.parse line with
  | error failure => exact ⟨hp, rfl, .refl ed'⟩
  | ok read =>
    cases read with
    | none => exact ⟨hp, rfl, .refl ed'⟩
    | some c =>
      have htame : c.verb.isTame := by simpa only [hparse] using hline
      have hlog : (ed.log c).present = (ed'.log c).present := hp
      have hsteady : ed'.Steady (ed'.log c) := ⟨rfl, id, id⟩
      dsimp only
      split
      · exact ⟨hlog, rfl, hsteady⟩
      · exact .trans hsteady (dispatch_inStep htame hin (hrun c · hparse) hlog)

/-- A line with a tame verb keeps in step, if the command of a global command does. -/
theorem runLine_inStep {line : Text} {n n' : Nat} (hline : hasTameVerb line)
    (hin : running.inGlobal = running'.inGlobal)
    (hrun : ∀ c invert, Command.parse line = .ok (some c) → c.verb = .global invert → running.inGlobal = false →
      ∀ around around', around.inGlobal = true → around'.inGlobal = true →
        KeepStep (runLine n around (globalCommand c.text)) (runLine n' around' (globalCommand c.text))) :
    KeepStep (runLine (n + 1) running line) (runLine (n' + 1) running' line) := by
  intro ed ed' hp
  have hopen : (ed.mapFrame Frame.openGroup).present = (ed'.mapFrame Frame.openGroup).present := by
    rw [present_openGroup, present_openGroup, hp]
  have hkept : KeepStep (runParsed (runLine n) { running with invoking := running.invoking ++ [line] } line)
      (runParsed (runLine n') { running' with invoking := running'.invoking ++ [line] } line) :=
    runParsed_inStep hline hin fun c invert hparse hverb hout => hrun c invert hparse hverb hout _ _ rfl rfl
  have hparsed := hkept hopen
  unfold runLine
  dsimp only
  generalize runParsed (runLine n) _ line (ed.mapFrame Frame.openGroup) = r at hparsed ⊢
  generalize runParsed (runLine n') _ line (ed'.mapFrame Frame.openGroup) = r' at hparsed ⊢
  exact ⟨hparsed.present, hparsed.outcome, hparsed.steady.recorder, hparsed.steady.host⟩

/-- A tame line keeps in step outside of global commands, however deep other lines lie around it. -/
theorem runLine_keepStep {line : Text} (h : isTame line) (n n' : Nat) (hout : running.inGlobal = false)
    (hout' : running'.inGlobal = false) :
    KeepStep (runLine (n + 2) running line) (runLine (n' + 2) running' line) := by
  have hverb : hasTameVerb line := by
    unfold isTame at h
    unfold hasTameVerb
    split
    · next c hparse =>
      rw [hparse, Bool.and_eq_true] at h
      exact h.1
    · rfl
  refine runLine_inStep hverb (hout.trans hout'.symm) fun c invert hparse hglobal _ around around' hin hin' => ?_
  have hcommand : hasTameVerb (globalCommand c.text) := by
    simp only [isTame, hparse, hglobal, Bool.and_eq_true] at h
    exact h.2
  -- a global command fails inside of another one before it runs anything
  exact runLine_inStep hcommand (hin.trans hin'.symm) fun _ _ _ _ hnot => absurd hin (by simp [hnot])

end global
end Editor
end ExEditor
