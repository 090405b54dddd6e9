import ExEditor.Proofs.Frame.LineEdit
import ExEditor.Proofs.Session.Failure
import ExEditor.Proofs.Session.LineVerbs
import ExEditor.Proofs.Session.Undo
import ExEditor.Proofs.Session.Visits
import ExEditor.Proofs.Substitution.Plain

/-! The marks of the user through the commands that edit lines. A command takes each mark where it takes the line of
the mark, but for those that stray; above all the marks of lines that are moved stay behind. -/
namespace ExEditor

/-- Where a mark of the user is: set once, on a line, or not at all. -/
def Frame.MarkedOn (f : Frame) (name : Char) (line : Option Nat) : Prop :=
  ∃ offset, f.offsets (.named name) = offset.toList ∧ Option.Rel f.text.Lies offset line

/-- Whether a verb takes lines out, puts or moves them, or works inside each. -/
def Verb.takesMarks : Verb → Bool
  | put | move | substitute | shift _ _ => true
  | verb => verb.editsWholeLines

theorem Verb.isSingle_of_takesMarks {verb : Verb} (h : verb.takesMarks) : verb.isSingle ∧ verb.takesRange := by
  cases verb <;> simp_all [takesMarks, editsWholeLines, isSingle, takesRange]

namespace Editor

/-- What entering a text at lines does to them. -/
def Placement.lineEdit (first last : Nat) (t : Text) : Placement → LineEdit
  | .append => .put (last + 1) t
  | .insert => .put first t
  | .change => .change first last t

/-- The text that a command puts: what a register holds, or the line that is entered. -/
def putText (ed : Editor) (c : Command) : Text :=
  if c.verb = .put then
    ed.context.registers.get (((readRegisterAndCount c.text).toOption.bind (·.1)).getD .clipboard)
  else ed.expanded c.text ++ ed.frame.eol

/-- What a command does to the lines, given its range. -/
def rangeEdit (ed : Editor) (c : Command) (r : AddressRange) : Except Failure LineEdit :=
  match c.verb with
  | .append => r.checked.map fun (first, last) => Placement.append.lineEdit first last (ed.putText c)
  | .insert => r.checked.map fun (first, last) => Placement.insert.lineEdit first last (ed.putText c)
  | .change => r.checked.map fun (first, last) => Placement.change.lineEdit first last (ed.putText c)
  | .put => .ok (.put r.last.line (ed.putText c))
  | .delete => do
    let (_, count) ← readRegisterAndCount c.text
    let (first, last) ← (r.counted ed.frame count).checked
    return .cut first last
  | .copy => do
    let (first, last) ← r.checked
    let destination ← (ed.resolveDestination c.text).1
    return .put destination (ed.frame.linesText first last)
  | .move => do
    let (first, last) ← r.checked
    let destination ← (ed.resolveDestination c.text).1
    return .move first last destination
  | _ => .ok .inside

/-- What a command does to the lines, as told by the editor in which it is carried out. -/
def lineEdit (ed : Editor) (c : Command) : LineEdit :=
  if isBeforeFirst c && (c.verb = .append || c.verb = .insert || c.verb = .put) then .put 0 (ed.putText c)
  else
    match ed.resolveRange c.range ['.'] with
    | (.error _, _) => .inside
    | (.ok r, ed) => (ed.rangeEdit c r).toOption.getD .inside

/-- A change that treats the marks of the user as what its range does to the lines. -/
def EditsRange (ed : Editor) (c : Command) (r : AddressRange) (g : Frame) : Prop :=
  ∃ e, ed.rangeEdit c r = .ok e ∧ e.TakesMarks ed.frame g

theorem Kept.offsets {ed after : Editor} (h : Kept ed after) (name : Char) :
    after.frame.offsets (.named name) = ed.frame.offsets (.named name) := by
  rw [Frame.offsets, h.marks, Frame.offsets]

section verbs
variable {ed ed' : Editor} {c : Command} {r : AddressRange} {outcome : Outcome}

theorem enterText_takesMarks (hp : ed.frame.text.returnsPaired) {placement : Placement} {t : Text}
    (h : ed.enterText r placement t = .ok (ed', outcome)) :
    ∃ first last, r.checked = .ok (first, last) ∧
      (placement.lineEdit first last (ed.expanded t ++ ed.frame.eol)).TakesMarks ed.frame ed'.frame := by
  obtain ⟨⟨first, last⟩, hr, h⟩ := bind_ok h
  have hr := AddressRange.editable_checked hr
  have htakes : (placement.lineEdit first last (ed.expanded t ++ ed.frame.eol)).TakesMarks ed.frame
      (placeText ed.frame first last (ed.expanded t) placement) := by
    cases placement with
    | append => exact (LineEdit.takesMarks_put hp (last + 1) _).goToLine _
    | insert => exact (LineEdit.takesMarks_put hp first _).goToLine _
    | change => exact LineEdit.takesMarks_change hp (AddressRange.checked_le hr).1 (ed.expanded t)
  cases h
  exact ⟨first, last, hr, htakes⟩

theorem delete_editsRange (hp : ed.frame.text.returnsPaired) (hv : c.verb = .delete)
    (h : ed.delete r c.text = .ok (ed', outcome)) : EditsRange ed c r ed'.frame := by
  obtain ⟨⟨register, count⟩, hread, h⟩ := bind_ok h
  obtain ⟨⟨first, last⟩, hr, h⟩ := bind_ok h
  have hr := AddressRange.editable_checked hr
  have hedit : ed.rangeEdit c r = .ok (.cut first last) := by
    unfold rangeEdit
    rw [hv]
    simp only [hread, hr, bind, Except.bind]
    rfl
  have htakes : (LineEdit.cut first last).TakesMarks ed.frame (ed.frame.deleteLines first last) :=
    (LineEdit.takesMarks_cut hp (AddressRange.checked_le hr).1).goToLine _
  cases h
  exact ⟨_, hedit, htakes⟩

theorem put_takesMarks (hp : ed.frame.text.returnsPaired) (hv : c.verb = .put) {line : Nat}
    (h : ed.put line c.text = .ok (ed', outcome)) :
    (LineEdit.put line (ed.putText c)).TakesMarks ed.frame ed'.frame := by
  obtain ⟨⟨register, count⟩, hread, h⟩ := bind_ok h
  have htext : ed.putText c = ed.context.registers.get (register.getD .clipboard) := by
    simp [putText, hv, hread, Except.toOption]
  have htakes : ∀ t, (LineEdit.put line t).TakesMarks ed.frame (ed.frame.putAndFollow line t) := fun t =>
    (LineEdit.takesMarks_put hp line t).goToLine _
  rw [htext]
  dsimp only at h
  split at h
  · cases h
  split at h
  · cases h
  cases h
  exact htakes _

theorem copy_editsRange (hp : ed.frame.text.returnsPaired) (hv : c.verb = .copy) {destination : Nat} {ed₁ : Editor}
    (hd : ed.resolveDestination c.text = (.ok destination, ed₁))
    (h : ed₁.copy r destination = .ok (ed', outcome)) : EditsRange ed c r ed'.frame := by
  have hf : ed₁.frame = ed.frame := resolveDestination_frame hd
  obtain ⟨⟨first, last⟩, hr, h⟩ := bind_ok h
  have hr := AddressRange.editable_checked hr
  have hedit : ed.rangeEdit c r = .ok (.put destination (ed.frame.linesText first last)) := by
    unfold rangeEdit
    rw [hv]
    simp only [hr, hd, bind, Except.bind]
    rfl
  have htakes : (LineEdit.put destination (ed.frame.linesText first last)).TakesMarks ed.frame
      (ed₁.frame.copyLines first last destination) := by
    rw [hf]
    exact (LineEdit.takesMarks_put hp destination _).goToLine _
  cases h
  exact ⟨_, hedit, htakes⟩

theorem move_editsRange (hp : ed.frame.text.returnsPaired) (hv : c.verb = .move) {destination : Nat} {ed₁ : Editor}
    (hd : ed.resolveDestination c.text = (.ok destination, ed₁))
    (h : ed₁.move r destination = .ok (ed', outcome)) : EditsRange ed c r ed'.frame := by
  have hf : ed₁.frame = ed.frame := resolveDestination_frame hd
  obtain ⟨⟨first, last⟩, hr, h⟩ := bind_ok h
  have hr := AddressRange.editable_checked hr
  obtain ⟨hle, hfirst, hlast⟩ := AddressRange.checked_le hr
  have hedit : ed.rangeEdit c r = .ok (.move first last destination) := by
    unfold rangeEdit
    rw [hv]
    simp only [hr, hd, bind, Except.bind]
    rfl
  dsimp only at h
  split at h
  · cases h
  next hout =>
  have htakes : (LineEdit.move first last destination).TakesMarks ed.frame
      (ed₁.frame.moveLines first last destination) := by
    rw [hf]
    exact LineEdit.takesMarks_move hp hle (by omega)
  cases h
  exact ⟨_, hedit, htakes⟩

theorem shift_takesMarks (hp : ed.frame.text.returnsPaired) {forward : Bool} {count : Nat}
    (h : ed.shift r forward count = .ok (ed', outcome)) : LineEdit.inside.TakesMarks ed.frame ed'.frame := by
  obtain ⟨⟨first, last⟩, -, h⟩ := bind_ok h
  have hindent : Text.IsPlain (List.replicate count ed.context.settings.indentUnit).flatten := by
    intro c hc
    obtain ⟨unit, hunit, hc⟩ := List.mem_flatten.mp hc
    rw [List.eq_of_mem_replicate hunit] at hc
    exact isPlain_indentUnit _ c hc
  have hline : ∀ (g : Frame) n, g.text.returnsPaired → Frame.Inside g ((
      if forward then Frame.indentLine (List.replicate count ed.context.settings.indentUnit).flatten
      else Frame.outdentLine (ed.context.settings.shiftWidth * count) ed.context.settings.shiftWidth) g n) := by
    intro g n hg
    split
    · exact Frame.inside_indentLine hg hindent n
    · exact Frame.inside_outdentLine hg _ _ n
  have hinside := Frame.inside_eachLine hp hline first last
  cases h
  exact LineEdit.takesMarks_of_inside hinside

theorem substitute_takesMarks (hp : ed.frame.text.returnsPaired) {t : Text}
    (hs : ∀ s, ed.writtenSubstitution t = .ok s → s.replacement.IsPlain)
    (h : ed.substitute r t = .ok (ed', outcome)) : LineEdit.inside.TakesMarks ed.frame ed'.frame := by
  rw [substitute_eq] at h
  obtain ⟨s, hwritten, h⟩ := bind_ok h
  obtain ⟨⟨first, last⟩, -, h⟩ := bind_ok h
  obtain ⟨m, -, h⟩ := bind_ok h
  have hinside := Substitution.inside_run (hs s hwritten) m first last hp ed.host
  cases h
  refine LineEdit.takesMarks_of_inside ?_
  change Frame.Inside _ (Editor.rememberSearch _ _).frame
  rw [rememberSearch_frame]
  exact hinside

theorem lineEdit_of_range {ed₁ : Editor} {e : LineEdit} (hr : ed.resolveRange c.range ['.'] = (.ok r, ed₁))
    (hb : isBeforeFirst c = false ∨ c.verb ≠ .append ∧ c.verb ≠ .insert ∧ c.verb ≠ .put)
    (he : ed₁.rangeEdit c r = .ok e) : ed.lineEdit c = e := by
  have hbefore : ¬ (isBeforeFirst c && (c.verb = .append || c.verb = .insert || c.verb = .put)) := by
    rcases hb with hb | ⟨ha, hi, hput⟩
    · simp [hb]
    · simp [ha, hi, hput]
  unfold lineEdit
  rw [if_neg hbefore, hr]
  dsimp only
  rw [he]
  rfl

/-- What a command does to a range that has been resolved it does to the lines that the range is written for. -/
theorem EditsRange.resolved {ed₁ : Editor} {g : Frame} (h : EditsRange ed₁ c r g)
    (hr : ed.resolveRange c.range ['.'] = (.ok r, ed₁))
    (hb : isBeforeFirst c = false ∨ c.verb ≠ .append ∧ c.verb ≠ .insert ∧ c.verb ≠ .put) :
    (ed.lineEdit c).TakesMarks ed.frame g := by
  obtain ⟨e, he, ht⟩ := h
  have hkept := Kept.resolveRange ed c.range ['.']
  rw [hr] at hkept
  rw [lineEdit_of_range hr hb he]
  exact ht.of_eq hkept.text hkept.offsets

theorem lineEdit_of_beforeFirst (hb : isBeforeFirst c) (hv : c.verb = .append ∨ c.verb = .insert ∨ c.verb = .put) :
    ed.lineEdit c = .put 0 (ed.putText c) := by
  unfold lineEdit
  rw [if_pos]
  rcases hv with hv | hv | hv <;> simp [hb, hv]

theorem putText_of_placement {placement : Placement} (hv : c.verb = placement.verb) :
    ed.putText c = ed.expanded c.text ++ ed.frame.eol := by
  rw [putText, if_neg]
  rw [hv]
  cases placement <;> simp [Placement.verb]

theorem enter_takesMarks (hp : ed.frame.text.returnsPaired) {placement : Placement} (hv : c.verb = placement.verb)
    (h : ed.enter c placement = (ed', outcome)) (hok : outcome.isFailure = false) :
    (ed.lineEdit c).TakesMarks ed.frame ed'.frame := by
  unfold enter at h
  split at h
  · next hb =>
    rw [Bool.and_eq_true, bne_iff_ne] at hb
    obtain ⟨first, last, hr, ht⟩ := enterText_takesMarks hp (settle_ok h hok)
    have hfirst : first = 0 := by
      obtain ⟨-, hline, -⟩ := AddressRange.checked_le hr
      have hone : (AddressRange.ofLines ed.frame 1 1).first.line ≤ 1 := by
        simp only [AddressRange.ofLines, Address.ofLine, Address.clampLine, maxWord, Bool.false_eq_true, ↓reduceIte]
        split <;> omega
      omega
    have hput : c.verb = .append ∨ c.verb = .insert ∨ c.verb = .put := by
      rw [hv]
      cases placement with
      | append => exact .inl rfl
      | insert => exact .inr (.inl rfl)
      | change => exact absurd rfl hb.2
    rw [lineEdit_of_beforeFirst hb.1 hput, putText_of_placement hv]
    exact hfirst ▸ ht
  · next hb =>
    obtain ⟨r, ed₁, hr, h⟩ := changeRange_ok h hok
    have hkept := Kept.resolveRange ed c.range ['.']
    rw [hr] at hkept
    obtain ⟨first, last, hchecked, ht⟩ := enterText_takesMarks (hkept.text ▸ hp) h
    have hedit : ed₁.rangeEdit c r = .ok (placement.lineEdit first last (ed₁.expanded c.text ++ ed₁.frame.eol)) := by
      unfold rangeEdit
      rw [putText_of_placement hv, hv]
      cases placement <;> simp [Placement.verb, hchecked, Except.map]
    refine EditsRange.resolved ⟨_, hedit, ht⟩ hr ?_
    rw [hv]
    cases placement with
    | change => exact .inr (by simp [Placement.verb])
    | _ => exact .inl (by simpa using hb)

theorem putAt_takesMarks (hp : ed.frame.text.returnsPaired) (hv : c.verb = .put)
    (h : ed.putAt c = (ed', outcome)) (hok : outcome.isFailure = false) :
    (ed.lineEdit c).TakesMarks ed.frame ed'.frame := by
  unfold putAt at h
  split at h
  · next hb =>
    rw [lineEdit_of_beforeFirst hb (.inr (.inr hv))]
    exact put_takesMarks hp hv (settle_ok h hok)
  · next hb =>
    obtain ⟨r, ed₁, hr, h⟩ := changeRange_ok h hok
    have hkept := Kept.resolveRange ed c.range ['.']
    rw [hr] at hkept
    obtain ⟨-, -, h⟩ := bind_ok h
    have hedit : ed₁.rangeEdit c r = .ok (.put r.last.line (ed₁.putText c)) := by
      unfold rangeEdit
      rw [hv]
    exact EditsRange.resolved ⟨_, hedit, put_takesMarks (hkept.text ▸ hp) hv h⟩ hr (.inl (by simpa using hb))

/-- A command that succeeds takes the marks of the user where it takes their lines. -/
theorem dispatch_takesMarks (run : Runner) (running : Running) (hv : c.verb.takesMarks)
    (hp : ed.frame.text.returnsPaired)
    (hs : c.verb = .substitute → ∀ s, ed.writtenSubstitution c.text = .ok s → s.replacement.IsPlain)
    (h : dispatch run running c ed = (ed', outcome)) (hok : outcome.isFailure = false) :
    (ed.lineEdit c).TakesMarks ed.frame ed'.frame := by
  have hresolved : ∀ {r ed₁}, ed.resolveRange c.range ['.'] = (.ok r, ed₁) → ed₁.frame.text.returnsPaired :=
    fun {r ed₁} hr => by
      have hkept := Kept.resolveRange ed c.range ['.']
      rw [hr] at hkept
      exact hkept.text ▸ hp
  unfold dispatch at h
  cases hverb : c.verb with
  | append => rw [hverb] at h; exact enter_takesMarks hp (show c.verb = Placement.verb .append from hverb) h hok
  | insert => rw [hverb] at h; exact enter_takesMarks hp (show c.verb = Placement.verb .insert from hverb) h hok
  | change => rw [hverb] at h; exact enter_takesMarks hp (show c.verb = Placement.verb .change from hverb) h hok
  | put => rw [hverb] at h; exact putAt_takesMarks hp hverb h hok
  | delete =>
    rw [hverb] at h
    obtain ⟨r, ed₁, hr, h⟩ := changeRange_ok h hok
    exact (delete_editsRange (hresolved hr) hverb h).resolved hr (.inr (by simp [hverb]))
  | copy =>
    rw [hverb] at h
    obtain ⟨r, ed₁, hr, h⟩ := onRange_ok h hok
    rcases hd : ed₁.resolveDestination c.text with ⟨failure | destination, ed₂⟩ <;> rw [hd] at h
    · cases h
      cases hok
    · exact (copy_editsRange (hresolved hr) hverb hd (settle_ok h hok)).resolved hr (.inr (by simp [hverb]))
  | move =>
    rw [hverb] at h
    obtain ⟨r, ed₁, hr, h⟩ := onRange_ok h hok
    rcases hd : ed₁.resolveDestination c.text with ⟨failure | destination, ed₂⟩ <;> rw [hd] at h
    · cases h
      cases hok
    · exact (move_editsRange (hresolved hr) hverb hd (settle_ok h hok)).resolved hr (.inr (by simp [hverb]))
  | shift forward count =>
    rw [hverb] at h
    obtain ⟨r, ed₁, hr, h⟩ := changeRange_ok h hok
    have hedit : ed₁.rangeEdit c r = .ok .inside := by
      unfold rangeEdit
      rw [hverb]
    exact EditsRange.resolved ⟨_, hedit, shift_takesMarks (hresolved hr) h⟩ hr (.inr (by simp [hverb]))
  | substitute =>
    rw [hverb] at h
    obtain ⟨r, ed₁, hr, h⟩ := changeRange_ok h hok
    have hedit : ed₁.rangeEdit c r = .ok .inside := by
      unfold rangeEdit
      rw [hverb]
    have hwritten : ed₁.writtenSubstitution c.text = ed.writtenSubstitution c.text := by
      have hkept := Kept.resolveRange ed c.range ['.']
      rw [hr] at hkept
      rw [writtenSubstitution, hkept.lastSubstitution, writtenSubstitution]
    exact EditsRange.resolved ⟨_, hedit, substitute_takesMarks (hresolved hr) (hwritten ▸ hs hverb) h⟩ hr
      (.inr (by simp [hverb]))
  | _ =>
    rw [hverb] at hv
    cases hv

theorem runLine_takesMarks {n : Nat} {running : Running} {line : Text} (hc : Command.parse line = .ok (some c))
    (hv : c.verb.takesMarks) (hp : ed.frame.text.returnsPaired)
    (hs : c.verb = .substitute → ∀ s, ed.writtenSubstitution c.text = .ok s → s.replacement.IsPlain)
    (h : runLine (n + 1) running line ed = (ed', outcome)) (hok : outcome.isFailure = false) :
    ((ed.begun c).lineEdit c).TakesMarks ed.frame ed'.frame := by
  have htext : (ed.begun c).frame.text = ed.frame.text := ed.frame.openGroup_text
  rw [runLine_of_parse hc (Verb.isSingle_of_takesMarks hv).2] at h
  cases h
  have htakes := dispatch_takesMarks (runLine n) { running with invoking := running.invoking ++ [line] } hv
    (show (ed.begun c).frame.text.returnsPaired from htext ▸ hp) hs rfl hok
  exact (htakes.of_eq htext fun name => ed.frame.offsets_openGroup (.named name)).congr rfl fun _ => rfl

end verbs

/-- What a command line does to the lines: nothing if it fails. -/
def lineEditOf (ed : Editor) (line : Text) (c : Command) : LineEdit :=
  if (ed.execute line).2.isFailure then .inside else (ed.resume.begun c).lineEdit c

/-- A command line takes the marks of the user where it takes their lines. -/
theorem execute_takesMarks {ed : Editor} (hp : ed.frame.text.returnsPaired) {line : Text} {c : Command}
    (hc : Command.parse line = .ok (some c)) (hv : c.verb.takesMarks)
    (hs : c.verb = .substitute → ∀ s, ed.writtenSubstitution c.text = .ok s → s.replacement.IsPlain) :
    (ed.lineEditOf line c).TakesMarks ed.frame (ed.execute line).1.frame := by
  unfold lineEditOf
  split
  · next hfailed =>
    obtain ⟨failure, hf⟩ : ∃ failure, (ed.execute line).2 = .failure failure := by
      cases houtcome : (ed.execute line).2 with
      | failure failure => exact ⟨failure, rfl⟩
      | _ =>
        rw [houtcome] at hfailed
        cases hfailed
    have hkept := (ed.execute_failure_keeps line failure (fun c' hc' => by
      cases hc.symm.trans hc'
      exact (Verb.isSingle_of_takesMarks hv).1) hf).1
    exact LineEdit.takesMarks_of_inside ((Frame.Inside.refl hp).congr hkept.text hkept.offsets)
  · next hok =>
    have houtcome : (ed.execute line).2 = (runLine ed.nestingBound {} line ed.resume).2 := rfl
    rw [(ed.execute_frame line).1]
    exact @runLine_takesMarks ed.resume _ c _ _ _ _ hc hv hp hs rfl (by rwa [Bool.not_eq_true, houtcome] at hok)

/-- A mark of the user on a line goes where the command line takes that line, or with it, but for one that strays. The
text of the line is the same there, unless the command works inside lines. A mark on a line that is moved always strays:
it stays behind, on the line behind the moved ones, or at the end of the text where there is none. -/
theorem user_marks_go_with_lines {ed : Editor} (hp : ed.frame.text.returnsPaired) {line : Text} {c : Command}
    (hc : Command.parse line = .ok (some c)) (hv : c.verb.takesMarks)
    (hs : c.verb = .substitute → ∀ s, ed.writtenSubstitution c.text = .ok s → s.replacement.IsPlain)
    {name : Char} {offset place : Nat} (hname : ed.frame.offsets (.named name) = [offset])
    (hlies : ed.frame.text.Lies offset place) (hplace : place < ed.frame.text.lineCount) :
    let edit := ed.lineEditOf line c
    let after := (ed.execute line).1.frame
    (¬ edit.Strays ed.frame offset →
      after.MarkedOn name (edit.lineMove ed.frame.text.lineCount place) ∧
      (edit ≠ .inside →
        ∀ place' ∈ edit.lineMove ed.frame.text.lineCount place, after.line place' = ed.frame.line place)) ∧
    ∀ first last destination, edit = .move first last destination → first ≤ place ∧ place ≤ last →
      if last + 1 < ed.frame.text.lineCount then
        after.MarkedOn name (edit.lineMove ed.frame.text.lineCount (last + 1))
      else after.offsets (.named name) = [after.length] := by
  intro edit after
  have htakes : edit.TakesMarks ed.frame after := execute_takesMarks hp hc hv hs
  obtain ⟨hle, rfl⟩ := hlies
  refine ⟨fun hstray => ?_, fun first last destination hedit hmoved => ?_⟩
  · obtain ⟨⟨offset', hsends, hrel⟩, hkept⟩ := htakes.keeps offset hle hplace hstray
    exact ⟨⟨offset', hsends name hname, hrel⟩, hkept⟩
  · have hleft := htakes.leaves offset hle first last destination hedit hmoved
    split at hleft
    · next hbehind =>
      obtain ⟨offset', hsends, hrel⟩ := hleft
      rw [if_pos hbehind]
      exact ⟨offset', hsends name hname, hrel⟩
    · next hnone =>
      rw [if_neg hnone]
      exact hleft name hname

/-- The mark of the last line follows it when those in front are deleted, and that of the second line is left to the
third when it is moved away. -/
theorem user_marks_go_with_lines_three :
    let deleting := ((ofText "a\nb\nc\n".toList).execute "3ka".toList).1
    let moving := ((ofText "a\nb\nc\n".toList).execute "2ka".toList).1
    (deleting.execute "1,2d".toList).1.frame.MarkedOn 'a' (some 0) ∧
      (deleting.execute "1,2d".toList).1.frame.line 0 = ['c'] ∧
      (moving.execute "2m0".toList).1.frame.MarkedOn 'a' (some 2) := by
  intro deleting moving
  have hdelete : Command.parse "1,2d".toList = .ok (some ⟨"1,2".toList, .delete, [], false⟩) := rfl
  have hmove : Command.parse "2m0".toList = .ok (some ⟨['2'], .move, ['0'], false⟩) := rfl
  rw [← and_assoc]
  constructor
  · have hlies : deleting.frame.text.Lies 4 2 := ⟨by decide +kernel, by decide +kernel⟩
    have hname : deleting.frame.offsets (.named 'a') = [4] := by decide +kernel
    obtain ⟨hmarked, hkept⟩ := (user_marks_go_with_lines (by decide +kernel) hdelete rfl nofun hname hlies
      (by decide +kernel)).1 (by decide +kernel)
    exact ⟨hmarked, hkept nofun 0 rfl⟩
  · have hlies : moving.frame.text.Lies 2 1 := ⟨by decide +kernel, by decide +kernel⟩
    have hname : moving.frame.offsets (.named 'a') = [2] := by decide +kernel
    have hleft := (user_marks_go_with_lines (by decide +kernel) hmove rfl nofun hname hlies (by decide +kernel)).2
      1 1 0 rfl (by decide)
    rwa [if_pos (by decide +kernel)] at hleft

/-- The mark of a line is on the other line when both are exchanged. -/
theorem moved_line_loses_mark :
    let ed := ((ofText "a\nb\nc\n".toList).execute "1ka".toList).1
    let after := (ed.execute "1m2".toList).1.frame
    ed.frame.isEditable ∧ ed.frame.text.returnsPaired ∧ ed.frame.offsets (.named 'a') = [0] ∧
      ed.frame.text.lineAt 0 = 0 ∧ ed.frame.text.line 0 = ['a'] ∧
        after.text.lines = [['b'], ['a'], ['c']] ∧ after.offsets (.named 'a') = [0] ∧ after.text.lineAt 0 = 0 ∧
          after.text.line 0 = ['b'] := by
  decide +kernel

end Editor
end ExEditor
