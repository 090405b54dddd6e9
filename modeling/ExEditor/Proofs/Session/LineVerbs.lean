import ExEditor.Proofs.Address.Bounds
import ExEditor.Proofs.Frame.LineVerbs
import ExEditor.Proofs.Session.Change
import ExEditor.Proofs.Substitution.Run
import ExEditor.Session.LineVerbs

/-! The verbs that edit whole lines do what their names say to the list of lines. -/
namespace ExEditor
open LineList

/-- A change that succeeds with a property. -/
def Change.Leaves (c : Change) (P : Editor → Prop) : Prop :=
  ∃ ed outcome, c = .ok (ed, outcome) ∧ outcome.isFailure = false ∧ P ed

/-- A change that succeeds with a property succeeds with what follows from it. -/
theorem Change.Leaves.imp {c : Change} {P Q : Editor → Prop} (h : c.Leaves P) (hpq : ∀ ed, P ed → Q ed) :
    c.Leaves Q := by
  obtain ⟨ed, outcome, hc, hsuccess, hP⟩ := h
  exact ⟨ed, outcome, hc, hsuccess, hpq ed hP⟩

theorem AddressRange.editable_ok {r : AddressRange} {f : Frame} {first last : Nat}
    (h : r.checked = .ok (first, last)) (he : f.isEditable) : r.editable f = .ok (first, last) := by
  simp [editable, h, he]

namespace Editor

/-- Lines with others put after, before or in place of a range of them. -/
def entered (lines : List Text) (first last : Nat) (others : List Text) : Placement → List Text
  | .append => putAt lines (last + 1) others
  | .insert => putAt lines first others
  | .change => lines.take first ++ others ++ lines.drop (last + 1)

/-- A text as the verbs that enter it expand it. -/
def expanded (ed : Editor) (t : Text) : Text := expandAbbreviations ed.shelf.store.abbreviations t

section frames
variable {ed : Editor} {first last : Nat} {r : AddressRange} (he : ed.frame.isEditable)
include he

/-- Deleting the lines of a range keeps their text in a register. -/
theorem delete_eq {arguments : Text} {register : Option RegisterName} {count : Option Nat}
    (hread : readRegisterAndCount arguments = .ok (register, count))
    (hr : (r.counted ed.frame count).checked = .ok (first, last)) :
    ed.delete r arguments =
      .ok ((ed.mapRegisters (·.delete register (ed.frame.linesText first last))).mapFrame
        (·.deleteLines first last), reportLines (last - first + 1) "deleted") := by
  simp only [delete, hread, AddressRange.editable_ok hr he, bind, Except.bind]
  rfl

theorem put_frame {line : Nat} {arguments t : Text} {register : Option RegisterName} {count : Option Nat}
    (hread : readRegisterAndCount arguments = .ok (register, count))
    (hget : ed.context.registers.get (register.getD .clipboard) = t) (hne : t ≠ []) :
    Change.Leaves (ed.put line arguments) (·.frame = ed.frame.putAndFollow line t) := by
  have hd : ed.put line arguments =
      .ok (ed.mapFrame (·.putAndFollow line t), reportLines (Frame.putCount t) "put") := by
    simp only [put, hread, bind, Except.bind, he, hget, hne]
    rfl
  exact ⟨_, _, hd, reportLines_isFailure _ _, rfl⟩

theorem copy_frame (hr : r.checked = .ok (first, last)) (destination : Nat) :
    Change.Leaves (ed.copy r destination) (·.frame = ed.frame.copyLines first last destination) := by
  have hc : ed.copy r destination = .ok (ed.mapFrame (·.copyLines first last destination),
      reportLines (Frame.putCount (ed.frame.linesText first last)) "copied") := by
    simp only [copy, AddressRange.editable_ok hr he, bind, Except.bind]
    rfl
  exact ⟨_, _, hc, reportLines_isFailure _ _, rfl⟩

theorem move_frame (hr : r.checked = .ok (first, last)) {destination : Nat}
    (ho : destination ≤ first ∨ last + 1 < destination) :
    Change.Leaves (ed.move r destination) (·.frame = ed.frame.moveLines first last destination) := by
  obtain ⟨hf, h1, h2⟩ := AddressRange.checked_le hr
  have hout : ¬ (r.first.line ≤ destination ∧ destination ≤ r.last.line) := by omega
  have hm : ed.move r destination = .ok (ed.mapFrame (·.moveLines first last destination),
      reportLines (last - first + 1) "moved") := by
    simp only [move, AddressRange.editable_ok hr he, bind, Except.bind, hout]
    rfl
  exact ⟨_, _, hm, reportLines_isFailure _ _, rfl⟩

theorem enterText_frame (hr : r.checked = .ok (first, last)) (placement : Placement) (t : Text) :
    Change.Leaves (ed.enterText r placement t)
      (·.frame = placeText ed.frame first last (ed.expanded t) placement) := by
  have hc : ed.enterText r placement t =
      .ok ((ed.mapRegisters (·.inserted (ed.expanded t))).mapFrame
        fun f => placeText f first last (ed.expanded t) placement, .success) := by
    simp only [enterText, AddressRange.editable_ok hr he, bind, Except.bind]
    rfl
  exact ⟨_, _, hc, rfl, rfl⟩

end frames

section verbs
variable {ed : Editor} {rows : List Text} {first last : Nat} {r : AddressRange}

theorem delete_leaves (he : ed.frame.isEditable) (ht : ed.frame.text = rows.flatten)
    (hrows : ∀ s ∈ rows, s.IsRow) (hl : last < rows.length) {arguments : Text}
    {register : Option RegisterName} {count : Option Nat}
    (hread : readRegisterAndCount arguments = .ok (register, count))
    (hr : (r.counted ed.frame count).checked = .ok (first, last)) :
    Change.Leaves (ed.delete r arguments) fun ed' =>
      ed'.frame.text.lines = shown ((without rows first last).map Text.lineBody) :=
  ⟨_, _, delete_eq he hread hr, reportLines_isFailure _ _,
    Frame.lines_deleteLines ht hrows (AddressRange.checked_le hr).1 hl⟩

theorem put_leaves (he : ed.frame.isEditable) (ht : ed.frame.text = rows.flatten)
    (hrows : ∀ s ∈ rows, s.IsRow) {line : Nat} (hn : line ≤ rows.length) {arguments t : Text}
    {register : Option RegisterName} {count : Option Nat}
    (hread : readRegisterAndCount arguments = .ok (register, count))
    (hget : ed.context.registers.get (register.getD .clipboard) = t) (hne : t ≠ [])
    (hp : t.returnsPaired) :
    Change.Leaves (ed.put line arguments) fun ed' =>
      ed'.frame.text.lines = putAt (rows.map Text.lineBody) line t.lines ∧
      ed'.frame.cursorLine = line + t.lines.length - 1 := by
  refine (put_frame he hread hget hne).imp fun ed' hframe => ?_
  rw [hframe]
  exact ⟨Frame.lines_putAndFollow ht hrows hn hp hne, Frame.cursorLine_putAndFollow ht hrows hn hp hne⟩

theorem copy_leaves (he : ed.frame.isEditable) (ht : ed.frame.text = rows.flatten)
    (hrows : ∀ s ∈ rows, s.IsRow) (hl : last < rows.length) (hr : r.checked = .ok (first, last))
    {destination : Nat} (hd : destination ≤ rows.length) :
    Change.Leaves (ed.copy r destination) fun ed' =>
      ed'.frame.text.lines =
        putAt (rows.map Text.lineBody) destination ((range rows first last).map Text.lineBody) ∧
      ed'.frame.cursorLine = destination + (last - first) := by
  have hf := (AddressRange.checked_le hr).1
  have hp := Frame.linesText_paired ht hrows hf hl
  have hne := Frame.linesText_ne_nil ht hrows hf hl
  have hlines := Frame.lines_linesText ht hrows hf hl
  have hcursor := Frame.cursorLine_putAndFollow ht hrows hd hp hne
  rw [hlines, List.length_map, range_length hf hl] at hcursor
  refine (copy_frame he hr destination).imp fun ed' hframe => ?_
  rw [hframe, ← hlines]
  exact ⟨Frame.lines_putAndFollow ht hrows hd hp hne, hcursor⟩

theorem move_leaves (he : ed.frame.isEditable) (ht : ed.frame.text = rows.flatten)
    (hrows : ∀ s ∈ rows, s.IsRow) (hl : last < rows.length) (hr : r.checked = .ok (first, last))
    {destination : Nat} (hd : destination ≤ rows.length)
    (ho : destination ≤ first ∨ last + 1 < destination) :
    Change.Leaves (ed.move r destination) fun ed' =>
      ed'.frame.text.lines = moved (rows.map Text.lineBody) first last destination ∧
      ed'.frame.cursorLine =
        if destination ≤ first then destination + (last - first) else destination - 1 := by
  refine (move_frame he hr ho).imp fun ed' hframe => ?_
  rw [hframe]
  exact Frame.moveLines_of_rows ht hrows (AddressRange.checked_le hr).1 hl hd ho

theorem enterText_leaves (he : ed.frame.isEditable) (ht : ed.frame.text = rows.flatten)
    (hrows : ∀ s ∈ rows, s.IsRow) (hl : last < rows.length) (hr : r.checked = .ok (first, last))
    (placement : Placement) {t : Text} (hp : (ed.expanded t).returnsPaired) :
    Change.Leaves (ed.enterText r placement t) fun ed' =>
      ed'.frame.text.lines = entered (rows.map Text.lineBody) first last
        (Text.lines (ed.expanded t ++ ed.frame.eol)) placement := by
  have hf := (AddressRange.checked_le hr).1
  refine (enterText_frame he hr placement t).imp fun ed' hframe => ?_
  rw [hframe]
  cases placement with
  | append => exact Frame.lines_insertLine ht hrows (by omega) hp
  | insert => exact Frame.lines_insertLine ht hrows (by omega) hp
  | change => exact Frame.lines_changeLines ht hrows hf hl hp

end verbs

/-- On a text whose last line is ended the verbs that edit whole lines are operations on its list of
lines: `d` takes a range out, `pu` and `t` put other lines at a place and go to the last of them, `m`
takes a range to another place and goes to its last line, and `a`, `i` and `c` enter lines after,
before and in place of a range. -/
theorem lineVerbs_edit_lines (ed : Editor) (first last : Nat) (he : ed.frame.isEditable)
    (hb : ed.frame.text.endsInBreak) (hp : ed.frame.text.returnsPaired)
    (hl : last < ed.frame.text.lines.length) :
    (∀ r arguments register count, readRegisterAndCount arguments = .ok (register, count) →
      (r.counted ed.frame count).checked = .ok (first, last) →
      Change.Leaves (ed.delete r arguments) fun ed' =>
        ed'.frame.text.lines = shown (without ed.frame.text.lines first last)) ∧
    (∀ line arguments register count t, line ≤ ed.frame.text.lines.length →
      readRegisterAndCount arguments = .ok (register, count) →
      ed.context.registers.get (register.getD .clipboard) = t → t ≠ [] → t.returnsPaired →
      Change.Leaves (ed.put line arguments) fun ed' =>
        ed'.frame.text.lines = putAt ed.frame.text.lines line t.lines ∧
        ed'.frame.cursorLine = line + t.lines.length - 1) ∧
    (∀ r destination, r.checked = .ok (first, last) → destination ≤ ed.frame.text.lines.length →
      Change.Leaves (ed.copy r destination) fun ed' =>
        ed'.frame.text.lines =
          putAt ed.frame.text.lines destination (range ed.frame.text.lines first last) ∧
        ed'.frame.cursorLine = destination + (last - first)) ∧
    (∀ r destination, r.checked = .ok (first, last) → destination ≤ ed.frame.text.lines.length →
      (destination ≤ first ∨ last + 1 < destination) →
      Change.Leaves (ed.move r destination) fun ed' =>
        ed'.frame.text.lines = moved ed.frame.text.lines first last destination ∧
        ed'.frame.cursorLine =
          if destination ≤ first then destination + (last - first) else destination - 1) ∧
    (∀ r placement t, r.checked = .ok (first, last) → (ed.expanded t).returnsPaired →
      Change.Leaves (ed.enterText r placement t) fun ed' =>
        ed'.frame.text.lines = entered ed.frame.text.lines first last
          (Text.lines (ed.expanded t ++ ed.frame.eol)) placement) := by
  obtain ⟨rows, ht, hrows, hne⟩ := Text.exists_rows_of_endsInBreak hp hb
  have hlines := Frame.lines_of_rows ht hrows hne
  rw [hlines, ← map_without, ← map_range, List.length_map]
  rw [hlines, List.length_map] at hl
  refine ⟨?delete, ?put, ?copy, ?move, ?enter⟩
  case delete =>
    intro r arguments register count hread hr
    exact delete_leaves he ht hrows hl hread hr
  case put =>
    intro line arguments register count t hn hread hget hne hp
    exact put_leaves he ht hrows hn hread hget hne hp
  case copy =>
    intro r destination hr hd
    exact copy_leaves he ht hrows hl hr hd
  case move =>
    intro r destination hr hd ho
    exact move_leaves he ht hrows hl hr hd ho
  case enter =>
    intro r placement t hr hp
    exact enterText_leaves he ht hrows hl hr placement hp

theorem lineVerbs_edit_lines_three :
    Change.Leaves ((ofText "a\r\nb\nc\n".toList).move ⟨{ line := 1 }, { line := 2 }⟩ 3) fun ed' =>
      ed'.frame.text.lines = ["c".toList, "a".toList, "b".toList] ∧ ed'.frame.cursorLine = 2 :=
  (lineVerbs_edit_lines (ofText "a\r\nb\nc\n".toList) 0 1 (by decide) (by decide) (by decide)
    (by decide)).2.2.2.1 ⟨{ line := 1 }, { line := 2 }⟩ 3 rfl (by decide) (by decide)

/-! The verbs that substitute replace the matches that are accepted and nothing else. -/

/-- A substitution that can be carried out leaves what its run over the lines leaves. -/
theorem runSubstitution_eq {ed : Editor} {r : AddressRange} {s : Substitution} {m : Matcher}
    {first last : Nat} (hr : r.editable ed.frame = .ok (first, last))
    (hm : s.matcher ed.context.settings.ignoreCase = .ok m) :
    ∃ ed', ed.runSubstitution r s = .ok (ed', .message ("Replaced: " ++
        Text.ofNat (s.run m first last ed.frame ed.host).count ++ " occurrences of: ".toList ++
        s.pattern)) ∧
      ed'.frame = (s.run m first last ed.frame ed.host).frame ∧
      ed'.host = (s.run m first last ed.frame ed.host).host := by
  simp only [runSubstitution, hr, hm, bind, Except.bind]
  exact ⟨_, rfl, rememberSearch_frame _ _, rememberSearch_host _ _⟩

/-- A substitution in lines of a text goes through the matches that its lines had before it, replaces
those that are accepted, tells how many these are and asks about each with its match selected in the
text as it stands. -/
theorem runSubstitution_replaces_accepted (ed : Editor) (r : AddressRange) (s : Substitution)
    (m : Matcher) (first last : Nat) (he : ed.frame.isEditable) (hp : ed.frame.text.returnsPaired)
    (hr : r.checked = .ok (first, last)) (hl : last < ed.frame.text.lines.length)
    (hm : s.matcher ed.context.settings.ignoreCase = .ok m)
    (hx : ∀ site ∈ s.sites m ed.frame.text first last,
      '\r' ∉ s.expansion (ed.frame.text.line site.line) site.found) :
    let t := ed.frame.text
    let verdict := s.judged m t first last ed.host
    (∃ ed', ed.runSubstitution r s = .ok (ed', .message ("Replaced: " ++
        Text.ofNat verdict.accepted.length ++ " occurrences of: ".toList ++ s.pattern)) ∧
      ed'.frame.text = s.rewritten t verdict.accepted ∧ ed'.host = verdict.host) ∧
    ∀ accepted, ∀ site ∈ s.sites m t first last,
      (s.draft t accepted site.line).slice (s.selected t accepted site).start
        (s.selected t accepted site).stop =
      (t.line site.line).slice site.found.start site.found.stop := by
  intro t verdict
  have hf := (AddressRange.checked_le hr).1
  have hsegments : last < ed.frame.text.segments.length :=
    Nat.lt_of_lt_of_le hl (Text.lines_length_le _)
  obtain ⟨htext, hcount, hhost⟩ := Substitution.run_judged s m hp hf hsegments ed.host hx
  obtain ⟨ed', hrun, hframe, hhost'⟩ := runSubstitution_eq (AddressRange.editable_ok hr he) hm
  constructor
  · exact ⟨ed', by rw [hrun, hcount], by rw [hframe, htext], by rw [hhost', hhost]⟩
  · exact fun accepted site hs =>
      Substitution.draft_selected s t accepted (Substitution.within_of_mem_sites hs)

/-- Of four matches the first is replaced by two lines, the second is refused, the third is replaced
and the last is cancelled. -/
theorem runSubstitution_replaces_accepted_four :
    ∃ ed', Editor.runSubstitution
        { ofText "a\r\naab\na".toList with
          host := { confirms := [⟨.yes, false⟩, ⟨.no, false⟩, ⟨.yes, false⟩, ⟨.cancel, false⟩] } }
        ⟨{ line := 1 }, { line := 3 }⟩
        { pattern := ['a'], replacement := "[&\n]".toList, flags := { global := true, confirm := true } } =
          .ok (ed', .message "Replaced: 2 occurrences of: a".toList) ∧
      ed'.frame.text = "[a\n]\r\na[a\n]b\na".toList := by
  obtain ⟨ed', h, htext, -⟩ := (runSubstitution_replaces_accepted
    { ofText "a\r\naab\na".toList with
      host := { confirms := [⟨.yes, false⟩, ⟨.no, false⟩, ⟨.yes, false⟩, ⟨.cancel, false⟩] } }
    ⟨{ line := 1 }, { line := 3 }⟩
    { pattern := ['a'], replacement := "[&\n]".toList, flags := { global := true, confirm := true } }
    ⟨#[.take [(97, 97)]]⟩ 0 2 (by decide) (by decide) rfl (by decide) rfl (by decide)).1
  exact ⟨ed', h, htext⟩

end Editor
end ExEditor
