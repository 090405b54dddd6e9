import ExEditor.Proofs.Frame.OpenEnd
import ExEditor.Proofs.Frame.PutBack
import ExEditor.Proofs.Frame.Shift
import ExEditor.Proofs.Frame.Sort
import ExEditor.Proofs.Session.LineVerbs
import Mathlib.Data.List.Forall2

/-! What becomes of the lines of a text that a verb works on, whatever the last line ends in: when lines are edited as a
whole, put back where they were taken from, sorted, indented and outdented. -/
namespace ExEditor
open LineList

/-! The verbs that edit whole lines, in a text whose last line lacks its break. -/

/-- Whether all lines have a place when a line of text is entered after, before or in place of others. -/
def Frame.EntersAll (f : Frame) (first last : Nat) (t : Text) : Editor.Placement → Prop
  | .append => f.PutsAll (last + 1) (t ++ f.eol)
  | .insert => True
  | .change => f.CutsClean first last ∧ (0 < first → f.PutsAll (last + 1) (t ++ f.eol))

namespace Editor

theorem lines_placeText_iff {f : Frame} {rows : List Text} {rest t : Text} {first last : Nat}
    (h : Text.Open f.text rows rest) (hf : first ≤ last) (hl : last < f.text.lines.length) (hp : t.returnsPaired)
    (placement : Placement) :
    (placeText f first last t placement).text.lines =
        entered f.text.lines first last (Text.lines (t ++ f.eol)) placement ↔ f.EntersAll first last t placement := by
  have hpaired : Text.returnsPaired (t ++ f.eol) := Frame.returnsPaired_eol hp
  have hne := f.append_eol_ne_nil t
  cases placement with
  | append => exact Frame.lines_putLines_iff h hpaired hne hl
  | insert =>
    have hplace : f.PutsAll first (t ++ f.eol) := fun hbad => by omega
    exact iff_of_true ((Frame.lines_putLines_iff h hpaired hne (by omega)).mpr hplace) trivial
  | change => exact Frame.lines_changeLines_iff h hf hl hp

/-- On a text whose last line lacks its break, too, the verbs that edit whole lines are operations on its list of
lines, up to the places where its end is taken for that of the line before: an empty last line that is put behind all
others is lost, and so is an empty line in front of the last ones when these are moved or changed. Moving keeps all
lines unless that happens. -/
theorem lineVerbs_edit_open_lines_iff (ed : Editor) (first last : Nat) (he : ed.frame.isEditable)
    (hne : ed.frame.text ≠ []) (hb : ¬ ed.frame.text.endsInBreak) (hp : ed.frame.text.returnsPaired)
    (hl : last < ed.frame.text.lines.length) :
    (∀ line arguments register count t, line ≤ ed.frame.text.lines.length →
      readRegisterAndCount arguments = .ok (register, count) →
      ed.context.registers.get (register.getD .clipboard) = t → t ≠ [] → t.returnsPaired →
      Change.Leaves (ed.put line arguments) fun ed' =>
        ed'.frame.text.lines = putAt ed.frame.text.lines line t.lines ↔ ed.frame.PutsAll line t) ∧
    (∀ r destination, r.checked = .ok (first, last) → destination ≤ ed.frame.text.lines.length →
      Change.Leaves (ed.copy r destination) fun ed' =>
        ed'.frame.text.lines = putAt ed.frame.text.lines destination (range ed.frame.text.lines first last) ↔
          ed.frame.PutsAll destination (ed.frame.linesText first last)) ∧
    (∀ r destination, r.checked = .ok (first, last) → destination ≤ ed.frame.text.lines.length →
      (destination ≤ first ∨ last + 1 < destination) →
      (moved ed.frame.text.lines first last destination).Perm ed.frame.text.lines ∧
      Change.Leaves (ed.move r destination) fun ed' =>
        ed'.frame.text.lines = moved ed.frame.text.lines first last destination ↔
          ed.frame.MovesAll first last destination) ∧
    (∀ r placement t, r.checked = .ok (first, last) → (ed.expanded t).returnsPaired →
      Change.Leaves (ed.enterText r placement t) fun ed' =>
        ed'.frame.text.lines = entered ed.frame.text.lines first last
          (Text.lines (ed.expanded t ++ ed.frame.eol)) placement ↔
            ed.frame.EntersAll first last (ed.expanded t) placement) := by
  obtain ⟨rows, rest, h⟩ := Text.exists_open hp hne hb
  refine ⟨?put, ?copy, ?move, ?enter⟩
  case put =>
    intro line arguments register count t hn hread hget ht hpaired
    refine (put_frame he hread hget ht).imp fun ed' hframe => ?_
    rw [hframe]
    exact Frame.lines_putLines_iff h hpaired ht hn
  case copy =>
    intro r destination hr hd
    obtain ⟨hpaired, ht, hlines⟩ := Frame.linesText_open h (AddressRange.checked_le hr).1 hl
    refine (copy_frame he hr destination).imp fun ed' hframe => ?_
    rw [hframe, ← hlines]
    exact Frame.lines_putLines_iff h hpaired ht hd
  case move =>
    intro r destination hr hd ho
    have hf := (AddressRange.checked_le hr).1
    refine ⟨moved_perm hf ho, (move_frame he hr ho).imp fun ed' hframe => ?_⟩
    rw [hframe]
    exact Frame.lines_moveLines_iff h hf hl hd ho
  case enter =>
    intro r placement t hr hpaired
    refine (enterText_frame he hr placement t).imp fun ed' hframe => ?_
    rw [hframe]
    exact lines_placeText_iff h (AddressRange.checked_le hr).1 hl hpaired placement

/-- A last line without a break, moved in front of an empty line. -/
theorem lineVerbs_edit_open_lines_iff_empty :
    Change.Leaves ((ofText "a\n\nb\nc".toList).move ⟨{ line := 4 }, { line := 4 }⟩ 1) fun ed' =>
      ed'.frame.text.lines = ["a".toList, "c".toList, [], "b".toList] := by
  have h := (lineVerbs_edit_open_lines_iff (ofText "a\n\nb\nc".toList) 3 3 (by decide) (by decide) (by decide)
    (by decide) (by decide)).2.2.1 ⟨{ line := 4 }, { line := 4 }⟩ 1 rfl (by decide) (by decide)
  exact h.2.imp fun ed' hmoved => hmoved.mpr (by decide)

/-- A last line without a break, moved from behind an empty line, which is lost. -/
theorem move_last_loses_empty :
    Change.Leaves ((ofText "a\n\nb".toList).move ⟨{ line := 3 }, { line := 3 }⟩ 1) fun ed' =>
      ed'.frame.text.lines = ["a".toList, "b".toList] ∧
        ¬ ed'.frame.text.lines.Perm (ofText "a\n\nb".toList).frame.text.lines :=
  ⟨_, _, rfl, rfl, by decide, by decide⟩

end Editor

/-! Lines that are yanked, deleted and put back where they were, by the verbs `y`, `d` and `pu`. -/

namespace Editor

section verbs
variable {ed : Editor} {first last : Nat} {r : AddressRange} {arguments : Text}

/-- A yank changes the registers only. -/
theorem yank_leaves {register : Option RegisterName} (hread : readRegisterAndCount arguments = .ok (register, none))
    (hr : r.checked = .ok (first, last)) :
    Change.Leaves (ed.yank r arguments) (· = ed.mapRegisters (·.yank register (ed.frame.linesText first last))) := by
  refine ⟨_, reportLines (last - first + 1) "yanked", ?_, reportLines_isFailure _ _, rfl⟩
  simp only [yank, hread, AddressRange.counted, hr, bind, Except.bind]
  rfl

/-- A delete without a register takes lines out and keeps them on the clipboard. -/
theorem delete_clips (he : ed.frame.isEditable) (hread : readRegisterAndCount arguments = .ok (none, none))
    (hr : r.checked = .ok (first, last)) :
    Change.Leaves (ed.delete r arguments) fun ed' =>
      ed'.frame = ed.frame.deleteLines first last ∧
        ed'.context.registers.get .clipboard = ed.frame.linesText first last := by
  refine ⟨(ed.mapRegisters (·.delete none (ed.frame.linesText first last))).mapFrame (·.deleteLines first last),
    reportLines (last - first + 1) "deleted", ?_, reportLines_isFailure _ _, rfl, rfl⟩
  simp only [delete, hread, AddressRange.counted, AddressRange.editable_ok hr he, bind, Except.bind]
  rfl

/-- A put without a register puts what the clipboard holds, or fails if that is nothing. -/
theorem put_clip {count : Option Nat} {t : Text} (he : ed.frame.isEditable)
    (hread : readRegisterAndCount arguments = .ok (none, count)) (hget : ed.context.registers.get .clipboard = t)
    (line : Nat) :
    (t = [] → ed.put line arguments = .error (.malformed .nothingToPut)) ∧
      (t ≠ [] → Change.Leaves (ed.put line arguments) fun ed' => ed'.frame = ed.frame.putAndFollow line t) := by
  have hput : ed.put line arguments = if t = [] then .error (.malformed .nothingToPut)
      else .ok (ed.mapFrame (·.putAndFollow line t), reportLines (Frame.putCount t) "put") := by
    simp only [put, hread, he, hget, bind, Except.bind, Option.getD_none, Bool.not_true, Bool.false_eq_true,
      ↓reduceIte]
    split <;> rfl
  rw [hput]
  constructor
  · intro h
    rw [if_pos h]
  · intro h
    rw [if_neg h]
    exact ⟨_, _, rfl, reportLines_isFailure _ _, rfl⟩

end verbs

/-- Lines of a frame that may be edited are yanked, deleted without a register and put back where they were. This
gives back the text, byte for byte, for just the lines that come back to their place, which all lines do where every
line is ended by a feed. An empty text has nothing that could be put, and stays empty. -/
theorem delete_put_restores_iff {ed : Editor} (he : ed.frame.isEditable) {r : AddressRange} {first last : Nat}
    (hr : r.checked = .ok (first, last)) (hl : last < ed.frame.text.lineCount) {ya da pa : Text}
    {register : Option RegisterName} {count : Option Nat} (hya : readRegisterAndCount ya = .ok (register, none))
    (hda : readRegisterAndCount da = .ok (none, none)) (hpa : readRegisterAndCount pa = .ok (none, count)) :
    (Change.Leaves (ed.yank r ya) fun yanked => Change.Leaves (yanked.delete r da) fun deleted =>
      (ed.frame.text = [] → deleted.frame.text = [] ∧ deleted.put first pa = .error (.malformed .nothingToPut)) ∧
      (ed.frame.text ≠ [] → Change.Leaves (deleted.put first pa) fun restored =>
        restored.frame.text = ed.frame.text ↔ ed.frame.PutsBack first last)) ∧
    (ed.frame.text.endsInBreak → ed.frame.text.returnsPaired → ed.frame.PutsBack first last) := by
  have hf := (AddressRange.checked_le hr).1
  refine ⟨(yank_leaves hya hr).imp ?_, fun hb hp => Frame.putsBack_of_ended hb hp first last⟩
  rintro yanked hyanked
  have hsame : yanked.frame = ed.frame := by rw [hyanked]; rfl
  refine (delete_clips (hsame ▸ he) hda hr).imp ?_
  rintro deleted ⟨hframe, hclip⟩
  rw [hsame] at hframe hclip
  have hdeleted : deleted.frame.isEditable := by
    rw [hframe, (Frame.edited_deleteLines ed.frame first last).isEditable]
    exact he
  obtain ⟨hnothing, hputs⟩ := put_clip hdeleted hpa hclip first
  refine ⟨fun hnil => ⟨?_, hnothing ?_⟩, fun hne => ?_⟩
  · rw [hframe, Frame.deleteLines_text _ hf, hnil, List.take_nil, List.drop_nil, List.append_nil]
  · rw [Frame.linesText_eq_slice, hnil, Text.slice, List.take_nil, List.drop_nil]
  · have ht := Frame.linesText_ne_nil_of_text hf hl hne
    refine (hputs ht).imp ?_
    rintro restored hrestored
    rw [hrestored, hframe]
    exact Frame.putBack_iff hf hl ht

/-- Two lines without a last break, behind an empty line. -/
theorem delete_put_restores_iff_last :
    let ed := ofText "\na\nb\nc".toList
    Change.Leaves (ed.yank ⟨{ line := 3 }, { line := 4 }⟩ ['x']) fun yanked =>
      Change.Leaves (yanked.delete ⟨{ line := 3 }, { line := 4 }⟩ []) fun deleted =>
        Change.Leaves (deleted.put 2 []) fun restored => restored.frame.text = "\na\nb\nc".toList := by
  have h := (@delete_put_restores_iff (ofText "\na\nb\nc".toList) (by decide) ⟨{ line := 3 }, { line := 4 }⟩ 2 3 rfl
    (by decide) ['x'] [] [] _ _ rfl rfl rfl).1
  refine h.imp fun yanked hyanked => hyanked.imp fun deleted hdeleted => ?_
  exact (hdeleted.2 (by decide)).imp fun restored hrestored => hrestored.mpr (by decide)

/-- A last line behind an empty one comes back without the break between them: the empty line in front is taken for
the end of a text whose last line is ended. -/
theorem delete_put_behind_empty :
    let ed := ofText "a\n\nb".toList
    Change.Leaves (ed.yank ⟨{ line := 3 }, { line := 3 }⟩ []) fun yanked =>
      Change.Leaves (yanked.delete ⟨{ line := 3 }, { line := 3 }⟩ []) fun deleted =>
        Change.Leaves (deleted.put 2 []) fun restored =>
          restored.frame.text = "a\nb".toList ∧ restored.frame.text ≠ ed.frame.text :=
  ⟨_, _, rfl, rfl, _, _, rfl, rfl, _, _, rfl, rfl, by decide, by decide⟩

end Editor

/-! The verb that sorts lines. -/

/-- What is said of lines that were dropped. -/
def reportDropped (count : Nat) : Outcome :=
  if 0 < count then .message (plural count "duplicate line" ++ " removed") else .success

namespace Editor
variable {ed : Editor} {r : AddressRange} {arguments : Text} {options : SortOptions} {first last : Nat}

theorem sort_eq (he : ed.frame.isEditable) (hr : r.checked = .ok (first, last))
    (hread : SortOptions.read arguments = .ok options) :
    ed.sort r arguments = .ok (ed.mapFrame (·.sortLines options first last),
      reportDropped (last - first + 1 - (ed.frame.sortedTexts options first last).length)) := by
  simp only [sort, hread, AddressRange.editable_ok hr he, bind, Except.bind]
  rfl

/-- Sorting is stable. The lines of a range are put in the order of their keys, which are what stands in the window
of columns that the options write, and those of one key in the order they had. Where keys are to be unique the first
line of each is left, and the number of those dropped is reported. Where a block is selected its pieces of the lines
are put in this order, and each line keeps what stands on both sides of its piece. Nothing outside of the range
changes. -/
theorem sort_is_stable (ed : Editor) (r : AddressRange) (arguments : Text) (options : SortOptions) (first last : Nat)
    (he : ed.frame.isEditable) (hr : r.checked = .ok (first, last)) (hl : last < ed.frame.text.lineCount)
    (hread : SortOptions.read arguments = .ok options) :
    let lines := range ed.frame.text.lines first last
    options.WrittenBy arguments ∧
      (∀ t n, (options.key t)[n]? = if ∀ k ∈ options.length, n < k then t[options.start + n]? else none) ∧
      ∃ after dropped ed', ed.sort r arguments = .ok (ed', reportDropped dropped) ∧
      dropped + after.length = lines.length ∧
      ed'.frame.text = ed.frame.text.take (ed.frame.lineStart first) ++
        (Text.join ed.frame.eol after ++ ed.frame.text.drop (ed.frame.lineEnd last)) ∧
      (¬ ed.frame.HasBlock → options.Sorts options.unique lines after) ∧
      (ed.frame.HasBlock → ∀ left right, ed.frame.blockColumns = (left, right) → ∃ pieces,
        pieces.Perm (lines.map (SortOptions.piece left right)) ∧
          options.Sorts false (lines.map (SortOptions.piece left right)) pieces ∧
          after = List.zipWith (SortOptions.putPiece left right) lines pieces) := by
  intro lines
  have hf := (AddressRange.checked_le hr).1
  have hlines : ed.frame.lineTexts first last = lines := ed.frame.lineTexts_eq hl
  have hlength : lines.length = last - first + 1 := by
    rw [← hlines, Frame.lineTexts, List.length_map, Frame.lineRange, List.length_range']
    omega
  refine ⟨SortOptions.writtenBy_of_read hread, options.getElem?_key, ed.frame.sortedTexts options first last, _, _,
    sort_eq he hr hread, ?dropped, ed.frame.replaceLines_text hf _, fun hplain => ?plain,
    fun hblock left right hc => ?block⟩
  case dropped =>
    have hle := ed.frame.length_sortedTexts_le options first last
    rw [hlines] at hle
    omega
  case plain =>
    rw [ed.frame.sortedTexts_plain hplain, hlines]
    exact options.sorts_arrange lines
  case block =>
    refine ⟨options.sorted (lines.map (SortOptions.piece left right)), ?_, options.sorts_sorted _, ?_⟩
    · exact (options.sorts_sorted _).perm
    · rw [ed.frame.sortedTexts_block hblock hc, hlines, options.arrangeBlock_eq]

/-- The second columns are b, a, b and a, in four lines of five. -/
theorem sort_is_stable_unique :
    let ed := ofText "xb\nya\nzb\nwa\nz\n".toList
    ∃ ed', ed.sort ⟨{ line := 1 }, { line := 4 }⟩ "2u".toList = .ok (ed', .message "2 duplicate lines removed".toList) ∧
      ed'.frame.text = "ya\nxb\nz\n".toList := by
  intro ed
  have hread : SortOptions.read "2u".toList = .ok { unique := true, start := 1 } := by decide
  obtain ⟨-, -, after, dropped, ed', hsort, hcount, htext, hplain, -⟩ :=
    sort_is_stable ed ⟨{ line := 1 }, { line := 4 }⟩ "2u".toList _ 0 3 (by decide) rfl (by decide) hread
  have hsorts : SortOptions.Sorts { unique := true, start := 1 } true (range ed.frame.text.lines 0 3)
      ["ya".toList, "xb".toList] := by
    refine ⟨by unfold SortOptions.Precedes; decide, fun k => ?_⟩
    have hkeys : ∀ a ∈ ["ya".toList, "xb".toList] ++ range ed.frame.text.lines 0 3,
        SortOptions.key { unique := true, start := 1 } a ∈ [['a'], ['b']] := by decide
    by_cases hk : k ∈ [['a'], ['b']]
    · rcases List.mem_pair.mp hk with rfl | rfl <;> decide
    · have hother : ∀ a ∈ ["ya".toList, "xb".toList] ++ range ed.frame.text.lines 0 3,
          SortOptions.key { unique := true, start := 1 } a ≠ k := fun a ha => ne_of_mem_of_not_mem (hkeys a ha) hk
      rw [SortOptions.ofKey_eq_nil fun a ha => hother a (List.mem_append_left _ ha),
        SortOptions.ofKey_eq_nil fun a ha => hother a (List.mem_append_right _ ha)]
      rfl
  have hafter := (hplain fun hblock => absurd hblock.1 (by decide)).unique hsorts
  subst hafter
  obtain rfl : dropped = 2 := by
    have hlines : (range ed.frame.text.lines 0 3).length = 4 := by decide
    simp [hlines] at hcount
    omega
  exact ⟨ed', hsort, htext.trans (by decide)⟩

end Editor

/-! The verbs that indent and outdent lines. -/

namespace Editor

end Editor
end ExEditor
