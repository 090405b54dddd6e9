import ExEditor.Proofs.Frame.Rows

/-! What the verbs that edit whole lines do to the list of lines. -/
namespace ExEditor
namespace Frame
open LineList

section rows
variable {f : Frame} {rows : List Text}

theorem lines_of_rows (ht : f.text = rows.flatten) (hr : ∀ s ∈ rows, s.IsRow) (hne : rows ≠ []) :
    f.text.lines = rows.map Text.lineBody := by
  rw [ht, Text.lines_flatten hr hne]

/-- The lines of any rows, of none as well. -/
theorem lines_of_rows_shown (ht : f.text = rows.flatten) (hr : ∀ s ∈ rows, s.IsRow) :
    f.text.lines = shown (rows.map Text.lineBody) := by
  by_cases hn : rows = []
  · subst hn
    rw [ht]
    rfl
  · rw [shown, if_neg (by simpa using hn), lines_of_rows ht hr hn]

theorem linesText_paired (ht : f.text = rows.flatten) (hr : ∀ s ∈ rows, s.IsRow) {first last : Nat}
    (hf : first ≤ last) (hl : last < rows.length) : (f.linesText first last).returnsPaired := by
  rw [linesText_of_rows ht hr hl hf]
  exact Text.returnsPaired_flatten (isRow_range hr first last)

theorem range_ne_nil {first last : Nat} (hf : first ≤ last) (hl : last < rows.length) :
    range rows first last ≠ [] := by
  have h := range_length hf hl
  rintro h0
  rw [h0] at h
  simp at h

theorem linesText_ne_nil (ht : f.text = rows.flatten) (hr : ∀ s ∈ rows, s.IsRow) {first last : Nat}
    (hf : first ≤ last) (hl : last < rows.length) : f.linesText first last ≠ [] := by
  rw [linesText_of_rows ht hr hl hf]
  exact Text.flatten_ne_nil (isRow_range hr first last) (range_ne_nil hf hl)

/-- The text of some lines has just these lines. -/
theorem lines_linesText (ht : f.text = rows.flatten) (hr : ∀ s ∈ rows, s.IsRow) {first last : Nat}
    (hf : first ≤ last) (hl : last < rows.length) :
    (f.linesText first last).lines = (range rows first last).map Text.lineBody := by
  rw [linesText_of_rows ht hr hl hf]
  exact Text.lines_flatten (isRow_range hr first last) (range_ne_nil hf hl)

theorem deleteLines_of_rows (ht : f.text = rows.flatten) (hr : ∀ s ∈ rows, s.IsRow) {first last : Nat}
    (hf : first ≤ last) (hl : last < rows.length) :
    (f.deleteLines first last).text = (without rows first last).flatten :=
  cutLines_of_rows ht hr hf hl

theorem lines_deleteLines (ht : f.text = rows.flatten) (hr : ∀ s ∈ rows, s.IsRow) {first last : Nat}
    (hf : first ≤ last) (hl : last < rows.length) :
    (f.deleteLines first last).text.lines = shown ((without rows first last).map Text.lineBody) :=
  lines_of_rows_shown (deleteLines_of_rows ht hr hf hl) (isRow_without hr first last)

theorem lines_putAndFollow (ht : f.text = rows.flatten) (hr : ∀ s ∈ rows, s.IsRow) {n : Nat}
    (hn : n ≤ rows.length) {t : Text} (hp : t.returnsPaired) (hne : t ≠ []) :
    (f.putAndFollow n t).text.lines = putAt (rows.map Text.lineBody) n t.lines := by
  change (f.putLines n t).text.lines = _
  rw [lines_putLines ht hr hn hp hne, putAt, List.map_take, List.map_drop]

theorem putCount_eq {t : Text} (hp : t.returnsPaired) (hne : t ≠ []) : putCount t = t.lines.length := by
  have h := Text.rows_length hp hne
  have hpos := List.length_pos_iff.mpr (Text.lines_ne_nil hp hne)
  rw [putCount, if_neg hne, h]
  omega

/-- After a put the cursor stands on the last line that was put. -/
theorem cursorLine_putAndFollow (ht : f.text = rows.flatten) (hr : ∀ s ∈ rows, s.IsRow) {n : Nat}
    (hn : n ≤ rows.length) {t : Text} (hp : t.returnsPaired) (hne : t ≠ []) :
    (f.putAndFollow n t).cursorLine = n + t.lines.length - 1 := by
  have hlines := congrArg List.length (lines_putLines ht hr hn hp hne)
  have hle := (f.putLines n t).text.lines_length_le
  have hpos := List.length_pos_iff.mpr (Text.lines_ne_nil hp hne)
  simp only [List.length_append, List.length_map, List.length_take, List.length_drop] at hlines
  rw [putAndFollow, putCount_eq hp hne]
  exact cursorLine_goToLine (by omega)

/-- Moving lines is putting their text where they have been taken out. -/
theorem moveLines_eq (ht : f.text = rows.flatten) (hr : ∀ s ∈ rows, s.IsRow)
    {first last : Nat} (hf : first ≤ last) (hl : last < rows.length) (destination : Nat) :
    f.moveLines first last destination =
      (f.delete (f.lineStart first) (f.lineStart (last + 1))).putAndFollow
        (if last + 1 < destination then destination - (last - first + 1) else destination)
        (f.linesText first last) := by
  have hne : rows ≠ [] := by rintro rfl; simp at hl
  have hcount : putCount (f.linesText first last) = last - first + 1 := by
    rw [putCount_eq (linesText_paired ht hr hf hl) (linesText_ne_nil ht hr hf hl),
      lines_linesText ht hr hf hl, List.length_map, range_length hf hl]
  rw [putAndFollow, hcount]
  simp only [moveLines, deletionSpan_of_rows ht hr hne]

/-- Moving lines moves them in the list, and the cursor stands on the last of them. -/
theorem moveLines_of_rows (ht : f.text = rows.flatten) (hr : ∀ s ∈ rows, s.IsRow)
    {first last destination : Nat} (hf : first ≤ last) (hl : last < rows.length)
    (hd : destination ≤ rows.length) (ho : destination ≤ first ∨ last + 1 < destination) :
    (f.moveLines first last destination).text.lines =
        moved (rows.map Text.lineBody) first last destination ∧
      (f.moveLines first last destination).cursorLine =
        if destination ≤ first then destination + (last - first) else destination - 1 := by
  have hcut := delete_span_of_rows ht hr hf hl
  have hr' := isRow_without hr first last
  have hlen := without_length hf hl
  have hp := linesText_paired ht hr hf hl
  have hn := linesText_ne_nil ht hr hf hl
  have hlines := lines_linesText ht hr hf hl
  have hat : (if last + 1 < destination then destination - (last - first + 1) else destination) ≤
      (without rows first last).length := by split <;> omega
  rw [moveLines_eq ht hr hf hl]
  constructor
  · rw [lines_putAndFollow hcut hr' hat hp hn, hlines, map_without, map_range]
    exact putAt_without hf (by simpa using hl) ho
  · rw [cursorLine_putAndFollow hcut hr' hat hp hn, hlines, List.length_map, range_length hf hl]
    split <;> split <;> omega

/-- Entering a line of text puts its lines, completed by a break. -/
theorem lines_insertLine (ht : f.text = rows.flatten) (hr : ∀ s ∈ rows, s.IsRow) {n : Nat}
    (hn : n ≤ rows.length) {t : Text} (hp : t.returnsPaired) :
    (f.insertLine n t).text.lines =
      putAt (rows.map Text.lineBody) n (Text.lines (t ++ f.eol)) := by
  change (f.putLines n (t ++ f.eol)).text.lines = _
  rw [lines_putLines ht hr hn (returnsPaired_eol hp) (f.append_eol_ne_nil t), putAt, List.map_take,
    List.map_drop]

/-- Changing lines puts the lines of a text in their place. -/
theorem lines_changeLines (ht : f.text = rows.flatten) (hr : ∀ s ∈ rows, s.IsRow)
    {first last : Nat} (hf : first ≤ last) (hl : last < rows.length) {t : Text}
    (hp : t.returnsPaired) :
    (f.changeLines first last t).text.lines =
      (rows.map Text.lineBody).take first ++ Text.lines (t ++ f.eol) ++
        (rows.map Text.lineBody).drop (last + 1) := by
  have hcut := cutLines_of_rows ht hr hf hl
  have hr' := isRow_without hr first last
  have hlen := without_length hf hl
  have hat : (if (f.cutLines first last).length = 0 then 0 else first) = first := by
    split
    · next h0 =>
      have hw : without rows first last = [] := by
        by_contra hw
        exact Text.flatten_ne_nil hr' hw (hcut ▸ List.eq_nil_of_length_eq_zero h0)
      rw [hw, List.length_nil] at hlen
      omega
    · rfl
  unfold changeLines
  change ((f.cutLines first last).insertLine
    (if (f.cutLines first last).length = 0 then 0 else first) t).text.lines = _
  rw [hat, lines_insertLine hcut hr' (by omega) hp, cutLines_eol, map_without,
    putAt_without_first (by simp; omega)]

end rows

end Frame
end ExEditor
