import ExEditor.Frame.Edit
import ExEditor.Proofs.Frame.Edited
import ExEditor.Proofs.Text.LineList
import ExEditor.Proofs.Text.Rows

/-! Edits of whole lines on a frame whose text is a list of rows: each is an operation on that list. -/
namespace ExEditor

theorem LineBreak.text_eq (b : LineBreak) : b.text = ['\n'] ∨ b.text = ['\r', '\n'] := by
  cases b <;> simp [LineBreak.text]

namespace Frame
open LineList

theorem eol_eq (f : Frame) : f.eol = ['\n'] ∨ f.eol = ['\r', '\n'] := f.lineBreak.text_eq

/-- The end of a line completes any text. -/
theorem endsInBreak_eol (f : Frame) (t : Text) : Text.endsInBreak (t ++ f.eol) := by
  rcases f.eol_eq with h | h <;> simp [h, Text.endsInBreak, Text.isBreak]

theorem returnsPaired_eol {f : Frame} {t : Text} (h : t.returnsPaired) :
    Text.returnsPaired (t ++ f.eol) := by
  apply Text.returnsPaired_append h
  rcases f.eol_eq with h | h <;> simp [h, Text.returnsPaired]

theorem append_eol_ne_nil (f : Frame) (t : Text) : t ++ f.eol ≠ [] := by
  rcases f.eol_eq with h | h <;> simp [h]

theorem insert_text (f : Frame) (offset : Nat) (t : Text) :
    (f.insert offset t).text = f.text.take (f.clamp offset) ++ (t ++ f.text.drop (f.clamp offset)) := by
  unfold insert
  split
  · next h => simp [h]
  · rfl

theorem delete_text (f : Frame) {a b : Nat} (hab : a ≤ b) (hb : b ≤ f.length) :
    (f.delete a b).text = f.text.take a ++ f.text.drop b := by
  have ha : f.clamp (min a b) = a := by simp [clamp]; omega
  have hb : f.clamp (max a b) = b := by simp [clamp]; omega
  unfold delete
  rw [ha, hb]
  by_cases h : a = b
  · simp [h]
  · simp [h]

@[simp] theorem delete_lineBreak (f : Frame) (a b : Nat) :
    (f.delete a b).lineBreak = f.lineBreak := by
  unfold delete
  by_cases h : f.clamp (min a b) = f.clamp (max a b) <;> simp [h]

@[simp] theorem cutLines_eol (f : Frame) (first last : Nat) : (f.cutLines first last).eol = f.eol :=
  congrArg LineBreak.text (delete_lineBreak _ _ _)

theorem lineStart_le (f : Frame) (n : Nat) : f.lineStart n ≤ f.length := by
  simp only [lineStart, Text.lineStart, length]
  omega

theorem lineStart_mono (f : Frame) {m n : Nat} (h : m ≤ n) : f.lineStart m ≤ f.lineStart n :=
  f.text.lineStart_mono h

theorem clamp_lineStart (f : Frame) (n : Nat) : f.clamp (f.lineStart n) = f.lineStart n :=
  Nat.min_eq_left (f.lineStart_le n)

theorem lineAt_eq {f : Frame} {offset : Nat} (h : offset ≤ f.length) : f.lineAt offset = f.text.lineAt offset := by
  rw [lineAt, clamp, Nat.min_eq_left h]

theorem lineCount?_eq {f : Frame} (hs : f.streaming = false) : f.lineCount? = some f.text.lineCount := by
  simp [lineCount?, hs]

section counted
variable {f : Frame} {count : Nat} (hc : f.lineCount? = some count)
include hc

theorem lineCount_eq : f.text.lineCount = count := by
  unfold lineCount? at hc
  split at hc
  · cases hc
  · exact Option.some.inj hc

theorem count_pos : 0 < count := lineCount_eq hc ▸ f.text.lineCount_pos

theorem cursorLine_le : f.cursorLine ≤ count :=
  calc f.cursorLine ≤ f.text.breakCount := f.text.lineAt_le _
    _ ≤ f.text.lineCount := f.text.breakCount_le_lineCount
    _ = count := lineCount_eq hc

theorem count_le_segments : count ≤ f.text.segments.length :=
  lineCount_eq hc ▸ f.text.lineCount_le_segments

end counted

/-- The cursor goes to the line it is sent to. -/
theorem cursorLine_goToLine {f : Frame} {n : Nat} (h : n < f.text.segments.length) :
    (f.goToLine n).cursorLine = n := by
  have hc : (f.goToLine n).clamp (f.goToLine n).cursor = f.lineStart n := by
    change f.clamp (f.clamp (f.lineStart n)) = _
    rw [clamp_lineStart, clamp_lineStart]
  rw [cursorLine, lineAt, hc]
  exact Text.lineAt_lineStart h

section rows
variable {f : Frame} {rows : List Text}

theorem isRow_without (hr : ∀ s ∈ rows, s.IsRow) (first last : Nat) :
    ∀ s ∈ without rows first last, s.IsRow := by
  intro s hs
  rcases List.mem_append.mp hs with hs | hs
  · exact hr s (List.mem_of_mem_take hs)
  · exact hr s (List.mem_of_mem_drop hs)

theorem isRow_range (hr : ∀ s ∈ rows, s.IsRow) (first last : Nat) :
    ∀ s ∈ range rows first last, s.IsRow :=
  fun s hs => hr s (List.mem_of_mem_take (List.mem_of_mem_drop hs))

theorem segments_of_rows (ht : f.text = rows.flatten) (hr : ∀ s ∈ rows, s.IsRow) :
    f.text.segments = rows ++ [[]] := by
  have h := Text.segments_rows hr []
  rw [List.append_nil] at h
  rw [ht, h]
  rfl

theorem breakCount_of_rows (ht : f.text = rows.flatten) (hr : ∀ s ∈ rows, s.IsRow) :
    f.text.breakCount = rows.length := by
  have h := f.text.segments_length
  rw [segments_of_rows ht hr, List.length_append, List.length_singleton] at h
  omega

theorem lineStart_of_rows (ht : f.text = rows.flatten) (hr : ∀ s ∈ rows, s.IsRow) {n : Nat}
    (hn : n ≤ rows.length) : f.lineStart n = (rows.take n).flatten.length := by
  rw [lineStart, Text.lineStart_eq, segments_of_rows ht hr, List.take_append_of_le_length hn]

theorem take_of_rows (ht : f.text = rows.flatten) (hr : ∀ s ∈ rows, s.IsRow) {n : Nat}
    (hn : n ≤ rows.length) : f.text.take (f.lineStart n) = (rows.take n).flatten := by
  rw [lineStart, Text.take_lineStart, segments_of_rows ht hr, List.take_append_of_le_length hn]

theorem drop_of_rows (ht : f.text = rows.flatten) (hr : ∀ s ∈ rows, s.IsRow) {n : Nat}
    (hn : n ≤ rows.length) : f.text.drop (f.lineStart n) = (rows.drop n).flatten := by
  rw [lineStart, Text.drop_lineStart, segments_of_rows ht hr, List.drop_append_of_le_length hn]
  simp

theorem linesText_of_rows (ht : f.text = rows.flatten) (hr : ∀ s ∈ rows, s.IsRow) {first last : Nat}
    (hl : last < rows.length) (hf : first ≤ last) :
    f.linesText first last = (range rows first last).flatten := by
  have h := lineStart_of_rows ht hr (n := first) (by omega)
  change (f.text.take (f.lineStart (last + 1))).drop (f.lineStart first) = _
  rw [take_of_rows ht hr (by omega), h]
  have hs : (rows.take (last + 1)).flatten =
      (rows.take first).flatten ++ (range rows first last).flatten := by
    rw [← List.flatten_append, range, take_append_drop_take rows (by omega)]
  rw [hs, List.drop_left]

theorem endsInBreak_of_rows (ht : f.text = rows.flatten) (hr : ∀ s ∈ rows, s.IsRow)
    (hne : rows ≠ []) : f.text.endsInBreak := by
  rw [ht]
  exact Text.endsInBreak_flatten hr hne

theorem deletionSpan_of_rows (ht : f.text = rows.flatten) (hr : ∀ s ∈ rows, s.IsRow)
    (hne : rows ≠ []) (first last : Nat) :
    f.deletionSpan first last = (f.lineStart first, f.lineStart (last + 1)) := by
  have he := endsInBreak_of_rows ht hr hne
  simp [deletionSpan, linesSpan, he]

/-- Deleting lines takes their rows out. -/
theorem delete_span_of_rows (ht : f.text = rows.flatten) (hr : ∀ s ∈ rows, s.IsRow)
    {first last : Nat} (hf : first ≤ last) (hl : last < rows.length) :
    (f.delete (f.lineStart first) (f.lineStart (last + 1))).text =
      (without rows first last).flatten := by
  rw [delete_text f (f.lineStart_mono (by omega)) (f.lineStart_le _),
    take_of_rows ht hr (by omega), drop_of_rows ht hr (by omega), without, List.flatten_append]

theorem cutLines_of_rows (ht : f.text = rows.flatten) (hr : ∀ s ∈ rows, s.IsRow)
    {first last : Nat} (hf : first ≤ last) (hl : last < rows.length) :
    (f.cutLines first last).text = (without rows first last).flatten := by
  have hne : rows ≠ [] := by rintro rfl; simp at hl
  unfold cutLines
  rw [deletionSpan_of_rows ht hr hne]
  exact delete_span_of_rows (f := f.clearMarksWithin _ _) ht hr hf hl

/-- Putting a text puts its lines between the rows. -/
theorem lines_putLines (ht : f.text = rows.flatten) (hr : ∀ s ∈ rows, s.IsRow) {n : Nat}
    (hn : n ≤ rows.length) {t : Text} (hp : t.returnsPaired) (hne : t ≠ []) :
    (f.putLines n t).text.lines =
      (rows.take n).map Text.lineBody ++ t.lines ++ (rows.drop n).map Text.lineBody := by
  have hf : ∀ s ∈ rows.take n, s.IsRow := fun s hs => hr s (List.mem_of_mem_take hs)
  have hb : ∀ s ∈ rows.drop n, s.IsRow := fun s hs => hr s (List.mem_of_mem_drop hs)
  have put : ∀ u, (f.insert (f.lineStart n) u).text =
      (rows.take n).flatten ++ u ++ (rows.drop n).flatten := by
    intro u
    rw [insert_text, clamp_lineStart, take_of_rows ht hr hn, drop_of_rows ht hr hn,
      List.append_assoc]
  by_cases h0 : rows = []
  · subst h0
    have h00 : n = 0 := by simpa using hn
    subst h00
    have hl : f.length = 0 := by simp [length, ht]
    simp [putLines, hne, hl, insert_text, ht]
  have he := endsInBreak_of_rows ht hr h0
  have hl : f.length ≠ 0 := by
    intro h
    rw [List.eq_nil_of_length_eq_zero h] at he
    simp [Text.endsInBreak] at he
  have hlast : f.lineStart n < f.length ∨ rows.drop n = [] := by
    have h := congrArg List.length (drop_of_rows ht hr hn)
    rw [List.length_drop] at h
    change f.length - f.lineStart n = _ at h
    rcases Nat.lt_or_ge (f.lineStart n) f.length with hlt | hge
    · exact .inl hlt
    · rw [Nat.sub_eq_zero_of_le hge] at h
      refine .inr (List.eq_nil_iff_forall_not_mem.mpr fun s hs => (hb s hs).ne_nil ?_)
      exact List.flatten_eq_nil_iff.mp (List.eq_nil_of_length_eq_zero h.symm) s hs
  by_cases hc : f.lineStart n < f.length ∧ ¬ t.endsInBreak
  · have hs : f.putLines n t = f.insert (f.lineStart n) (t ++ f.eol) := by
      simp [putLines, hne, hl, he, hc]
    rw [hs, put, Text.lines_between hf hb (returnsPaired_eol hp) (f.append_eol_ne_nil t)
      (.inr (f.endsInBreak_eol t)), Text.lines_completed hp hne hc.2 f.eol_eq]
  · have hs : f.putLines n t = f.insert (f.lineStart n) t := by
      simp only [putLines, hne, hl, he, not_true_eq_false, and_false, false_and, ↓reduceIte]
      rw [if_neg hc]
    have hends : rows.drop n = [] ∨ t.endsInBreak := by
      rcases hlast with h | h
      · exact .inr (by simpa [h] using hc)
      · exact .inl h
    rw [hs, put, Text.lines_between hf hb hp hne hends]

end rows

end Frame
end ExEditor
