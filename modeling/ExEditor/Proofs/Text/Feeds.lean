import ExEditor.Proofs.Text.Rows

/-! Lines counted by line feeds. In a text whose carriage returns all stand before line feeds the line of an
offset is the number of line feeds in front of it, and a line starts where that number is reached. -/
namespace ExEditor
namespace Text

/-- Whether an offset is the one behind a line feed, or that of the text itself. -/
def StartsLine (t : Text) (offset : Nat) : Prop := ∀ c ∈ (t.take offset).getLast?, c = '\n'

theorem IsRow.getLast? {s : Text} (hs : IsRow s) (t : Text) : (t ++ s).getLast? = some '\n' := by
  obtain ⟨body, -, rfl | rfl⟩ := hs <;> simp

theorem IsRow.count_feed {s : Text} (hs : IsRow s) : s.count '\n' = 1 := by
  have hrows : ∀ row ∈ [s], IsRow row := by simpa using hs
  have h := count_feed_rows hrows
  rwa [List.flatten_singleton, List.length_singleton] at h

/-- The segments of a text with paired returns: rows, and what follows them. -/
theorem exists_segments {t : Text} (ht : t.returnsPaired) :
    ∃ (rows : List Text) (rest : Text), t.segments = rows ++ [rest] ∧ (∀ s ∈ rows, IsRow s) ∧ IsPlain rest ∧
      t.count '\n' = rows.length := by
  obtain ⟨rows, rest, rfl, hr, hp⟩ := exists_rows ht
  refine ⟨rows, rest, by rw [segments_rows hr, segments_plain hp], hr, hp, ?_⟩
  rw [List.count_append, count_feed_rows hr, count_feed_plain hp, Nat.add_zero]

theorem segments_length_paired {t : Text} (ht : t.returnsPaired) :
    t.segments.length = t.count '\n' + 1 := by
  obtain ⟨rows, rest, hs, -, -, hc⟩ := exists_segments ht
  rw [hs, hc, List.length_append, List.length_singleton]

theorem lineAt_eq_count {t : Text} (ht : t.returnsPaired) (offset : Nat) :
    t.lineAt offset = (t.take offset).count '\n' := by
  fun_induction lineAt t offset with
  | case1 t => simp
  | case2 n => simp
  | case3 t => simp
  | case4 t n ih => simp [ih (by simpa [returnsPaired] using ht)]
  | case5 c t n h h' hc ih =>
    obtain ⟨hreturn, ht⟩ := (returnsPaired_unpaired (unpaired_of_offset h h')).mp ht
    have hfeed : c = '\n' := by simpa [isBreak, hreturn] using hc
    simp [ih ht, hfeed]
  | case6 c t n h h' hc ih =>
    obtain ⟨-, ht⟩ := (returnsPaired_unpaired (unpaired_of_offset h h')).mp ht
    have hfeed : c ≠ '\n' := by rintro rfl; simp [isBreak] at hc
    simp [ih ht, hfeed]

/-- In front of a line are the rows of those before it. -/
theorem take_lineStart_rows {t : Text} (ht : t.returnsPaired) {n : Nat} (hn : n ≤ t.count '\n') :
    ∃ rows : List Text, t.take (t.lineStart n) = rows.flatten ∧ (∀ s ∈ rows, IsRow s) ∧ rows.length = n := by
  obtain ⟨rows, rest, hs, hr, -, hc⟩ := exists_segments ht
  refine ⟨rows.take n, ?_, fun s hmem => hr s (List.mem_of_mem_take hmem), ?_⟩
  · rw [take_lineStart, hs, List.take_append_of_le_length (by omega)]
  · rw [List.length_take]
    omega

theorem count_take_lineStart {t : Text} (ht : t.returnsPaired) {n : Nat} (hn : n ≤ t.count '\n') :
    (t.take (t.lineStart n)).count '\n' = n := by
  obtain ⟨rows, h, hr, rfl⟩ := take_lineStart_rows ht hn
  rw [h, count_feed_rows hr]

theorem startsLine_lineStart {t : Text} (ht : t.returnsPaired) {n : Nat} (hn : n ≤ t.count '\n') :
    t.StartsLine (t.lineStart n) := by
  obtain ⟨rows, h, hr, -⟩ := take_lineStart_rows ht hn
  rw [StartsLine, h]
  rcases List.eq_nil_or_concat rows with rfl | ⟨front, s, rfl⟩
  · simp
  · have hs := (hr s (by simp)).getLast? front.flatten
    simp [hs]

theorem count_take_mono (t : Text) {a b : Nat} (h : a ≤ b) : (t.take a).count '\n' ≤ (t.take b).count '\n' := by
  have hprefix : t.take a <+: t.take b := List.take_prefix_take_left h
  exact hprefix.sublist.count_le '\n'

theorem count_take_le (t : Text) (offset : Nat) : (t.take offset).count '\n' ≤ t.count '\n' :=
  (List.take_sublist offset t).count_le '\n'

/-- What stands in front of the start of a line is a line feed. -/
theorem StartsLine.take_eq {t : Text} {offset : Nat} (h : t.StartsLine (offset + 1)) (ho : offset < t.length) :
    t.take (offset + 1) = t.take offset ++ ['\n'] := by
  rw [StartsLine, List.take_add_one, List.getElem?_eq_getElem ho, Option.toList_some,
    List.getLast?_concat] at h
  rw [List.take_add_one, List.getElem?_eq_getElem ho, Option.toList_some, h t[offset] rfl]

/-- A line starts at or before an offset if as many line feeds are in front of that. -/
theorem lineStart_le_iff {t : Text} (ht : t.returnsPaired) {n : Nat} (hn : n ≤ t.count '\n') (offset : Nat) :
    t.lineStart n ≤ offset ↔ n ≤ (t.take offset).count '\n' := by
  have hcount := count_take_lineStart ht hn
  constructor
  · intro h
    calc n = (t.take (t.lineStart n)).count '\n' := hcount.symm
      _ ≤ (t.take offset).count '\n' := t.count_take_mono h
  · intro h
    by_contra hlt
    obtain ⟨k, hk⟩ : ∃ k, t.lineStart n = k + 1 := ⟨t.lineStart n - 1, by omega⟩
    have hle : t.lineStart n ≤ t.length := Nat.sub_le _ _
    have hfeed := StartsLine.take_eq (hk ▸ startsLine_lineStart ht hn) (by omega)
    rw [hk, hfeed, List.count_append, List.count_singleton_self] at hcount
    have hmono := t.count_take_mono (show offset ≤ k by omega)
    omega

/-- A line starts only where `lineStart` says. -/
theorem StartsLine.eq_lineStart {t : Text} (ht : t.returnsPaired) {offset : Nat} (h : t.StartsLine offset)
    (ho : offset ≤ t.length) : offset = t.lineStart ((t.take offset).count '\n') := by
  have hle := (lineStart_le_iff ht (t.count_take_le offset) offset).mpr (Nat.le_refl _)
  refine Nat.le_antisymm ?_ hle
  by_contra hlt
  obtain ⟨k, rfl⟩ : ∃ k, offset = k + 1 := ⟨offset - 1, by omega⟩
  have hbefore := (lineStart_le_iff ht (t.count_take_le (k + 1)) k).mp (by omega)
  rw [h.take_eq (by omega), List.count_append, List.count_singleton_self] at hbefore
  omega

/-- An offset that lies on a line. -/
structure On (t : Text) (offset line : Nat) : Prop where
  le : offset ≤ t.length
  count : (t.take offset).count '\n' = line

/-- An offset at which a line starts that is not the empty one behind the last break. -/
structure AtStart (t : Text) (offset line : Nat) : Prop extends On t offset line where
  lt : offset < t.length
  starts : t.StartsLine offset

section on
variable {t : Text} {offset line : Nat}

theorem On.of_eq {line' : Nat} (h : t.On offset line) (hl : line = line') : t.On offset line' := hl ▸ h

theorem On.line_le (h : t.On offset line) : line ≤ t.count '\n' := h.count ▸ t.count_take_le offset

theorem On.lineAt_eq (ht : t.returnsPaired) (h : t.On offset line) : t.lineAt offset = line := by
  rw [lineAt_eq_count ht, h.count]

theorem On.lt_iff (ht : t.returnsPaired) (h : t.On offset line) {n : Nat} (hn : n ≤ t.count '\n') :
    offset < t.lineStart n ↔ line < n := by
  have hle := lineStart_le_iff ht hn offset
  rw [h.count] at hle
  rw [← Nat.not_le, ← Nat.not_le]
  exact not_congr hle

theorem AtStart.eq_lineStart (ht : t.returnsPaired) (h : t.AtStart offset line) : offset = t.lineStart line := by
  have hstart := h.starts.eq_lineStart ht h.le
  rwa [h.count] at hstart

/-- Behind the last line there is nothing. -/
theorem lineStart_of_count_lt (ht : t.returnsPaired) {n : Nat} (hn : t.count '\n' < n) :
    t.lineStart n = t.length := by
  rw [lineStart_eq, List.take_of_length_le (by rw [segments_length_paired ht]; omega), segments_flatten]

/-- A start of a line that is there compares with the starts of all lines as the lines do. -/
theorem AtStart.lt_iff (ht : t.returnsPaired) (h : t.AtStart offset line) (n : Nat) :
    offset < t.lineStart n ↔ line < n := by
  have hline := h.line_le
  rcases Nat.lt_or_ge (t.count '\n') n with hn | hn
  · rw [lineStart_of_count_lt ht hn]
    exact ⟨fun _ => by omega, fun _ => h.lt⟩
  · exact h.toOn.lt_iff ht hn

/-- The line of such a start is one that the text has. -/
theorem AtStart.lt_lineCount (ht : t.returnsPaired) (h : t.AtStart offset line) : line < t.lineCount := by
  have hle := h.line_le
  have hbreaks := t.segments_length
  rw [segments_length_paired ht] at hbreaks
  unfold lineCount
  split
  · next hends =>
    -- The last segment is empty, so its start is the end of the text.
    obtain ⟨rows, hrows, hr, hne⟩ := exists_rows_of_endsInBreak ht hends
    have hlast : t.lineStart (t.count '\n') = t.length := by
      have hs := segments_rows hr []
      rw [List.append_nil, ← hrows] at hs
      rw [lineStart_eq, hs, hrows, count_feed_rows hr, List.take_left]
    have hlt := h.lt
    rw [← hlast, h.lt_iff ht] at hlt
    omega
  · omega

/-- A line that a text has is not empty together with its break. -/
theorem segment_ne_nil (ht : t.returnsPaired) (hne : t ≠ []) {n : Nat} (hn : n < t.lineCount) :
    ∀ s ∈ t.segments[n]?, s ≠ [] := by
  obtain ⟨rows, rest, hs, hr, -, -⟩ := exists_segments ht
  have hbreaks := t.segments_length
  rw [hs, List.length_append, List.length_singleton] at hbreaks
  rw [hs]
  rcases Nat.lt_or_ge n rows.length with hin | hend
  · rw [List.getElem?_append_left hin]
    exact fun s hmem => (hr s (List.mem_of_getElem? hmem)).ne_nil
  · have htext : t = rows.flatten ++ rest := by
      rw [← t.segments_flatten, hs, List.flatten_append, List.flatten_singleton]
    unfold lineCount at hn
    split at hn
    · omega
    · next hopen =>
      obtain rfl : n = rows.length := by omega
      rw [List.getElem?_append_right (Nat.le_refl _), Nat.sub_self]
      rintro s ⟨⟩ rfl
      rw [List.append_nil] at htext
      by_cases hrows : rows = []
      · exact hne (by rw [htext, hrows]; rfl)
      · exact hopen (htext ▸ endsInBreak_flatten hr hrows)

/-- Where a line starts that a text has. -/
theorem atStart_lineStart (ht : t.returnsPaired) (hne : t ≠ []) {n : Nat} (hn : n < t.lineCount) :
    t.AtStart (t.lineStart n) n := by
  have hlength := segments_length_paired ht
  have hin : n < t.segments.length := Nat.lt_of_lt_of_le hn t.lineCount_le_segments
  have hpos := List.length_pos_iff.mpr (segment_ne_nil ht hne hn _ (List.getElem?_eq_getElem hin))
  have hsucc := t.lineStart_succ hin
  have hle : t.lineStart (n + 1) ≤ t.length := Nat.sub_le _ _
  exact ⟨⟨by omega, count_take_lineStart ht (by omega)⟩, by omega, startsLine_lineStart ht (by omega)⟩

end on

theorem count_slice (t : Text) {a b : Nat} (h : a ≤ b) :
    (t.take b).count '\n' = (t.take a).count '\n' + (t.slice a b).count '\n' := by
  have hsplit := List.take_append_drop a (t.take b)
  rw [List.take_take, Nat.min_eq_left h] at hsplit
  rw [slice, ← List.count_append, hsplit]

theorem IsPlain.append {t u : Text} (ht : IsPlain t) (hu : IsPlain u) : IsPlain (t ++ u) := by
  intro c hc
  rcases List.mem_append.mp hc with h | h
  · exact ht c h
  · exact hu c h

section paired
variable {t : Text}

theorem returnsPaired_pieces {pieces : List Text} (h : ∀ s ∈ pieces, s.returnsPaired) :
    returnsPaired pieces.flatten := by
  induction pieces with
  | nil => rfl
  | cons s pieces ih =>
    simp only [List.mem_cons, forall_eq_or_imp] at h
    exact returnsPaired_append h.1 (ih h.2)

theorem IsRow.returnsPaired {s : Text} (hs : IsRow s) : s.returnsPaired := by
  have hrows : ∀ row ∈ [s], IsRow row := by simpa using hs
  have h := returnsPaired_flatten hrows
  rwa [List.flatten_singleton] at h

theorem returnsPaired_segments (ht : t.returnsPaired) : ∀ s ∈ t.segments, s.returnsPaired := by
  obtain ⟨rows, rest, hs, hr, hp, -⟩ := exists_segments ht
  rw [hs]
  simp only [List.mem_append, or_imp, forall_and, List.mem_singleton, forall_eq]
  exact ⟨fun s hmem => (hr s hmem).returnsPaired, hp.returnsPaired⟩

theorem returnsPaired_take_lineStart (ht : t.returnsPaired) (n : Nat) :
    Text.returnsPaired (t.take (t.lineStart n)) := by
  rw [take_lineStart]
  exact returnsPaired_pieces fun s hmem => returnsPaired_segments ht s (List.mem_of_mem_take hmem)

theorem returnsPaired_fromLine (ht : t.returnsPaired) (n : Nat) : (t.fromLine n).returnsPaired := by
  rw [fromLine_eq]
  exact returnsPaired_pieces fun s hmem => returnsPaired_segments ht s (List.mem_of_mem_drop hmem)

theorem drop_lineStart_eq (t : Text) (n : Nat) : t.drop (t.lineStart n) = t.fromLine n := by
  rw [drop_lineStart, fromLine_eq]

theorem IsPlain.returnsPaired_append {u : Text} (hu : IsPlain u) :
    Text.returnsPaired (u ++ t) = t.returnsPaired := by
  induction u with
  | nil => rfl
  | cons c u ih =>
    simp only [IsPlain, List.mem_cons, forall_eq_or_imp] at hu
    rw [List.cons_append, returnsPaired_cons (by rintro rfl; simp [isBreak] at hu), ih hu.2]

/-- From a place inside a line on a text is paired as it is from the start of the line on. -/
theorem returnsPaired_drop_inside (ht : t.returnsPaired) (n : Nat) {k : Nat} (hk : k ≤ (t.line n).length) :
    Text.returnsPaired (t.drop (t.lineStart n + k)) := by
  have hsplit := t.line_append n
  have hpaired := returnsPaired_fromLine ht n
  have hplain : IsPlain ((t.line n).take k) := fun c hc => isPlain_lineBody _ c (List.mem_of_mem_take hc)
  rw [← List.drop_drop, drop_lineStart_eq]
  rw [← List.take_append_drop k (t.fromLine n), ← hsplit, List.take_append_of_le_length hk,
    hplain.returnsPaired_append, hsplit] at hpaired
  exact hpaired

/-- A part of a line. -/
theorem slice_line (t : Text) (n : Nat) {k : Nat} (hk : k ≤ (t.line n).length) :
    t.slice (t.lineStart n) (t.lineStart n + k) = (t.line n).take k := by
  have hsplit := t.line_append n
  rw [slice, List.drop_take, Nat.add_sub_cancel_left, drop_lineStart_eq, ← hsplit,
    List.take_append_of_le_length hk]

theorem take_lineEnd (t : Text) (n : Nat) : t.take (t.lineEnd n) = t.take (t.lineStart n) ++ t.line n := by
  have hsplit := t.line_append n
  rw [lineEnd, List.take_add, drop_lineStart_eq, ← hsplit, List.take_left]

theorem returnsPaired_take_lineEnd (ht : t.returnsPaired) (n : Nat) : Text.returnsPaired (t.take (t.lineEnd n)) := by
  rw [take_lineEnd]
  exact returnsPaired_append (returnsPaired_take_lineStart ht n) (isPlain_lineBody _).returnsPaired

theorem count_take_lineEnd (ht : t.returnsPaired) {n : Nat} (hn : n ≤ t.count '\n') :
    (t.take (t.lineEnd n)).count '\n' = n := by
  rw [take_lineEnd, List.count_append, count_take_lineStart ht hn, line, count_feed_plain (isPlain_lineBody _),
    Nat.add_zero]

end paired

end Text
end ExEditor
