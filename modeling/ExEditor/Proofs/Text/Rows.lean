import Mathlib.Data.List.Basic
import Mathlib.Data.List.TakeWhile
import ExEditor.Text.Lines

/-! Texts as rows. A row is a line with its break. In a text whose carriage returns all stand before
line feeds each segment but the last is a row, so edits at the starts of lines are edits of the list of
rows. -/
namespace ExEditor
namespace Text

theorem segments_take_drop (t : Text) (n : Nat) :
    (t.segments.take n).flatten ++ (t.segments.drop n).flatten = t := by
  rw [← List.flatten_append, List.take_append_drop, segments_flatten]

theorem fromLine_length_le (t : Text) (n : Nat) : (t.fromLine n).length ≤ t.length := by
  have h := congrArg List.length (segments_take_drop t n)
  rw [List.length_append] at h
  rw [fromLine_eq]
  omega

theorem breakCount_le (t : Text) : t.breakCount ≤ t.length := by
  fun_induction breakCount t with
  | case1 => simp
  | case2 t ih => simp; omega
  | case3 c t _ _ ih => simpa using ih
  | case4 c t _ _ ih => exact Nat.le_succ_of_le ih

/-- A line starts where the segments before it end. -/
theorem lineStart_eq (t : Text) (n : Nat) : t.lineStart n = (t.segments.take n).flatten.length := by
  have h := congrArg List.length (segments_take_drop t n)
  rw [List.length_append] at h
  rw [lineStart, fromLine_eq]
  omega

theorem lineStart_mono (t : Text) {m n : Nat} (h : m ≤ n) : t.lineStart m ≤ t.lineStart n := by
  have hs := List.take_append_drop m (t.segments.take n)
  rw [List.take_take, Nat.min_eq_left h] at hs
  have hl := congrArg (fun l => l.flatten.length) hs
  simp only [List.flatten_append, List.length_append] at hl
  rw [lineStart_eq, lineStart_eq]
  omega

theorem take_lineStart (t : Text) (n : Nat) :
    t.take (t.lineStart n) = (t.segments.take n).flatten := by
  have h := congrArg (List.take (t.lineStart n)) (segments_take_drop t n)
  rw [← h]
  exact List.take_left' (lineStart_eq t n).symm

theorem drop_lineStart (t : Text) (n : Nat) :
    t.drop (t.lineStart n) = (t.segments.drop n).flatten := by
  have h := congrArg (List.drop (t.lineStart n)) (segments_take_drop t n)
  rw [← h]
  exact List.drop_left' (lineStart_eq t n).symm

theorem lineStart_pair (t : Text) (n : Nat) :
    lineStart ('\r' :: '\n' :: t) (n + 1) = t.lineStart n + 2 := by
  have h := fromLine_length_le t n
  simp only [lineStart, fromLine, List.length_cons]
  omega

theorem lineStart_break {c : Char} {t : Text}
    (hp : ∀ t', c = '\r' → t = '\n' :: t' → False) (hc : isBreak c = true) (n : Nat) :
    lineStart (c :: t) (n + 1) = lineStart t n + 1 := by
  have h := fromLine_length_le t n
  rw [lineStart, fromLine.eq_4 c t n hp, if_pos hc, lineStart, List.length_cons]
  omega

theorem lineStart_char {c : Char} {t : Text} (hc : isBreak c = false) (n : Nat) :
    lineStart (c :: t) (n + 1) = lineStart t (n + 1) + 1 := by
  have h := fromLine_length_le t (n + 1)
  have hp : ∀ t', c = '\r' → t = '\n' :: t' → False := by rintro _ rfl _; simp [isBreak] at hc
  rw [lineStart, fromLine.eq_4 c t n hp, if_neg (by simp [hc]), lineStart, List.length_cons]
  omega

theorem lineAt_cons {c : Char} {t : Text} (hp : ∀ t', c = '\r' → t = '\n' :: t' → False)
    (offset : Nat) :
    lineAt (c :: t) (offset + 1) = if isBreak c then lineAt t offset + 1 else lineAt t offset :=
  lineAt.eq_5 c t offset (fun t' h h' _ => hp t' h h') (fun t' _ h h' _ => hp t' h h')

/-- The start of a line lies on it. -/
theorem lineAt_lineStart {t : Text} {n : Nat} (h : n < t.segments.length) :
    t.lineAt (t.lineStart n) = n := by
  fun_induction fromLine t n with
  | case1 t => simp [lineStart, fromLine, lineAt]
  | case2 n => simp [segments] at h
  | case3 t n ih =>
    rw [segments_pair, List.length_cons] at h
    rw [lineStart_pair, lineAt, ih (by omega)]
  | case4 c t n hp hc ih =>
    rw [segments.eq_3 c t hp, if_pos hc, List.length_cons] at h
    rw [lineStart_break hp hc, lineAt_cons hp, if_pos hc, ih (by omega)]
  | case5 c t n hp hc ih =>
    have hl : (segments (c :: t)).length = (segments t).length := by
      rw [segments_length, segments_length, breakCount.eq_3 c t hp, if_neg hc]
    rw [lineStart_char (by simpa using hc), lineAt_cons hp, if_neg hc, ih (by omega)]

theorem lineBody_append (t : Text) : lineBody t ++ t.drop (lineBody t).length = t :=
  List.prefix_iff_eq_append.mp (List.takeWhile_prefix _)

/-- A line and what follows it. -/
theorem line_append (t : Text) (n : Nat) : t.line n ++ (t.fromLine n).drop (t.line n).length = t.fromLine n :=
  lineBody_append _

theorem slice_append (t u : Text) (first last : Nat) :
    slice (t ++ u) (t.length + first) (t.length + last) = u.slice first last := by
  rw [slice, List.take_length_add_append, List.drop_length_add_append, slice]

/-- A part of the first line is a part of the text. -/
theorem slice_lineBody {t : Text} (first : Nat) {last : Nat} (h : last ≤ (lineBody t).length) :
    t.slice first last = (lineBody t).slice first last := by
  have ht := congrArg (List.take last) (lineBody_append t)
  rw [List.take_append_of_le_length h] at ht
  rw [slice, slice, ht]

/-- Whether each carriage return is directly followed by a line feed. -/
def returnsPaired : Text → Bool
  | [] => true
  | '\r' :: '\n' :: t => returnsPaired t
  | c :: t => c ≠ '\r' && returnsPaired t

theorem returnsPaired_cons {c : Char} {t : Text} (hc : c ≠ '\r') :
    returnsPaired (c :: t) = returnsPaired t := by
  rw [returnsPaired.eq_3 c t (by rintro _ rfl _; exact hc rfl)]
  simp [hc]

/-- A return that no feed follows is not paired. -/
theorem returnsPaired_unpaired {c : Char} {t : Text} (hp : ∀ t', c = '\r' → t = '\n' :: t' → False) :
    returnsPaired (c :: t) ↔ c ≠ '\r' ∧ returnsPaired t := by
  rw [returnsPaired.eq_3 c t hp, Bool.and_eq_true, decide_eq_true_iff]

theorem returnsPaired_append {t u : Text} (ht : t.returnsPaired) (hu : u.returnsPaired) :
    returnsPaired (t ++ u) := by
  fun_induction returnsPaired t with
  | case1 => exact hu
  | case2 t ih => simpa [returnsPaired] using ih ht
  | case3 c t hp ih =>
    simp only [ne_eq, decide_not, Bool.and_eq_true, Bool.not_eq_eq_eq_not, Bool.not_true,
      decide_eq_false_iff_not] at ht
    rw [List.cons_append, returnsPaired_cons ht.1]
    exact ih ht.2

theorem returnsPaired_of_not_mem {t : Text} (h : '\r' ∉ t) : t.returnsPaired := by
  induction t with
  | nil => rfl
  | cons c t ih =>
    simp only [List.mem_cons, not_or] at h
    rw [returnsPaired_cons fun hc => h.1 hc.symm]
    exact ih h.2

/-- A text without breaks. -/
def IsPlain (t : Text) : Prop := ∀ c ∈ t, isBreak c = false

/-- A line with its break. -/
def IsRow (s : Text) : Prop :=
  ∃ body, IsPlain body ∧ (s = body ++ ['\n'] ∨ s = body ++ ['\r', '\n'])

theorem isPlain_nil : IsPlain [] := by simp [IsPlain]

theorem IsRow.cons {c : Char} {s : Text} (hc : isBreak c = false) (hs : IsRow s) :
    IsRow (c :: s) := by
  obtain ⟨body, hb, h⟩ := hs
  refine ⟨c :: body, by simpa [IsPlain, hc] using hb, ?_⟩
  rcases h with rfl | rfl <;> simp

/-- A text with paired returns is a list of rows and a plain rest. -/
theorem exists_rows {t : Text} (h : t.returnsPaired) :
    ∃ (rows : List Text) (rest : Text),
      t = rows.flatten ++ rest ∧ (∀ s ∈ rows, IsRow s) ∧ IsPlain rest := by
  fun_induction returnsPaired t with
  | case1 => exact ⟨[], [], rfl, by simp, isPlain_nil⟩
  | case2 t ih =>
    obtain ⟨rows, rest, rfl, hr, hp⟩ := ih h
    refine ⟨['\r', '\n'] :: rows, rest, rfl, ?_, hp⟩
    simpa using ⟨⟨[], isPlain_nil, by simp⟩, hr⟩
  | case3 c t hp ih =>
    simp only [ne_eq, decide_not, Bool.and_eq_true, Bool.not_eq_eq_eq_not, Bool.not_true,
      decide_eq_false_iff_not] at h
    obtain ⟨rows, rest, rfl, hr, hu⟩ := ih h.2
    by_cases hn : c = '\n'
    · subst hn
      refine ⟨['\n'] :: rows, rest, rfl, ?_, hu⟩
      simpa using ⟨⟨[], isPlain_nil, by simp⟩, hr⟩
    have hc : isBreak c = false := by simp [isBreak, h.1, hn]
    cases rows with
    | nil => exact ⟨[], c :: rest, rfl, by simp, by simpa [IsPlain, hc] using hu⟩
    | cons s rows =>
      simp only [List.mem_cons, forall_eq_or_imp] at hr
      exact ⟨(c :: s) :: rows, rest, rfl, by simpa using ⟨hr.1.cons hc, hr.2⟩, hu⟩

theorem segments_plain {t : Text} (h : IsPlain t) : t.segments = [t] := by
  induction t with
  | nil => rfl
  | cons c t ih =>
    simp only [IsPlain, List.mem_cons, forall_eq_or_imp] at h
    have hp : ∀ t', c = '\r' → t = '\n' :: t' → False := by rintro _ rfl _; simp [isBreak] at h
    rw [segments.eq_3 c t hp, ih h.2]
    simp [h.1]

theorem segments_plain_append {body s t : Text} {rest : List Text} (hb : IsPlain body)
    (h : segments t = s :: rest) : segments (body ++ t) = (body ++ s) :: rest := by
  induction body with
  | nil => simpa using h
  | cons c body ih =>
    simp only [IsPlain, List.mem_cons, forall_eq_or_imp] at hb
    have hp : ∀ t', c = '\r' → body ++ t = '\n' :: t' → False := by
      rintro _ rfl _; simp [isBreak] at hb
    rw [List.cons_append, segments.eq_3 c _ hp, ih hb.2]
    simp [hb.1]

theorem segments_row {s : Text} (hs : IsRow s) (t : Text) : segments (s ++ t) = s :: t.segments := by
  obtain ⟨body, hb, rfl | rfl⟩ := hs
  · rw [List.append_assoc]
    exact segments_plain_append hb (by simp [segments, isBreak])
  · rw [List.append_assoc]
    exact segments_plain_append hb (segments_pair t)

theorem segments_rows {rows : List Text} (hr : ∀ s ∈ rows, IsRow s) (t : Text) :
    segments (rows.flatten ++ t) = rows ++ t.segments := by
  induction rows with
  | nil => rfl
  | cons s rows ih =>
    simp only [List.mem_cons, forall_eq_or_imp] at hr
    rw [List.flatten_cons, List.append_assoc, segments_row hr.1, ih hr.2, List.cons_append]

theorem lineBody_plain {t : Text} (h : IsPlain t) : lineBody t = t :=
  List.takeWhile_eq_self_iff.mpr (by simpa [IsPlain] using h)

theorem IsRow.ne_nil {s : Text} (hs : IsRow s) : s ≠ [] := by
  obtain ⟨body, -, rfl | rfl⟩ := hs <;> simp

theorem IsRow.endsInBreak {s : Text} (hs : IsRow s) (t : Text) : endsInBreak (t ++ s) := by
  obtain ⟨body, -, rfl | rfl⟩ := hs <;> simp [Text.endsInBreak, isBreak]

/-- A plain text and a break after it. -/
theorem IsPlain.row {body : Text} (h : IsPlain body) {f : Text}
    (hf : f = ['\n'] ∨ f = ['\r', '\n']) : IsRow (body ++ f) := by
  rcases hf with rfl | rfl
  · exact ⟨body, h, .inl rfl⟩
  · exact ⟨body, h, .inr rfl⟩

theorem endsInBreak_plain {t : Text} (h : IsPlain t) : t.endsInBreak = false := by
  rw [endsInBreak]
  cases hl : t.getLast? with
  | none => rfl
  | some c => simpa using h c (List.mem_of_getLast? hl)

theorem endsInBreak_flatten {rows : List Text} (hr : ∀ s ∈ rows, IsRow s) (hne : rows ≠ []) :
    endsInBreak rows.flatten := by
  rw [← List.dropLast_concat_getLast hne, List.flatten_append, List.flatten_singleton]
  exact (hr _ (List.getLast_mem hne)).endsInBreak _

theorem endsInBreak_append {t u : Text} (hu : u ≠ []) : endsInBreak (t ++ u) = endsInBreak u := by
  rw [endsInBreak, endsInBreak, List.getLast?_append_of_ne_nil _ hu]

theorem dropEnding?_open {t : Text} (h : ¬ t.endsInBreak) {eol : Text} (heol : eol = ['\n'] ∨ eol = ['\r', '\n']) :
    t.dropEnding? eol = none := by
  unfold dropEnding?
  rw [if_neg]
  intro hends
  obtain ⟨front, rfl⟩ : eol <:+ t := List.isSuffixOf_iff_suffix.mp hends
  refine h ?_
  rw [endsInBreak_append (by rcases heol with rfl | rfl <;> simp)]
  rcases heol with rfl | rfl <;> rfl

theorem flatten_ne_nil {rows : List Text} (hr : ∀ s ∈ rows, IsRow s) (hne : rows ≠ []) :
    rows.flatten ≠ [] := by
  simpa using ⟨_, List.getLast_mem hne, (hr _ (List.getLast_mem hne)).ne_nil⟩

/-- The lines of rows and a plain rest are the bodies of the rows, and the rest if there is one. -/
theorem lines_rows {rows : List Text} {rest : Text} (hr : ∀ s ∈ rows, IsRow s) (hp : IsPlain rest)
    (hne : rows.flatten ++ rest ≠ []) :
    lines (rows.flatten ++ rest) = rows.map lineBody ++ if rest = [] then [] else [rest] := by
  have hs := segments_rows hr rest
  rw [segments_plain hp] at hs
  have hb : breakCount (rows.flatten ++ rest) = rows.length := by
    have h := segments_length (rows.flatten ++ rest)
    rw [hs, List.length_append, List.length_singleton] at h
    omega
  rw [lines, lineCount, hs, hb]
  by_cases h : rest = []
  · subst h
    have hrows : rows ≠ [] := by rintro rfl; simp at hne
    simp [endsInBreak_flatten hr hrows]
  · rw [endsInBreak_append h, endsInBreak_plain hp, List.take_of_length_le (by simp)]
    simp [h, lineBody_plain hp]

/-- A text has a segment for each of its lines. -/
theorem lines_length_le (t : Text) : t.lines.length ≤ t.segments.length := by
  simp only [lines, List.length_map, List.length_take]
  omega

theorem lines_ne_nil {t : Text} (ht : t.returnsPaired) (hne : t ≠ []) : t.lines ≠ [] := by
  obtain ⟨rows, rest, rfl, hr, hp⟩ := exists_rows ht
  rw [lines_rows hr hp hne]
  by_cases hn : rest = []
  · simpa [hn] using fun h => hne (by simp [h, hn])
  · simp [hn]

theorem lines_flatten {rows : List Text} (hr : ∀ s ∈ rows, IsRow s) (hne : rows ≠ []) :
    lines rows.flatten = rows.map lineBody := by
  have h := lines_rows hr isPlain_nil (by simpa using flatten_ne_nil hr hne)
  simpa using h

/-- A text that ends in a break is a list of rows. -/
theorem exists_rows_of_endsInBreak {t : Text} (h : t.returnsPaired) (he : t.endsInBreak) :
    ∃ rows : List Text, t = rows.flatten ∧ (∀ s ∈ rows, IsRow s) ∧ rows ≠ [] := by
  obtain ⟨rows, rest, rfl, hr, hp⟩ := exists_rows h
  have hn : rest = [] := by
    by_contra hn
    rw [endsInBreak_append hn, endsInBreak_plain hp] at he
    exact absurd he (by simp)
  subst hn
  refine ⟨rows, by simp, hr, ?_⟩
  rintro rfl
  simp [endsInBreak] at he

theorem IsPlain.returnsPaired {t : Text} (h : IsPlain t) : t.returnsPaired :=
  returnsPaired_of_not_mem fun hm => by simpa [isBreak] using h _ hm

theorem returnsPaired_flatten {rows : List Text} (hr : ∀ s ∈ rows, IsRow s) :
    returnsPaired rows.flatten := by
  induction rows with
  | nil => rfl
  | cons s rows ih =>
    simp only [List.mem_cons, forall_eq_or_imp] at hr
    obtain ⟨body, hb, rfl | rfl⟩ := hr.1
    · exact returnsPaired_append (returnsPaired_append hb.returnsPaired (by decide)) (ih hr.2)
    · exact returnsPaired_append (returnsPaired_append hb.returnsPaired (by decide)) (ih hr.2)

/-- A text put between rows keeps its lines apart from theirs, if rows that follow find it ended. -/
theorem lines_between {front back : List Text} {t : Text} (hf : ∀ s ∈ front, IsRow s)
    (hb : ∀ s ∈ back, IsRow s) (ht : t.returnsPaired) (hne : t ≠ [])
    (he : back = [] ∨ t.endsInBreak) :
    lines (front.flatten ++ t ++ back.flatten) = front.map lineBody ++ t.lines ++ back.map lineBody := by
  obtain ⟨rows, rest, rfl, hr, hp⟩ := exists_rows ht
  have hfr : ∀ s ∈ front ++ rows, IsRow s := by
    simpa only [List.mem_append, or_imp, forall_and] using ⟨hf, hr⟩
  rw [lines_rows hr hp hne]
  by_cases hn : rest = []
  · subst hn
    have hrows : front ++ rows ++ back ≠ [] := by rintro h; simp_all
    have hall : ∀ s ∈ front ++ rows ++ back, IsRow s := by
      simpa only [List.mem_append, or_imp, forall_and] using ⟨⟨hf, hr⟩, hb⟩
    have h := lines_flatten hall hrows
    simpa [List.append_assoc] using h
  · have hback : back = [] := by
      rcases he with he | he
      · exact he
      · rw [endsInBreak_append hn, endsInBreak_plain hp] at he
        exact absurd he (by simp)
    subst hback
    have h := lines_rows hfr hp (by simp [hn])
    simpa [List.append_assoc] using h

/-- A line ends where its break begins. -/
theorem lineBody_break {body f : Text} (hb : IsPlain body) (hf : f = ['\n'] ∨ f = ['\r', '\n']) :
    lineBody (body ++ f) = body := by
  have hfb : f.takeWhile (! isBreak ·) = [] := by rcases hf with rfl | rfl <;> simp [isBreak]
  rw [lineBody, List.takeWhile_append_of_pos (by simpa [IsPlain] using hb), hfb, List.append_nil]

/-- A break after a text that lacks one adds no line. -/
theorem lines_completed {t f : Text} (ht : t.returnsPaired) (hne : t ≠ []) (he : ¬ t.endsInBreak)
    (hf : f = ['\n'] ∨ f = ['\r', '\n']) : lines (t ++ f) = t.lines := by
  obtain ⟨rows, rest, rfl, hr, hp⟩ := exists_rows ht
  have hn : rest ≠ [] := by
    rintro rfl
    rw [List.append_nil] at he hne
    exact he (endsInBreak_flatten hr (by rintro rfl; simp at hne))
  have hall : ∀ s ∈ rows ++ [rest ++ f], IsRow s := by
    simpa only [List.mem_append, or_imp, forall_and, List.mem_singleton, forall_eq]
      using ⟨hr, hp.row hf⟩
  have h := lines_flatten hall (by simp)
  have hbody : lineBody (rest ++ f) = rest := lineBody_break hp hf
  rw [lines_rows hr hp hne]
  simpa [hn, hbody, List.append_assoc] using h

theorem fromLine_succ (t : Text) {n : Nat} (h : n < t.segments.length) :
    t.fromLine n = t.segments[n] ++ t.fromLine (n + 1) := by
  rw [fromLine_eq, fromLine_eq, List.drop_eq_getElem_cons h, List.flatten_cons]

theorem lineStart_succ (t : Text) {n : Nat} (h : n < t.segments.length) :
    t.lineStart (n + 1) = t.lineStart n + t.segments[n].length := by
  rw [lineStart_eq, lineStart_eq, List.take_add_one, List.getElem?_eq_getElem h, List.flatten_append,
    List.length_append]
  simp

theorem line_getElem (t : Text) {n : Nat} (h : n < t.segments.length) :
    t.line n = lineBody t.segments[n] := by
  rw [line_eq, List.getD_eq_getElem?_getD, List.getElem?_eq_getElem h, Option.getD_some]

theorem lineEnd_le (t : Text) (n : Nat) : t.lineEnd n ≤ t.length := by
  have h := congrArg List.length (lineBody_append (t.fromLine n))
  have hle := fromLine_length_le t n
  rw [List.length_append] at h
  rw [lineEnd, lineStart, line]
  omega

theorem lineEnd_le_lineStart (t : Text) (n : Nat) : t.lineEnd n ≤ t.lineStart (n + 1) := by
  by_cases h : n < t.segments.length
  · have hb := congrArg List.length (lineBody_append t.segments[n])
    rw [List.length_append] at hb
    rw [lineEnd, line_getElem t h, lineStart_succ t h]
    omega
  · have hs : t.segments[n]? = none := List.getElem?_eq_none (by omega)
    rw [lineEnd, line_eq, List.getD_eq_getElem?_getD, hs]
    exact t.lineStart_mono (Nat.le_succ n)

theorem lineEnd_mono (t : Text) {m n : Nat} (h : m ≤ n) : t.lineEnd m ≤ t.lineEnd n := by
  rcases Nat.eq_or_lt_of_le h with rfl | hlt
  · exact Nat.le_refl _
  · calc t.lineEnd m ≤ t.lineStart (m + 1) := t.lineEnd_le_lineStart m
      _ ≤ t.lineStart n := t.lineStart_mono hlt
      _ ≤ t.lineEnd n := Nat.le_add_right _ _

theorem isPlain_lineBody (t : Text) : IsPlain (lineBody t) := fun c hc => by
  simpa using List.mem_takeWhile_imp hc

/-- All lines but the last have breaks. -/
theorem isRow_segment {t : Text} (ht : t.returnsPaired) {n : Nat} (h : n + 1 < t.segments.length) :
    IsRow t.segments[n] := by
  obtain ⟨rows, rest, rfl, hr, hp⟩ := exists_rows ht
  have hs := segments_rows hr rest
  rw [segments_plain hp] at hs
  simp only [hs, List.length_append, List.length_singleton] at h
  simp only [hs, List.getElem_append_left (show n < rows.length by omega)]
  exact hr _ (List.getElem_mem _)

/-- What follows the line in a row is a break. -/
theorem IsRow.drop_lineBody {s : Text} (hs : IsRow s) :
    s.drop (lineBody s).length = ['\n'] ∨ s.drop (lineBody s).length = ['\r', '\n'] := by
  obtain ⟨body, hb, rfl | rfl⟩ := hs
  · rw [lineBody_break hb (.inl rfl), List.drop_left]
    exact .inl rfl
  · rw [lineBody_break hb (.inr rfl), List.drop_left]
    exact .inr rfl

theorem splitAfter_append {p : Char → Bool} {front : Text} (hf : ∀ c ∈ front, p c = false) {c : Char}
    (hc : p c) (t : Text) : splitAfter p (front ++ c :: t) = (front ++ [c]) :: splitAfter p t := by
  induction front with
  | nil => simp [splitAfter, hc]
  | cons d front ih =>
    simp only [List.mem_cons, forall_eq_or_imp] at hf
    simp [splitAfter, hf.1, ih hf.2]

theorem splitAfter_none {p : Char → Bool} {t : Text} (hne : t ≠ []) (ht : ∀ c ∈ t, p c = false) :
    splitAfter p t = [t] := by
  induction t with
  | nil => exact absurd rfl hne
  | cons c t ih =>
    simp only [List.mem_cons, forall_eq_or_imp] at ht
    by_cases h : t = []
    · simp [h, splitAfter, ht.1]
    · simp [splitAfter, ht.1, ih h ht.2]

theorem IsPlain.no_feed {t : Text} (h : IsPlain t) : ∀ c ∈ t, decide (c = '\n') = false := by
  intro c hc
  have hb := h c hc
  simp only [isBreak, Bool.or_eq_false_iff] at hb
  exact hb.1

theorem splitAfter_row {s : Text} (hs : IsRow s) (t : Text) :
    splitAfter (· = '\n') (s ++ t) = s :: splitAfter (· = '\n') t := by
  obtain ⟨body, hb, rfl | rfl⟩ := hs
  · simpa using splitAfter_append hb.no_feed (by simp) t
  · have hf : ∀ c ∈ body ++ ['\r'], decide (c = '\n') = false := by
      simpa only [List.mem_append, or_imp, forall_and, List.mem_singleton, forall_eq]
        using ⟨hb.no_feed, by decide⟩
    simpa using splitAfter_append hf (by simp) t

/-- Cut at line feeds or at breaks, a text with paired returns falls into as many pieces. -/
theorem rows_length {t : Text} (ht : t.returnsPaired) (hne : t ≠ []) :
    t.rows.length = t.lines.length := by
  obtain ⟨rows, rest, rfl, hr, hp⟩ := exists_rows ht
  rw [lines_rows hr hp hne, Text.rows, List.length_map]
  clear hne ht
  induction rows with
  | nil =>
    by_cases h : rest = []
    · simp [h, splitAfter]
    · simp [h, splitAfter_none h hp.no_feed]
  | cons s rows ih =>
    simp only [List.mem_cons, forall_eq_or_imp] at hr
    rw [List.flatten_cons, List.append_assoc, splitAfter_row hr.1, List.length_cons, ih hr.2]
    simp

theorem count_feed_plain {t : Text} (h : IsPlain t) : t.count '\n' = 0 :=
  List.count_eq_zero.mpr fun hm => by simpa [isBreak] using h _ hm

theorem count_feed_rows {rows : List Text} (hr : ∀ s ∈ rows, IsRow s) :
    rows.flatten.count '\n' = rows.length := by
  induction rows with
  | nil => rfl
  | cons s rows ih =>
    simp only [List.mem_cons, forall_eq_or_imp] at hr
    have hs : s.count '\n' = 1 := by
      obtain ⟨body, hb, rfl | rfl⟩ := hr.1 <;> simp [List.count_append, count_feed_plain hb]
    rw [List.flatten_cons, List.count_append, ih hr.2, hs, List.length_cons, Nat.add_comm]

/-- A text with a break after it has a row for each of its line feeds and one more. -/
theorem exists_rows_completed {t f : Text} (ht : t.returnsPaired) (hf : f = ['\n'] ∨ f = ['\r', '\n']) :
    ∃ rows : List Text, t ++ f = rows.flatten ∧ (∀ s ∈ rows, IsRow s) ∧
      rows.length = t.count '\n' + 1 := by
  obtain ⟨rows, rest, rfl, hr, hp⟩ := exists_rows ht
  refine ⟨rows ++ [rest ++ f], by simp, ?_, ?_⟩
  · simpa only [List.mem_append, or_imp, forall_and, List.mem_singleton, forall_eq]
      using ⟨hr, hp.row hf⟩
  · rw [List.count_append, count_feed_rows hr, count_feed_plain hp, List.length_append]
    rfl

theorem lineAt_plain {body : Text} (hb : IsPlain body) (t : Text) (offset : Nat) :
    lineAt (body ++ t) (body.length + offset) = lineAt t offset := by
  induction body with
  | nil => simp
  | cons c body ih =>
    simp only [IsPlain, List.mem_cons, forall_eq_or_imp] at hb
    have hp : ∀ t', c = '\r' → body ++ t = '\n' :: t' → False := by
      rintro _ rfl _; simp [isBreak] at hb
    rw [List.length_cons, Nat.succ_add_eq_add_succ, Nat.add_succ, List.cons_append, lineAt_cons hp,
      hb.1, if_neg (by simp), ih hb.2]

theorem lineAt_row {s : Text} (hs : IsRow s) (t : Text) (offset : Nat) :
    lineAt (s ++ t) (s.length + offset) = lineAt t offset + 1 := by
  obtain ⟨body, hb, rfl | rfl⟩ := hs
  · rw [List.append_assoc, List.length_append, Nat.add_assoc, lineAt_plain hb, List.length_singleton,
      Nat.add_comm 1, List.singleton_append, lineAt_cons (by simp)]
    rfl
  · rw [List.append_assoc, List.length_append, Nat.add_assoc, lineAt_plain hb, Nat.add_comm _ offset]
    rfl

/-- Behind rows, lines are counted on from their number. -/
theorem lineAt_rows {rows : List Text} (hr : ∀ s ∈ rows, IsRow s) (t : Text) (offset : Nat) :
    lineAt (rows.flatten ++ t) (rows.flatten.length + offset) = rows.length + lineAt t offset := by
  induction rows with
  | nil => simp
  | cons s rows ih =>
    simp only [List.mem_cons, forall_eq_or_imp] at hr
    rw [List.flatten_cons, List.append_assoc, List.length_append, Nat.add_assoc, lineAt_row hr.1,
      ih hr.2, List.length_cons]
    omega

/-- The end of a text lies as many lines down as it has line feeds. -/
theorem lineAt_end {t : Text} (ht : t.returnsPaired) (u : Text) :
    lineAt (t ++ u) t.length = t.count '\n' := by
  obtain ⟨rows, rest, rfl, hr, hp⟩ := exists_rows ht
  have h := lineAt_plain hp u 0
  rw [Nat.add_zero, lineAt.eq_1] at h
  rw [List.append_assoc, List.length_append, lineAt_rows hr, h, List.count_append, count_feed_rows hr,
    count_feed_plain hp]

/-- The last clause of `lineAt` rules out a return and a feed at each offset: here at any. -/
theorem unpaired_of_offset {c : Char} {t : Text} {n : Nat} (hzero : ∀ t', c = '\r' → t = '\n' :: t' → n = 0 → False)
    (hsucc : ∀ t' k, c = '\r' → t = '\n' :: t' → n = k + 1 → False) :
    ∀ t', c = '\r' → t = '\n' :: t' → False := by
  intro t' hr ht
  cases n with
  | zero => exact hzero t' hr ht rfl
  | succ k => exact hsucc t' k hr ht rfl

theorem lineAt_le (t : Text) (offset : Nat) : t.lineAt offset ≤ t.breakCount := by
  fun_induction lineAt t offset with
  | case1 t => exact Nat.zero_le _
  | case2 n => exact Nat.zero_le _
  | case3 t => exact Nat.zero_le _
  | case4 t n ih => simpa [breakCount] using ih
  | case5 c t n h h' hc ih =>
    rw [breakCount]
    · simpa [hc] using ih
    · exact unpaired_of_offset h h'
  | case6 c t n h h' hc ih =>
    rw [breakCount]
    · simpa [hc] using ih
    · exact unpaired_of_offset h h'

theorem breakCount_pos {t : Text} (h : t.endsInBreak) : 0 < t.breakCount := by
  fun_induction breakCount t with
  | case1 => cases h
  | case2 t ih => exact Nat.succ_pos _
  | case3 c t _ _ ih => exact Nat.succ_pos _
  | case4 c t _ hc ih =>
    by_cases ht : t = []
    · subst ht
      exact absurd h hc
    · exact ih (endsInBreak_append (t := [c]) ht ▸ h)

theorem lineCount_pos (t : Text) : 0 < t.lineCount := by
  unfold lineCount
  split
  · next h => exact breakCount_pos h
  · omega

theorem breakCount_le_lineCount (t : Text) : t.breakCount ≤ t.lineCount := Nat.le_add_right _ _

theorem lineCount_le_segments (t : Text) : t.lineCount ≤ t.segments.length := by
  rw [segments_length, lineCount]
  split <;> omega

end Text
end ExEditor
