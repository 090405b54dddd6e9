import ExEditor.Proofs.Frame.LineVerbs
import ExEditor.Proofs.Frame.PutBack

/-! Edits of whole lines on a text whose last line lacks its break. Lines that are put behind it get the break in front
of them and lose their own, and the last lines are taken out with the break in front of them. Both go by the last
character, which does not tell an empty last line from the end of the line before it. -/
namespace ExEditor
open LineList

theorem LineList.length_putAt {α : Type} {lines : List α} {n : Nat} (hn : n ≤ lines.length) (others : List α) :
    (putAt lines n others).length = lines.length + others.length := by
  simp only [putAt, List.length_append, List.length_take, List.length_drop]
  omega

/-- Lines are all there unless the last one is dropped. -/
theorem LineList.ite_dropLast_eq_iff {α : Type} {lines : List α} (hne : lines ≠ []) (p : Prop) [Decidable p] :
    (if p then lines.dropLast else lines) = lines ↔ ¬ p := by
  by_cases hdrop : p
  · rw [if_pos hdrop]
    refine iff_of_false (fun heq => ?_) (not_not_intro hdrop)
    have hpos := List.length_pos_iff.mpr hne
    have hless := congrArg List.length heq
    rw [List.length_dropLast] at hless
    omega
  · rw [if_neg hdrop]
    exact iff_of_true rfl hdrop

namespace Text

/-- A text of rows and a last line that lacks its break. -/
structure Open (t : Text) (rows : List Text) (rest : Text) : Prop where
  eq : t = rows.flatten ++ rest
  rows : ∀ s ∈ rows, IsRow s
  plain : IsPlain rest
  ne : rest ≠ []

theorem lines_getElem (t : Text) {n : Nat} (h : n < t.lines.length) : t.lines[n] = t.line n := by
  have hn := Nat.lt_of_lt_of_le h t.lines_length_le
  simp only [lines, List.getElem_map, List.getElem_take, line_getElem t hn]

theorem exists_open {t : Text} (hp : t.returnsPaired) (hne : t ≠ []) (hb : ¬ t.endsInBreak) :
    ∃ rows rest, Open t rows rest := by
  obtain ⟨rows, rest, rfl, hr, hplain⟩ := exists_rows hp
  refine ⟨rows, rest, rfl, hr, hplain, ?_⟩
  rintro rfl
  rw [List.append_nil] at hne hb
  exact hb (endsInBreak_flatten hr (by rintro rfl; exact hne rfl))

namespace Open
variable {t : Text} {rows : List Text} {rest : Text} (h : Open t rows rest)
include h

theorem ne_nil : t ≠ [] := by
  rw [h.eq]
  exact List.append_ne_nil_of_right_ne_nil _ h.ne

theorem segments_eq : t.segments = rows ++ [rest] := by
  rw [h.eq, segments_rows h.rows, segments_plain h.plain]

theorem lines_eq : t.lines = rows.map lineBody ++ [rest] := by
  have hlines := lines_rows h.rows h.plain (h.eq ▸ h.ne_nil)
  rw [if_neg h.ne, ← h.eq] at hlines
  exact hlines

theorem breakCount_eq : t.breakCount = rows.length := by
  have hlength := segments_length t
  rw [h.segments_eq, List.length_append, List.length_singleton] at hlength
  omega

theorem not_endsInBreak : ¬ t.endsInBreak := by
  rw [h.eq, endsInBreak_append h.ne, endsInBreak_plain h.plain]
  exact Bool.false_ne_true

theorem take_lineStart {n : Nat} (hn : n ≤ rows.length) : t.take (t.lineStart n) = (rows.take n).flatten := by
  rw [Text.take_lineStart, h.segments_eq, List.take_append_of_le_length hn]

theorem drop_lineStart {n : Nat} (hn : n ≤ rows.length) : t.drop (t.lineStart n) = (rows.drop n).flatten ++ rest := by
  rw [Text.drop_lineStart, h.segments_eq, List.drop_append_of_le_length hn, List.flatten_append, List.flatten_singleton]

theorem lineStart_end : t.lineStart (rows.length + 1) = t.length := by
  rw [lineStart, fromLine_eq_nil (by rw [h.breakCount_eq]; omega)]
  rfl

theorem lineStart_lt {n : Nat} (hn : n ≤ rows.length) : t.lineStart n < t.length := by
  have hdrop := congrArg List.length (h.drop_lineStart hn)
  have hpos := List.length_pos_iff.mpr h.ne
  rw [List.length_drop, List.length_append] at hdrop
  omega

/-- Rows that stand between two lines leave the end open. -/
theorem between {n : Nat} {others : List Text} (hothers : ∀ s ∈ others, IsRow s) :
    Open ((rows.take n).flatten ++ (others.flatten ++ ((rows.drop n).flatten ++ rest)))
      (rows.take n ++ others ++ rows.drop n) rest where
  eq := by simp
  rows := by
    intro s hs
    rw [List.mem_append, List.mem_append] at hs
    rcases hs with (hs | hs) | hs
    · exact h.rows s (List.mem_of_mem_take hs)
    · exact hothers s hs
    · exact h.rows s (List.mem_of_mem_drop hs)
  plain := h.plain
  ne := h.ne

end Open

/-- A text behind rows keeps its lines. -/
theorem lines_flatten_append {front : List Text} (hf : ∀ s ∈ front, IsRow s) {t : Text} (hp : t.returnsPaired)
    (ht : t ≠ []) : lines (front.flatten ++ t) = front.map lineBody ++ t.lines := by
  have h := lines_between hf (List.forall_mem_nil IsRow) hp ht (.inl rfl)
  simpa using h

/-- Whether the last line is empty, and ended as a new line is. -/
def EndsEmpty (eol t : Text) : Prop := [eol, []] <:+ t.segments

instance (eol t : Text) : Decidable (EndsEmpty eol t) := inferInstanceAs (Decidable (_ <:+ _))

theorem endsEmpty_rows {rows : List Text} {rest : Text} (hr : ∀ s ∈ rows, IsRow s) (hp : IsPlain rest) (eol : Text) :
    EndsEmpty eol (rows.flatten ++ rest) ↔ rest = [] ∧ rows.getLast? = some eol := by
  rw [EndsEmpty, segments_rows hr, segments_plain hp]
  constructor
  · rintro ⟨front, hfront⟩
    have hsplit : front ++ [eol] ++ [[]] = rows ++ [rest] := by simpa using hfront
    obtain ⟨rfl, hrest⟩ := List.append_inj' hsplit rfl
    exact ⟨(List.cons.inj hrest).1.symm, by simp⟩
  · rintro ⟨rfl, hlast⟩
    obtain ⟨front, rfl⟩ := List.getLast?_eq_some_iff.mp hlast
    exact ⟨front, by simp⟩

theorem Open.not_endsEmpty {t : Text} {rows : List Text} {rest : Text} (h : Open t rows rest) (eol : Text) :
    ¬ EndsEmpty eol t := by
  rw [h.eq, endsEmpty_rows h.rows h.plain]
  exact fun hends => h.ne hends.1

/-- A last line is the same whatever break it has, be it a lone return. -/
theorem lines_last {rows : List Text} (hr : ∀ s ∈ rows, IsRow s) {body : Text} (hb : IsPlain body) {ending : Text}
    (he : ending = ['\r'] ∨ ending = ['\n'] ∨ ending = ['\r', '\n']) :
    lines (rows.flatten ++ (body ++ ending)) = rows.map lineBody ++ [body] := by
  have hending : ending.segments = [ending, []] := by rcases he with rfl | rfl | rfl <;> rfl
  have hbody : lineBody (body ++ ending) = body := by
    have hnone : ending.takeWhile (! isBreak ·) = [] := by rcases he with rfl | rfl | rfl <;> rfl
    rw [lineBody, List.takeWhile_append_of_pos (by simpa [IsPlain] using hb), hnone, List.append_nil]
  have hsegments : segments (rows.flatten ++ (body ++ ending)) = rows ++ [body ++ ending, []] := by
    rw [segments_rows hr, segments_plain_append hb hending]
  have hends : endsInBreak (rows.flatten ++ (body ++ ending)) := by
    rw [← List.append_assoc, endsInBreak_append (by rcases he with rfl | rfl | rfl <;> simp)]
    rcases he with rfl | rfl | rfl <;> rfl
  have hcount : breakCount (rows.flatten ++ (body ++ ending)) = rows.length + 1 := by
    have hlength := segments_length (rows.flatten ++ (body ++ ending))
    rw [hsegments, List.length_append] at hlength
    simpa using hlength.symm
  have hlines : rows.length + 1 = (rows ++ [body ++ ending]).length := by simp
  rw [lines, lineCount, if_pos hends, hcount, hsegments, Nat.add_zero, hlines]
  have hfront : rows ++ [body ++ ending, []] = rows ++ [body ++ ending] ++ [[]] := by simp
  rw [hfront, List.take_left, List.map_append, List.map_singleton, hbody]

theorem dropEnding?_append (t ending : Text) : dropEnding? (t ++ ending) ending = some t := by
  simp [dropEnding?, endsWith]

/-- A row is a line break exactly if its line is empty. -/
theorem append_break_eq_iff {body ending eol : Text} (hb : IsPlain body) (he : ending = ['\n'] ∨ ending = ['\r', '\n'])
    (heol : eol = ['\n'] ∨ eol = ['\r', '\n']) : body ++ ending = eol ↔ body = [] ∧ ending = eol := by
  constructor
  · intro h
    have hbody : lineBody (body ++ ending) = lineBody eol := congrArg lineBody h
    rw [lineBody_break hb he, show lineBody eol = [] from lineBody_break isPlain_nil heol] at hbody
    rw [hbody] at h
    exact ⟨hbody, h⟩
  · rintro ⟨rfl, rfl⟩
    rfl

/-- Of a text that ends in a row only the break of that row can be lost. -/
theorem getD_dropEnding?_row {t body ending eol : Text} (ht : t.returnsPaired) (hb : IsPlain body)
    (he : ending = ['\n'] ∨ ending = ['\r', '\n']) (heol : eol = ['\n'] ∨ eol = ['\r', '\n']) :
    (dropEnding? (t ++ (body ++ ending)) eol).getD (t ++ (body ++ ending)) =
      t ++ (body ++ (dropEnding? ending eol).getD ending) := by
  rcases he with rfl | rfl <;> rcases heol with rfl | rfl
  · have hcut := dropEnding?_append (t ++ body) ['\n']
    rw [List.append_assoc] at hcut
    rw [hcut, show dropEnding? ['\n'] ['\n'] = some [] from rfl]
    simp
  · -- A return in front of the feed would belong to the line.
    have hnone : dropEnding? (t ++ (body ++ ['\n'])) ['\r', '\n'] = none := by
      unfold dropEnding?
      rw [if_neg]
      intro hends
      obtain ⟨front, hfront⟩ := List.isSuffixOf_iff_suffix.mp hends
      have hreturn : front ++ ['\r'] ++ ['\n'] = t ++ body ++ ['\n'] := by simpa using hfront
      have hpaired : returnsPaired (t ++ body) := returnsPaired_append ht hb.returnsPaired
      rw [← List.append_cancel_right hreturn] at hpaired
      exact not_returnsPaired_concat front hpaired
    rw [hnone]
    rfl
  · have hcut := dropEnding?_append (t ++ (body ++ ['\r'])) ['\n']
    have hsplit : t ++ (body ++ ['\r']) ++ ['\n'] = t ++ (body ++ ['\r', '\n']) := by simp
    rw [hsplit] at hcut
    rw [hcut, show dropEnding? ['\r', '\n'] ['\n'] = some ['\r'] from rfl]
    rfl
  · have hcut := dropEnding?_append (t ++ body) ['\r', '\n']
    rw [List.append_assoc] at hcut
    rw [hcut, show dropEnding? ['\r', '\n'] ['\r', '\n'] = some [] from rfl]
    simp

/-- Rows and a text that has lost its last break have the lines of both, less an empty last line of the text. -/
theorem lines_stripped {front : List Text} (hf : ∀ s ∈ front, IsRow s) (hne : front ≠ []) {t eol : Text}
    (hp : t.returnsPaired) (ht : t ≠ []) (heol : eol = ['\n'] ∨ eol = ['\r', '\n']) :
    lines (front.flatten ++ (t.dropEnding? eol).getD t) =
      front.map lineBody ++ if EndsEmpty eol t then t.lines.dropLast else t.lines := by
  by_cases hb : t.endsInBreak
  · obtain ⟨rows, rfl, hr, hrows⟩ := exists_rows_of_endsInBreak hp hb
    obtain ⟨init, row, rfl⟩ : ∃ init row, rows = init ++ [row] := ⟨_, _, (List.dropLast_concat_getLast hrows).symm⟩
    have hinit : ∀ s ∈ init, IsRow s := fun s hs => hr s (by simp [hs])
    have hfront : ∀ s ∈ front ++ init, IsRow s := by
      simpa only [List.mem_append, or_imp, forall_and] using ⟨hf, hinit⟩
    obtain ⟨body, ending, hbody, hending, rfl⟩ : ∃ body ending, IsPlain body ∧
        (ending = ['\n'] ∨ ending = ['\r', '\n']) ∧ row = body ++ ending := by
      obtain ⟨body, hbody, hrow | hrow⟩ := hr row (by simp)
      · exact ⟨body, _, hbody, .inl rfl, hrow⟩
      · exact ⟨body, _, hbody, .inr rfl, hrow⟩
    have hlines : lines (init ++ [body ++ ending]).flatten = init.map lineBody ++ [body] := by
      rw [lines_flatten hr hrows, List.map_append, List.map_singleton, lineBody_break hbody hending]
    have hempty : EndsEmpty eol (init ++ [body ++ ending]).flatten ↔ body = [] ∧ ending = eol := by
      have hends := endsEmpty_rows hr isPlain_nil eol
      rw [List.append_nil] at hends
      rw [hends, ← append_break_eq_iff hbody hending heol]
      simp
    have htext : (init ++ [body ++ ending]).flatten = init.flatten ++ (body ++ ending) := by simp
    simp only [hlines, hempty]
    rw [htext, getD_dropEnding?_row (returnsPaired_flatten hinit) hbody hending heol, ← List.append_assoc,
      ← List.flatten_append]
    by_cases hsame : ending = eol
    · have hnone : (dropEnding? ending eol).getD ending = [] := by
        rw [hsame, show eol.dropEnding? eol = some [] from dropEnding?_append [] eol]
        rfl
      rw [hnone, List.append_nil]
      by_cases hnil : body = []
      · have hall := lines_flatten hfront (by simp [hne])
        simpa [hnil, hsame] using hall
      · have hall := lines_rows hfront hbody (by simp [hnil])
        simpa [hnil] using hall
    · have hleft : (dropEnding? ending eol).getD ending = ['\r'] ∨ (dropEnding? ending eol).getD ending = ['\n'] := by
        rcases hending with rfl | rfl <;> rcases heol with rfl | rfl
        · exact absurd rfl hsame
        · exact .inr rfl
        · exact .inl rfl
        · exact absurd rfl hsame
      rw [lines_last hfront hbody (hleft.imp_right .inl), if_neg fun h => hsame h.2, List.map_append,
        List.append_assoc]
  · have hopen : ¬ EndsEmpty eol t := by
      obtain ⟨rows, rest, hopen⟩ := exists_open hp ht hb
      exact hopen.not_endsEmpty eol
    rw [dropEnding?_open hb heol, Option.getD_none, if_neg hopen, lines_flatten_append hf hp ht]

end Text

namespace Frame

/-- Whether all of a text gets a place where it is put: behind the last line an empty last line does not. -/
def PutsAll (f : Frame) (n : Nat) (t : Text) : Prop := ¬ (n = f.text.lines.length ∧ Text.EndsEmpty f.eol t)

instance (f : Frame) (n : Nat) (t : Text) : Decidable (f.PutsAll n t) := inferInstanceAs (Decidable (¬ _))

/-- Whether the other lines all stay when lines are taken out: an empty one in front of the last lines does not. -/
def CutsClean (f : Frame) (first last : Nat) : Prop :=
  last + 1 = f.text.lines.length → 0 < first → f.line (first - 1) ≠ []

instance (f : Frame) (first last : Nat) : Decidable (f.CutsClean first last) := inferInstanceAs (Decidable (_ → _))

/-- Whether all lines get a place when some of them are moved. -/
def MovesAll (f : Frame) (first last destination : Nat) : Prop :=
  (f.CutsClean first last ∨ first = 1 ∧ destination = 1) ∧ f.PutsAll destination (f.linesText first last)

instance (f : Frame) (first last destination : Nat) : Decidable (f.MovesAll first last destination) :=
  inferInstanceAs (Decidable (_ ∧ _))

variable {f : Frame} {rows : List Text} {rest : Text}

section put
variable (h : Text.Open f.text rows rest) {t : Text} (hp : t.returnsPaired) (ht : t ≠ [])
include h hp ht

/-- In front of a line that is there the text is put with a break. -/
theorem lines_putLines_inside {n : Nat} (hn : n ≤ rows.length) :
    (f.putLines n t).text.lines = putAt f.text.lines n t.lines := by
  have hlt : f.lineStart n < f.length := h.lineStart_lt hn
  have hput : ∀ {u : Text}, u.returnsPaired → u.endsInBreak → u.lines = t.lines →
      (f.insert (f.lineStart n) u).text.lines = putAt f.text.lines n t.lines := by
    intro u hu hb hlines
    obtain ⟨others, rfl, hothers, hne⟩ := Text.exists_rows_of_endsInBreak hu hb
    have htext : (f.insert (f.lineStart n) others.flatten).text =
        (rows.take n).flatten ++ (others.flatten ++ ((rows.drop n).flatten ++ rest)) := by
      rw [insert_text, clamp_lineStart, lineStart, h.take_lineStart hn, h.drop_lineStart hn]
    have hopen := htext ▸ h.between (n := n) hothers
    rw [hopen.lines_eq, h.lines_eq, ← hlines, Text.lines_flatten hothers hne, putAt,
      List.take_append_of_le_length (by simpa using hn), List.drop_append_of_le_length (by simpa using hn)]
    simp [List.map_take, List.map_drop]
  unfold putLines
  rw [if_neg ht, if_neg (by omega)]
  dsimp only
  rw [if_neg fun hend => absurd hend.1 (by omega)]
  by_cases hb : t.endsInBreak
  · rw [if_neg fun hadd => hadd.2 hb]
    exact hput hp hb rfl
  · rw [if_pos ⟨hlt, hb⟩]
    exact hput (returnsPaired_eol hp) (f.endsInBreak_eol t) (Text.lines_completed hp ht hb f.eol_eq)

/-- Behind the last line the text loses its last break, and with it a last line that is empty. -/
theorem lines_putLines_behind :
    (f.putLines (rows.length + 1) t).text.lines =
      f.text.lines ++ if Text.EndsEmpty f.eol t then t.lines.dropLast else t.lines := by
  have hput := putLines_behind (g := f) (n := rows.length + 1) (by rw [h.breakCount_eq]; omega) ht
  rw [if_neg h.not_endsInBreak] at hput
  have hrow : (rest ++ f.eol).IsRow := h.plain.row f.eol_eq
  have hrows : ∀ s ∈ rows ++ [rest ++ f.eol], s.IsRow := by
    simpa only [List.mem_append, or_imp, forall_and, List.mem_singleton, forall_eq] using ⟨h.rows, hrow⟩
  have htext : (f.putLines (rows.length + 1) t).text =
      (rows ++ [rest ++ f.eol]).flatten ++ (t.dropEnding? f.eol).getD t := by
    rw [hput, h.eq]
    simp
  rw [htext, Text.lines_stripped hrows (by simp) hp ht f.eol_eq, h.lines_eq, List.map_append, List.map_singleton,
    Text.lineBody_break h.plain f.eol_eq]

/-- Putting lines is an operation on the list of lines, but for an empty last line that is put behind them. -/
theorem lines_putLines_iff {n : Nat} (hn : n ≤ f.text.lines.length) :
    (f.putLines n t).text.lines = putAt f.text.lines n t.lines ↔ f.PutsAll n t := by
  have hlength : f.text.lines.length = rows.length + 1 := by simp [h.lines_eq]
  rcases Nat.lt_or_ge n f.text.lines.length with hlt | hge
  · exact iff_of_true (lines_putLines_inside h hp ht (by omega)) fun hbad => by omega
  · obtain rfl : n = rows.length + 1 := by omega
    have hall : putAt f.text.lines (rows.length + 1) t.lines = f.text.lines ++ t.lines := by
      rw [putAt, ← hlength, List.take_length, List.drop_length, List.append_nil]
    rw [lines_putLines_behind h hp ht, hall, List.append_cancel_left_eq, ite_dropLast_eq_iff (Text.lines_ne_nil hp ht),
      PutsAll, hlength, and_iff_right rfl]

end put

theorem length_lines_open (h : Text.Open f.text rows rest) : f.text.lines.length = rows.length + 1 := by
  simp [h.lines_eq]

section range
variable (h : Text.Open f.text rows rest) {first last : Nat} (hf : first ≤ last)
include h hf

theorem linesText_inside (hl : last < rows.length) : f.linesText first last = (range rows first last).flatten := by
  have haround := f.text_eq_around hf
  have htake : f.text.take (f.lineStart first) = (rows.take first).flatten := h.take_lineStart (by omega)
  have hdrop : f.text.drop (f.lineStart (last + 1)) = (rows.drop (last + 1)).flatten ++ rest :=
    h.drop_lineStart (by omega)
  have hsplit : rows.take first ++ (range rows first last ++ rows.drop (last + 1)) = rows := by
    have hfront := List.take_append_drop first (rows.take (last + 1))
    rw [List.take_take, Nat.min_eq_left (by omega)] at hfront
    rw [range, ← List.append_assoc, hfront, List.take_append_drop]
  rw [htake, hdrop, h.eq] at haround
  conv at haround => lhs; rw [← hsplit]
  simp only [List.flatten_append, List.append_assoc] at haround
  have hback := List.append_cancel_left haround
  exact (List.append_cancel_right hback).symm

theorem linesText_behind (hl : last = rows.length) :
    Text.Open (f.linesText first last) (rows.drop first) rest where
  eq := by
    have haround := f.text_eq_around hf
    have htake : f.text.take (f.lineStart first) = (rows.take first).flatten := h.take_lineStart (by omega)
    have hend : f.lineStart (last + 1) = f.text.length := hl ▸ h.lineStart_end
    rw [htake, hend, List.drop_length, List.append_nil, h.eq] at haround
    conv at haround => lhs; rw [← List.take_append_drop first rows, List.flatten_append, List.append_assoc]
    exact (List.append_cancel_left haround).symm
  rows := fun s hs => h.rows s (List.mem_of_mem_drop hs)
  plain := h.plain
  ne := h.ne

/-- The text of some lines has just these lines. -/
theorem linesText_open (hl : last < f.text.lines.length) :
    (f.linesText first last).returnsPaired ∧ f.linesText first last ≠ [] ∧
      (f.linesText first last).lines = range f.text.lines first last := by
  rw [length_lines_open h] at hl
  rcases Nat.lt_or_ge last rows.length with hlt | hge
  · have hr := isRow_range h.rows first last
    have hne := range_ne_nil hf hlt
    rw [linesText_inside h hf hlt]
    refine ⟨Text.returnsPaired_flatten hr, Text.flatten_ne_nil hr hne, ?_⟩
    rw [Text.lines_flatten hr hne, map_range, h.lines_eq, range, range,
      List.take_append_of_le_length (by simp; omega)]
  · have hopen := linesText_behind h hf (by omega)
    refine ⟨?_, hopen.ne_nil, ?_⟩
    · rw [hopen.eq]
      exact Text.returnsPaired_append (Text.returnsPaired_flatten hopen.rows) hopen.plain.returnsPaired
    · rw [hopen.lines_eq, h.lines_eq, range, List.take_of_length_le (by simp; omega),
        List.drop_append_of_le_length (by simp; omega), List.map_drop]

/-- Lines that others follow leave the end open. -/
theorem cut_inside (hl : last < rows.length) :
    Text.Open (f.text.take (f.deletionSpan first last).1 ++ f.text.drop (f.lineStart (last + 1)))
      (without rows first last) rest := by
  have hlt : f.lineStart (last + 1) < f.length := h.lineStart_lt (by omega)
  have hspan : (f.deletionSpan first last).1 = f.lineStart first := by
    rw [deletionSpan_fst, if_neg fun hend => by omega]
  have htake : f.text.take (f.lineStart first) = (rows.take first).flatten := h.take_lineStart (by omega)
  have hdrop : f.text.drop (f.lineStart (last + 1)) = (rows.drop (last + 1)).flatten ++ rest :=
    h.drop_lineStart (by omega)
  rw [hspan, htake, hdrop]
  exact ⟨by simp [without], isRow_without h.rows first last, h.plain, h.ne⟩

/-- The last lines go with the break in front of them. -/
theorem cut_behind (hl : last = rows.length) :
    f.text.take (f.deletionSpan first last).1 ++ f.text.drop (f.lineStart (last + 1)) =
      (rows.take (first - 1)).flatten ++ if first = 0 then [] else f.line (first - 1) := by
  have hend : f.lineStart (last + 1) = f.length := hl ▸ h.lineStart_end
  have hnone : f.text.drop f.length = [] := List.drop_length
  rw [deletionSpan_fst, hend, hnone, List.append_nil]
  by_cases hzero : first = 0
  · rw [if_neg fun hpos => by omega, hzero]
    simp [lineStart, Text.lineStart, Text.fromLine]
  · rw [if_pos ⟨rfl, by omega, h.not_endsInBreak⟩, if_neg hzero]
    have htake : f.text.take (f.lineEnd (first - 1)) =
        f.text.take (f.lineStart (first - 1)) ++ f.line (first - 1) := f.text.take_lineEnd (first - 1)
    have hstart : f.text.take (f.lineStart (first - 1)) = (rows.take (first - 1)).flatten :=
      h.take_lineStart (by omega)
    rw [htake, hstart]

end range

section cut
variable {g : Frame} (h : Text.Open f.text rows rest) {first last : Nat} (hf : first ≤ last)
  (hl : last < f.text.lines.length)
  (hg : g.text = f.text.take (f.deletionSpan first last).1 ++ f.text.drop (f.lineStart (last + 1)))
include h hf hl hg

/-- Where no line but those that are taken out is lost, the end is open again. -/
theorem open_of_cutsClean (hclean : f.CutsClean first last) (hall : first = 0 → last + 1 < f.text.lines.length) :
    ∃ rows rest, Text.Open g.text rows rest ∧ g.text.lines = without f.text.lines first last := by
  have hlength := length_lines_open h
  rcases Nat.lt_or_ge last rows.length with hlt | hge
  · have hopen := hg ▸ cut_inside h hf hlt
    refine ⟨_, _, hopen, ?_⟩
    rw [hopen.lines_eq, h.lines_eq, map_without, without, without, List.take_append_of_le_length (by simp; omega),
      List.drop_append_of_le_length (by simp; omega), List.append_assoc]
  · have hpos : 0 < first := by omega
    have hne := hclean (by omega) hpos
    have hcut := cut_behind h hf (by omega)
    rw [if_neg (by omega)] at hcut
    have hopen : Text.Open g.text (rows.take (first - 1)) (f.line (first - 1)) :=
      ⟨hg.trans hcut, fun s hs => h.rows s (List.mem_of_mem_take hs), Text.isPlain_lineBody _, hne⟩
    refine ⟨_, _, hopen, ?_⟩
    have hline : f.text.lines[first - 1] = f.line (first - 1) := f.text.lines_getElem (by omega)
    have htake : f.text.lines.take first = f.text.lines.take (first - 1) ++ [f.line (first - 1)] := by
      have hsucc := List.take_succ_eq_append_getElem (l := f.text.lines) (i := first - 1) (by omega)
      rwa [Nat.sub_add_cancel hpos, hline] at hsucc
    rw [without, List.drop_eq_nil_of_le (by omega), List.append_nil, htake, hopen.lines_eq, h.lines_eq,
      List.take_append_of_le_length (by simp; omega), List.map_take]

omit hl in
/-- What is left where a line is lost. -/
theorem ended_of_not_cutsClean (hclean : ¬ f.CutsClean first last) :
    last + 1 = f.text.lines.length ∧ 0 < first ∧ g.text = (rows.take (first - 1)).flatten := by
  have hlength := length_lines_open h
  simp only [CutsClean, not_forall, not_not] at hclean
  obtain ⟨hend, hpos, hempty⟩ := hclean
  refine ⟨hend, hpos, ?_⟩
  rw [hg, cut_behind h hf (by omega), hempty, ite_self, List.append_nil]

end cut

section put
variable {g : Frame} {t : Text} (hp : t.returnsPaired) (ht : t ≠ [])
include hp ht

/-- Lines that are put into an empty text, or behind its one line. -/
theorem lines_putLines_empty (hg : g.text = []) :
    (g.putLines 0 t).text.lines = t.lines ∧
      (g.putLines 1 t).text.lines = [] :: if Text.EndsEmpty g.eol t then t.lines.dropLast else t.lines := by
  constructor
  · simp [putLines, ht, length, hg, insert_text]
  · have hbehind := putLines_behind (g := g) (n := 1) (by rw [hg]; exact Nat.one_pos) ht
    have hopen : ¬ g.text.endsInBreak := by rw [hg]; exact Bool.false_ne_true
    have hrow : ∀ s ∈ [g.eol], s.IsRow := by
      intro s hs
      obtain rfl := List.mem_singleton.mp hs
      exact Text.isPlain_nil.row g.eol_eq
    have hstripped := Text.lines_stripped hrow (by simp) hp ht g.eol_eq
    have hbody : Text.lineBody g.eol = [] := Text.lineBody_break Text.isPlain_nil g.eol_eq
    rw [List.flatten_singleton, List.map_singleton, hbody] at hstripped
    rw [hbehind, if_neg hopen, hg, List.nil_append, hstripped]
    rfl

/-- Wherever lines are put into a text whose last line is ended, it gets as many lines more. -/
theorem length_lines_putLines (hg : g.text = rows.flatten) (hr : ∀ s ∈ rows, s.IsRow) (hne : rows ≠ []) (n : Nat) :
    (g.putLines n t).text.lines.length = rows.length + t.lines.length := by
  rcases Nat.lt_or_ge rows.length n with hlt | hge
  · have hends := endsInBreak_of_rows hg hr hne
    have hcount : g.text.breakCount = rows.length := by
      have hlength := g.text.segments_length
      rw [segments_of_rows hg hr, List.length_append, List.length_singleton] at hlength
      omega
    rw [putLines_behind (by omega) ht, if_pos hends, hg, Text.lines_flatten_append hr hp ht]
    simp
  · have hput := lines_putLines hg hr hge hp ht
    rw [hput]
    simp only [List.length_append, List.length_map, List.length_take, List.length_drop]
    omega

end put

section cut
variable {g : Frame} (h : Text.Open f.text rows rest) {first last : Nat} (hf : first ≤ last)
  (hl : last < f.text.lines.length)
  (hg : g.text = f.text.take (f.deletionSpan first last).1 ++ f.text.drop (f.lineStart (last + 1)))
include h hf hl hg

/-- Putting lines where others have been taken out is an operation on the list of lines, unless a line is lost. If
there was but one in front of them, which is empty, it comes back where the lines are put behind it. -/
theorem lines_putLines_cut_iff {t : Text} (hp : t.returnsPaired) (ht : t ≠ []) {n : Nat}
    (hn : n ≤ (without f.text.lines first last).length) :
    (g.putLines n t).text.lines = putAt (without f.text.lines first last) n t.lines ↔
      (f.CutsClean first last ∨ first = 1 ∧ n = 1) ∧ g.PutsAll n t := by
  have hlength := length_lines_open h
  have hcount := without_length hf hl
  have hpos := List.length_pos_iff.mpr (Text.lines_ne_nil hp ht)
  have hput := length_putAt hn t.lines
  by_cases hclean : f.CutsClean first last
  · rw [and_iff_right (Or.inl hclean)]
    by_cases hall : first = 0 ∧ last + 1 = f.text.lines.length
    · -- All lines are taken out, and the lines are put into the empty text.
      have hempty : g.text = [] := by
        rw [hg, cut_behind h hf (by omega), hall.1]
        simp
      have hnone : without f.text.lines first last = [] := List.eq_nil_of_length_eq_zero (by omega)
      obtain rfl : n = 0 := by omega
      refine iff_of_true ?_ fun hbad => ?_
      · simp [(lines_putLines_empty hp ht hempty).1, hnone, putAt]
      · rw [hempty] at hbad
        cases hbad.1
    · obtain ⟨rows', rest', hopen, hlines⟩ := open_of_cutsClean h hf hl hg hclean (by omega)
      rw [← hlines] at hn ⊢
      exact lines_putLines_iff hopen hp ht hn
  · obtain ⟨hend, hfirst, htext⟩ := ended_of_not_cutsClean h hf hg hclean
    rw [or_iff_right hclean]
    by_cases hone : first = 1
    · -- The one line in front of them was empty.
      subst hone
      have hempty : g.text = [] := htext
      obtain ⟨hzero, hbehind⟩ := lines_putLines_empty hp ht hempty
      have hline : without f.text.lines 1 last = [[]] := by
        simp only [CutsClean, not_forall, not_not] at hclean
        obtain ⟨-, -, hline⟩ := hclean
        have hfirst : f.text.lines[0] = [] := (f.text.lines_getElem (by omega)).trans hline
        have hfront := List.take_succ_eq_append_getElem (l := f.text.lines) (i := 0) (by omega)
        rw [without, hfront, hfirst, List.drop_eq_nil_of_le (by omega)]
        rfl
      rw [hline, List.length_singleton] at hn
      obtain rfl | rfl : n = 0 ∨ n = 1 := by omega
      · refine iff_of_false (fun heq => ?_) fun hbad => by omega
        rw [hzero] at heq
        have hless := congrArg List.length heq
        omega
      · have hall : putAt [[]] 1 t.lines = [] :: t.lines := by simp [putAt]
        have hlast : 1 = g.text.lines.length := by rw [hempty]; rfl
        rw [hbehind, hline, hall, List.cons_inj_right, ite_dropLast_eq_iff (Text.lines_ne_nil hp ht),
          and_iff_right ⟨rfl, rfl⟩, PutsAll, and_iff_right hlast]
    · refine iff_of_false (fun heq => ?_) fun hbad => hone hbad.1.1
      have hr : ∀ s ∈ rows.take (first - 1), s.IsRow := fun s hs => h.rows s (List.mem_of_mem_take hs)
      have hne : rows.take (first - 1) ≠ [] := by
        rw [← List.length_pos_iff, List.length_take]
        omega
      have hless := congrArg List.length heq
      rw [length_lines_putLines hp ht htext hr hne, hput, List.length_take] at hless
      omega

end cut

theorem goToLine_text (g : Frame) (n : Nat) : (g.goToLine n).text = g.text := rfl

/-- What is left of a text when lines are taken out. -/
theorem cutLines_text (f : Frame) {first last : Nat} (hf : first ≤ last) :
    (f.cutLines first last).text =
      f.text.take (f.deletionSpan first last).1 ++ f.text.drop (f.lineStart (last + 1)) := by
  rw [← f.deleteLines_text hf, deleteLines]
  exact (goToLine_text _ _).symm

theorem insertLine_text (g : Frame) (n : Nat) (t : Text) :
    (g.insertLine n t).text = (g.putLines n (t ++ g.eol)).text := rfl

section verbs
variable (h : Text.Open f.text rows rest) {first last : Nat} (hf : first ≤ last) (hl : last < f.text.lines.length)
include h hf hl

/-- Moving lines moves them in the list of lines, unless a line is lost. -/
theorem lines_moveLines_iff {destination : Nat} (hd : destination ≤ f.text.lines.length)
    (ho : destination ≤ first ∨ last + 1 < destination) :
    (f.moveLines first last destination).text.lines = moved f.text.lines first last destination ↔
      f.MovesAll first last destination := by
  have hlength := length_lines_open h
  have hcount := without_length hf hl
  obtain ⟨hp, ht, hlines⟩ := linesText_open h hf hl
  generalize hn : (if last + 1 < destination then destination - (last - first + 1) else destination) = n
  have hplace : n ≤ (without f.text.lines first last).length := by
    rw [← hn]
    split <;> omega
  have hcut : (f.delete (f.deletionSpan first last).1 (f.deletionSpan first last).2).text =
      f.text.take (f.deletionSpan first last).1 ++ f.text.drop (f.lineStart (last + 1)) := by
    rw [delete_text f (f.deletionSpan_le hf) (f.deletionSpan_snd_le first last), deletionSpan_snd]
  have hput := lines_putLines_cut_iff h hf hl hcut hp ht hplace
  rw [hlines, ← hn, putAt_without hf hl ho, hn] at hput
  have hmove : (f.moveLines first last destination).text =
      ((f.delete (f.deletionSpan first last).1 (f.deletionSpan first last).2).putLines n
        (f.linesText first last)).text := by
    rcases hspan : f.deletionSpan first last with ⟨start, stop⟩
    simp only [moveLines, hspan, hn]
    rfl
  have heol : (f.delete (f.deletionSpan first last).1 (f.deletionSpan first last).2).eol = f.eol :=
    congrArg LineBreak.text (delete_lineBreak _ _ _)
  rw [hmove, hput, MovesAll]
  rcases Nat.lt_or_ge last rows.length with hlt | hge
  · have hclean : f.CutsClean first last := fun hend => by omega
    obtain ⟨-, -, -, hleft⟩ := open_of_cutsClean h hf hl hcut hclean (by omega)
    rw [and_iff_right (Or.inl hclean), and_iff_right (Or.inl hclean), PutsAll, PutsAll, heol, hleft, hcount]
    have hsame : n = f.text.lines.length - (last - first + 1) ↔ destination = f.text.lines.length := by
      rw [← hn]
      split <;> omega
    rw [hsame]
  · -- What is moved has no last break, so it does not end in an empty line.
    have hopen := (linesText_behind h hf (by omega)).not_endsEmpty f.eol
    have hsame : n = destination := by
      rw [← hn, if_neg (by omega)]
    have hputs : ∀ (g : Frame) (k : Nat), g.eol = f.eol → g.PutsAll k (f.linesText first last) :=
      fun g k hg hbad => hopen (hg ▸ hbad.2)
    rw [hsame, and_iff_left (hputs _ _ heol), and_iff_left (hputs _ _ rfl)]

/-- Changing lines puts the lines of a text in their place, unless a line is lost. -/
theorem lines_changeLines_iff {t : Text} (hp : t.returnsPaired) :
    (f.changeLines first last t).text.lines =
        f.text.lines.take first ++ Text.lines (t ++ f.eol) ++ f.text.lines.drop (last + 1) ↔
      f.CutsClean first last ∧ (0 < first → f.PutsAll (last + 1) (t ++ f.eol)) := by
  have hlength := length_lines_open h
  have hcount := without_length hf hl
  have hpaired : Text.returnsPaired (t ++ f.eol) := returnsPaired_eol hp
  have hne := f.append_eol_ne_nil t
  have hcut : (f.cutLines first last).text =
      f.text.take (f.deletionSpan first last).1 ++ f.text.drop (f.lineStart (last + 1)) := f.cutLines_text hf
  generalize hg : f.cutLines first last = g at hcut
  have heol : g.eol = f.eol := hg ▸ cutLines_eol f first last
  have hchange : (f.changeLines first last t).text =
      (g.putLines (if g.length = 0 then 0 else first) (t ++ f.eol)).text := by
    rw [← hg]
    unfold changeLines
    change ((f.cutLines first last).insertLine (if (f.cutLines first last).length = 0 then 0 else first) t).text = _
    rw [insertLine_text, cutLines_eol]
  rw [hchange, ← putAt_without_first (by omega)]
  by_cases hclean : f.CutsClean first last
  · rw [and_iff_right hclean]
    by_cases hall : first = 0 ∧ last + 1 = f.text.lines.length
    · obtain ⟨rfl, hend⟩ := hall
      have hput := lines_putLines_cut_iff h hf hl hcut hpaired hne (Nat.zero_le _)
      rw [ite_self, hput, and_iff_right (Or.inl hclean)]
      have hlines : g.text.lines ≠ [] := by
        have hempty : g.text = [] := by
          rw [hcut, cut_behind h hf (by omega)]
          simp
        rw [hempty]
        decide
      exact iff_of_true (fun hbad => hlines (List.eq_nil_of_length_eq_zero hbad.1.symm)) fun hbad => by omega
    · obtain ⟨rows', rest', hopen, hlines⟩ := open_of_cutsClean h hf hl hcut hclean (by omega)
      have hlong : g.length ≠ 0 := fun hzero => hopen.ne_nil (List.eq_nil_of_length_eq_zero hzero)
      have hput := lines_putLines_cut_iff h hf hl hcut hpaired hne (n := first) (by omega)
      rw [if_neg hlong, hput, and_iff_right (Or.inl hclean), PutsAll, PutsAll, heol, hlines, hcount]
      have hsame : first = f.text.lines.length - (last - first + 1) ↔
          last + 1 = f.text.lines.length ∧ 0 < first := by omega
      rw [hsame]
      exact ⟨fun hput hpos hbad => hput ⟨⟨hbad.1, hpos⟩, hbad.2⟩, fun hput hbad => hput hbad.1.2 ⟨hbad.1.1, hbad.2⟩⟩
  · obtain ⟨hend, hfirst, htext⟩ := ended_of_not_cutsClean h hf hcut hclean
    refine iff_of_false (fun heq => ?_) fun hbad => hclean hbad.1
    have hless := congrArg List.length heq
    rw [length_putAt (by omega)] at hless
    by_cases hone : first = 1
    · subst hone
      have hempty : g.text = [] := htext
      have hzero : g.length = 0 := by rw [length, hempty]; rfl
      rw [if_pos hzero, (lines_putLines_empty hpaired hne hempty).1] at hless
      omega
    · have hr : ∀ s ∈ rows.take (first - 1), s.IsRow := fun s hs => h.rows s (List.mem_of_mem_take hs)
      have hrows : rows.take (first - 1) ≠ [] := by
        rw [← List.length_pos_iff, List.length_take]
        omega
      have hlong : g.length ≠ 0 := fun hzero =>
        Text.flatten_ne_nil hr hrows (htext ▸ List.eq_nil_of_length_eq_zero hzero)
      rw [if_neg hlong, length_lines_putLines hpaired hne htext hr hrows, List.length_take] at hless
      omega

end verbs

end Frame
end ExEditor
