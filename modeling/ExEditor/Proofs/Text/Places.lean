import ExEditor.Proofs.Text.Feeds
import ExEditor.Proofs.Text.Offsets
import ExEditor.Proofs.Text.Trim

/-! Where the lines of offsets come to when a text is edited. In front of an edit an offset keeps its line, and behind
it the line follows the number of breaks, whatever these are. The line has the same text there, if the edit is of whole
lines. -/
namespace ExEditor
namespace Text

/-- An offset of a text and the line that it is on. -/
structure Lies (t : Text) (offset line : Nat) : Prop where
  le : offset ≤ t.length
  line : t.lineAt offset = line

/-- Number of the lines that a text makes when it is put. -/
def addedLines (t : Text) : Nat := if t = [] then 0 else t.lineCount

/-- What stands behind an offset does not tell its line, but for the character there. -/
theorem lineAt_take_append {t : Text} {a offset : Nat} (h : offset < a) (ha : a ≤ t.length) (u : Text) :
    lineAt (t.take a ++ u) offset = t.lineAt offset := by
  fun_induction lineAt t offset generalizing a with
  | case1 t => rw [lineAt]
  | case2 n => exact absurd (Nat.lt_of_lt_of_le h ha) (by simp)
  | case3 t =>
    obtain ⟨a, rfl⟩ : ∃ b, a = b + 2 := ⟨a - 2, by omega⟩
    rfl
  | case4 t n ih =>
    obtain ⟨a, rfl⟩ : ∃ b, a = b + 2 := ⟨a - 2, by omega⟩
    have hrest := ih (a := a) (by omega) (by simpa using ha)
    simp only [List.take_succ_cons, List.cons_append, lineAt, hrest]
  | case5 c t n h₁ h₂ hc ih =>
    obtain ⟨a, rfl⟩ : ∃ b, a = b + 1 := ⟨a - 1, by omega⟩
    have hrest := ih (a := a) (by omega) (by simpa using ha)
    have hpair : ∀ t', c = '\r' → t.take a ++ u = '\n' :: t' → False := by
      intro t' hr htail
      obtain ⟨a, rfl⟩ : ∃ b, a = b + 1 := ⟨a - 1, by omega⟩
      cases t with
      | nil => simp at ha
      | cons d t =>
        cases htail
        cases n with
        | zero => exact h₁ t hr rfl rfl
        | succ n => exact h₂ t n hr rfl rfl
    rw [List.take_succ_cons, List.cons_append, lineAt_cons hpair, if_pos hc, hrest]
  | case6 c t n h₁ h₂ hc ih =>
    obtain ⟨a, rfl⟩ : ∃ b, a = b + 1 := ⟨a - 1, by omega⟩
    have hrest := ih (a := a) (by omega) (by simpa using ha)
    have hpair : ∀ t', c = '\r' → t.take a ++ u = '\n' :: t' → False := by
      rintro t' rfl -
      exact hc rfl
    rw [List.take_succ_cons, List.cons_append, lineAt_cons hpair, if_neg hc, hrest]

/-- Offsets with the same text behind them are as many breaks from the end. -/
theorem lineAt_add_of_drop_eq {t t' : Text} {offset offset' : Nat} (h : t'.drop offset' = t.drop offset) :
    t'.lineAt offset' + t.breakCount = t.lineAt offset + t'.breakCount := by
  have hbefore := t.lineAt_add_breakCount offset
  have hafter := t'.lineAt_add_breakCount offset'
  rw [h] at hafter
  omega

/-- Behind an edit the line of an offset differs by as many lines as there are more breaks, or fewer. -/
theorem Lies.behind {t : Text} {a b offset line line' : Nat} (h : t.Lies offset line) (ha : a ≤ t.length)
    (hb : b ≤ offset) {u : Text}
    (hline : line + breakCount (t.take a ++ (u ++ t.drop b)) = line' + t.breakCount) :
    Lies (t.take a ++ (u ++ t.drop b)) (a + u.length + (offset - b)) line' := by
  have hlength : (t.take a).length = a := List.length_take_of_le ha
  have hdrop : (t.take a ++ (u ++ t.drop b)).drop (a + u.length + (offset - b)) = t.drop offset := by
    rw [← List.append_assoc, ← List.drop_drop, List.drop_left' (by rw [List.length_append, hlength]), List.drop_drop,
      Nat.add_sub_cancel' hb]
  have hcount := lineAt_add_of_drop_eq hdrop
  have hle := h.le
  rw [h.line] at hcount
  refine ⟨?_, by omega⟩
  rw [List.length_append, List.length_append, List.length_drop, hlength]
  omega

section lines
variable {t : Text} {n offset : Nat}

/-- Past the end every line starts where the text ends. -/
theorem lineStart_of_breakCount_lt (h : t.breakCount < n) : t.lineStart n = t.length := by
  rw [lineStart, fromLine_eq_nil h]
  rfl

/-- The last line ends where the text ends, and so does every line past it. -/
theorem lineEnd_of_breakCount_le (h : t.breakCount ≤ n) : t.lineEnd n = t.length := by
  refine Nat.le_antisymm (t.lineEnd_le n) (Nat.le_trans ?_ (t.lineEnd_mono h))
  rcases le_lineEnd_or_inside (Nat.le_refl t.length) with hle | ⟨hpair, hin⟩
  · exact t.lineAt_length ▸ hle
  · rw [t.lineAt_length] at hpair hin
    simp [endsInPair, ← hin] at hpair

/-- An offset is in front of a line if its own line is. -/
theorem lt_lineStart_iff (h : offset < t.length) : offset < t.lineStart n ↔ t.lineAt offset < n := by
  constructor
  · intro hlt
    by_contra hge
    have hstart := t.lineStart_lineAt_le offset
    have hmono := t.lineStart_mono (Nat.le_of_not_lt hge)
    omega
  · intro hlt
    rcases Nat.lt_or_ge (t.lineAt offset) t.breakCount with hin | hlast
    · exact Nat.lt_of_lt_of_le (lt_lineStart_lineAt hin) (t.lineStart_mono hlt)
    · rw [lineStart_of_breakCount_lt (Nat.lt_of_le_of_lt hlast hlt)]
      exact h

/-- A line starts at or before the offsets of it and of those behind it. -/
theorem lineStart_le_iff_le_lineAt (hn : n ≤ t.breakCount) (h : offset ≤ t.length) :
    t.lineStart n ≤ offset ↔ n ≤ t.lineAt offset := by
  rcases Nat.lt_or_eq_of_le h with hlt | rfl
  · rw [← Nat.not_lt, lt_lineStart_iff hlt, Nat.not_lt]
  · exact iff_of_true (t.lineStart_le n) (t.lineAt_length ▸ hn)

/-- An offset on a line in front of another one is not behind where that one starts. -/
theorem le_lineStart_of_lineAt_lt (hlt : t.lineAt offset < n) (h : offset ≤ t.length) : offset ≤ t.lineStart n := by
  rcases Nat.lt_or_eq_of_le h with hin | rfl
  · exact Nat.le_of_lt ((lt_lineStart_iff hin).mpr hlt)
  · exact Nat.le_of_eq (lineStart_of_breakCount_lt (t.lineAt_length ▸ hlt)).symm

/-- A line that there is starts in front of some character. -/
theorem lineStart_lt_length (h : n < t.lineCount) (hne : t ≠ []) : t.lineStart n < t.length := by
  rcases Nat.lt_or_ge n t.breakCount with hlt | hge
  · exact Nat.lt_of_lt_of_le (lineStart_lt hlt) (t.lineStart_le _)
  · refine Nat.lt_of_le_of_ne (t.lineStart_le n) fun hend => ?_
    have hn : n < t.segments.length := Nat.lt_of_lt_of_le h t.lineCount_le_segments
    have hwhole := (take_lineStart_whole hn).2
    rw [hend, List.take_length] at hwhole
    rw [lineCount, if_pos (hwhole.resolve_left hne)] at h
    omega

/-- Lines are as many as breaks, and one more where the last one has none. -/
theorem lineAt_lt_lineCount (h : offset < t.length) : t.lineAt offset < t.lineCount := by
  have hsum := t.lineAt_add_breakCount offset
  unfold lineCount
  split
  · next hends =>
    have hne : t.drop offset ≠ [] := List.ne_nil_of_length_pos (by rw [List.length_drop]; omega)
    have hlater : endsInBreak (t.drop offset) := by
      rwa [← endsInBreak_append (t := t.take offset) hne, List.take_append_drop]
    have hpos := breakCount_pos hlater
    omega
  · omega

/-- Behind the last line is the end of the text. -/
theorem lineStart_of_lineCount_le (h : t.lineCount ≤ n) : t.lineStart n = t.length := by
  refine Nat.le_antisymm (t.lineStart_le n) ?_
  by_contra hlt
  have hlast : t.length - 1 < t.length := by omega
  have hin := lineAt_lt_lineCount hlast
  have hfront := (lt_lineStart_iff hlast).mpr (Nat.lt_of_lt_of_le hin h)
  omega

/-- The breaks from a line on are those of the lines from there on. -/
theorem breakCount_drop_lineStart (hn : n ≤ t.breakCount) :
    n + breakCount (t.drop (t.lineStart n)) = t.breakCount := by
  have h := t.lineAt_add_breakCount (t.lineStart n)
  rwa [lineAt_lineStart (by rw [segments_length]; omega)] at h

end lines

section paired
variable {t : Text}

/-- A text whose returns are paired shares no break with what follows it. -/
theorem not_meets_of_returnsPaired (ht : t.returnsPaired) (u : Text) : ¬ Meets t u := by
  rintro ⟨hreturn, -⟩
  obtain ⟨front, rfl⟩ := List.getLast?_eq_some_iff.mp hreturn
  exact not_returnsPaired_concat front ht

/-- A line keeps its text in an edit behind its end, or at its end where a break or nothing comes to stand there. -/
theorem line_take_append (ht : t.returnsPaired) {a n : Nat} (hn : n ≤ t.breakCount) (hend : t.lineEnd n ≤ a)
    (ha : a ≤ t.length) {u : Text} (hu : a = t.lineEnd n → ∀ c ∈ u.head?, isBreak c) :
    line (t.take a ++ u) n = t.line n := by
  have hbehind : ∀ c ∈ ((t.take a).drop (t.lineEnd n) ++ u).head?, ¬ ! isBreak c := by
    intro c hc
    rw [Bool.not_eq_true', Bool.not_eq_false]
    rcases Nat.lt_or_eq_of_le hend with hlt | heq
    · have hin : t.lineEnd n < (t.take a).length := by rwa [List.length_take_of_le ha]
      rw [List.head?_append_of_ne_nil _ (List.ne_nil_of_length_pos (by rw [List.length_drop]; omega)),
        List.head?_drop, List.getElem?_take_of_lt hlt] at hc
      exact isBreak_lineEnd hc
    · rw [List.drop_eq_nil_of_le (by rw [List.length_take_of_le ha, heq]), List.nil_append] at hc
      exact hu heq.symm c hc
  have hsplit : t.take a ++ u =
      t.take (t.lineStart n) ++ (t.line n ++ ((t.take a).drop (t.lineEnd n) ++ u)) := by
    have hcut := List.take_append_drop (t.lineEnd n) (t.take a)
    rw [List.take_take, Nat.min_eq_left hend, take_lineEnd] at hcut
    rw [← List.append_assoc, ← List.append_assoc, hcut]
  have hwhole := (take_lineStart_whole (t := t) (n := n) (by rw [segments_length]; omega)).2
  have hfrom := fromLine_append hwhole (t.line n ++ ((t.take a).drop (t.lineEnd n) ++ u))
  rw [breakCount_take_lineStart hn, if_neg (not_meets_of_returnsPaired (returnsPaired_take_lineStart ht n) _),
    ← hsplit] at hfrom
  rw [line, hfrom, lineBody]
  exact Text.takeWhile_append (fun c hc => by simpa using isPlain_lineBody _ c hc) hbehind

/-- Lines that come to stand behind whole lines keep their texts. -/
theorem line_append_fromLine {front : Text} (hfront : IsWhole front) {m n n' : Nat} (hm : m ≤ n) (hn : m ≤ t.breakCount)
    (hmeets : ¬ Meets front (t.drop (t.lineStart m)))
    (hline : n + breakCount (front ++ t.drop (t.lineStart m)) = n' + t.breakCount) :
    line (front ++ t.drop (t.lineStart m)) n' = t.line n := by
  have hrest := breakCount_drop_lineStart hn
  have hbreaks := breakCount_append front (t.drop (t.lineStart m))
  have hfrom := fromLine_append hfront (t.drop (t.lineStart m))
  rw [if_neg hmeets] at hbreaks hfrom
  obtain rfl : n' = front.breakCount + (n - m) := by omega
  rw [← line_fromLine, hfrom, drop_lineStart_eq, line_fromLine, Nat.add_sub_cancel' hm]

theorem breakCount_append_of_paired (ht : t.returnsPaired) (u : Text) :
    breakCount (t ++ u) = t.breakCount + u.breakCount := by
  have h := breakCount_append t u
  rwa [if_neg (not_meets_of_returnsPaired ht u)] at h

/-- A text that is put in front of a line adds its breaks, unless it shares one with the line. -/
theorem breakCount_insert_lineStart (ht : t.returnsPaired) (n : Nat) {u : Text}
    (hu : ¬ Meets u (t.drop (t.lineStart n))) :
    breakCount (t.take (t.lineStart n) ++ (u ++ t.drop (t.lineStart n))) = t.breakCount + u.breakCount := by
  have hfront := returnsPaired_take_lineStart ht n
  have hwhole := breakCount_append_of_paired hfront (t.drop (t.lineStart n))
  have happend := breakCount_append u (t.drop (t.lineStart n))
  rw [List.take_append_drop] at hwhole
  rw [if_neg hu] at happend
  rw [breakCount_append_of_paired hfront]
  omega

/-- Lines that are taken out take their breaks with them. -/
theorem breakCount_cut (ht : t.returnsPaired) {n m : Nat} (hn : n ≤ m) (hm : m ≤ t.breakCount) :
    breakCount (t.take (t.lineStart n) ++ t.drop (t.lineStart m)) + (m - n) = t.breakCount := by
  have hrest := breakCount_drop_lineStart hm
  rw [breakCount_append_of_paired (returnsPaired_take_lineStart ht n),
    breakCount_take_lineStart (Nat.le_trans hn hm)]
  omega

/-- Lines that another line follows make as many lines as they are. -/
theorem addedLines_between (ht : t.returnsPaired) {n m : Nat} (hn : n < m) (hm : m ≤ t.breakCount) :
    addedLines ((t.take (t.lineStart m)).drop (t.lineStart n)) = m - n := by
  have hsplit : t.take (t.lineStart m) = t.take (t.lineStart n) ++ (t.take (t.lineStart m)).drop (t.lineStart n) := by
    have hboth := List.take_append_drop (t.lineStart n) (t.take (t.lineStart m))
    rw [List.take_take, Nat.min_eq_left (t.lineStart_mono (Nat.le_of_lt hn))] at hboth
    exact hboth.symm
  have hbreaks : m = n + breakCount ((t.take (t.lineStart m)).drop (t.lineStart n)) := by
    have hfront := breakCount_append_of_paired (returnsPaired_take_lineStart ht n)
      ((t.take (t.lineStart m)).drop (t.lineStart n))
    rwa [← hsplit, breakCount_take_lineStart hm, breakCount_take_lineStart (by omega)] at hfront
  generalize (t.take (t.lineStart m)).drop (t.lineStart n) = between at hsplit hbreaks
  have hsome : between ≠ [] := by
    rintro rfl
    rw [breakCount] at hbreaks
    omega
  have hends : endsInBreak between := by
    have hwhole := (take_lineStart_whole (t := t) (n := m) (by rw [segments_length]; omega)).2
    rw [hsplit, IsWhole, endsInBreak_append hsome] at hwhole
    exact hwhole.resolve_left (List.append_ne_nil_of_right_ne_nil _ hsome)
  rw [addedLines, if_neg hsome, lineCount, if_pos hends]
  omega

/-- The lines from one on make as many lines as they are. -/
theorem addedLines_from (hne : t ≠ []) {n : Nat} (hn : n ≤ t.breakCount) :
    addedLines (t.drop (t.lineStart n)) = t.lineCount - n := by
  have hrest := breakCount_drop_lineStart hn
  unfold addedLines
  split
  · next hnil =>
    rw [List.drop_eq_nil_iff] at hnil
    by_contra hmany
    exact Nat.not_le.mpr (lineStart_lt_length (by omega) hne) hnil
  · next hsome =>
    have hends := endsInBreak_append (t := t.take (t.lineStart n)) hsome
    rw [List.take_append_drop] at hends
    rw [lineCount, lineCount, hends]
    omega

theorem breakCount_eq_count (ht : t.returnsPaired) : t.breakCount = t.count '\n' := by
  have hbreaks := t.segments_length
  rw [segments_length_paired ht] at hbreaks
  omega

end paired

/-- A text that is completed has a break for each of its lines. -/
theorem breakCount_completed {t eol : Text} (heol : eol = ['\n'] ∨ eol = ['\r', '\n']) :
    breakCount (if t.endsInBreak then t else t ++ eol) = t.lineCount := by
  unfold lineCount
  split
  · rfl
  · next hopen =>
    have hmeets : ¬ Meets t eol := by
      rintro ⟨hreturn, -⟩
      exact hopen (by rw [endsInBreak, hreturn]; rfl)
    have h := breakCount_append t eol
    rw [if_neg hmeets] at h
    rcases heol with rfl | rfl <;> exact h

end Text
end ExEditor
