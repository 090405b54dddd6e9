import ExEditor.Proofs.Text.Joined

/-! Where an offset lies. An offset lies in its line or, if the line ends in a return and a feed, between the
two; and what stands beside an offset in a line is what stands beside it in the text, but for breaks. -/
namespace ExEditor
namespace Text

/-- The character in front of an offset. -/
def charBefore (t : Text) (offset : Nat) : Option Char := if offset = 0 then none else t[offset - 1]?

/-- What stands beside an offset, unless it belongs to a break. -/
def inLine (c : Option Char) : Option Char := c.filter (! isBreak ·)

/-- Whether a line ends in a return and a feed. -/
def endsInPair (t : Text) (n : Nat) : Bool :=
  t[t.lineEnd n]? == some '\r' && t[t.lineEnd n + 1]? == some '\n'

theorem fromLine_zero (t : Text) : t.fromLine 0 = t := by rw [fromLine]

theorem lineStart_zero (t : Text) : t.lineStart 0 = 0 := by rw [lineStart, fromLine_zero, Nat.sub_self]

theorem line_zero (t : Text) : t.line 0 = lineBody t := by rw [line, fromLine_zero]

theorem fromLine_char {c : Char} {t : Text} (hc : isBreak c = false) (n : Nat) :
    fromLine (c :: t) (n + 1) = fromLine t (n + 1) := by
  rw [fromLine.eq_4 c t n (by rintro _ rfl _; simp [isBreak] at hc), if_neg (by simp [hc])]

theorem lineEnd_pair (t : Text) (n : Nat) : lineEnd ('\r' :: '\n' :: t) (n + 1) = t.lineEnd n + 2 := by
  rw [lineEnd, lineStart_pair, lineEnd, line, fromLine, line]
  omega

theorem lineEnd_break {c : Char} {t : Text} (hp : ∀ t', c = '\r' → t = '\n' :: t' → False) (hc : isBreak c)
    (n : Nat) : lineEnd (c :: t) (n + 1) = t.lineEnd n + 1 := by
  rw [lineEnd, lineStart_break hp hc, line, fromLine_break hp hc, lineEnd, line]
  omega

theorem lineEnd_break_zero {c : Char} {t : Text} (hc : isBreak c) : lineEnd (c :: t) 0 = 0 := by
  rw [lineEnd, lineStart_zero, line_zero, lineBody, List.takeWhile_cons_of_neg (by simpa using hc)]
  rfl

theorem lineEnd_char {c : Char} {t : Text} (hc : isBreak c = false) (n : Nat) :
    lineEnd (c :: t) n = t.lineEnd n + 1 := by
  cases n with
  | zero =>
    rw [lineEnd, lineStart_zero, line_zero, lineBody, List.takeWhile_cons_of_pos (by simpa using hc), lineEnd,
      lineStart_zero, line_zero, lineBody, List.length_cons]
    omega
  | succ n =>
    rw [lineEnd, lineStart_char hc, line, fromLine_char hc, lineEnd, line]
    omega

/-- The line of an offset does not start behind it. -/
theorem lineStart_lineAt_le (t : Text) (offset : Nat) : t.lineStart (t.lineAt offset) ≤ offset := by
  fun_induction lineAt t offset with
  | case1 t => rw [lineStart_zero]
  | case2 n => exact Nat.zero_le _
  | case3 t => rw [lineStart_zero]; exact Nat.zero_le _
  | case4 t n ih => rw [lineStart_pair]; omega
  | case5 c t n h h' hc ih =>
    have hp := unpaired_of_offset h h'
    rw [lineStart_break hp hc]
    omega
  | case6 c t n h h' hc ih =>
    cases hline : lineAt t n with
    | zero => rw [lineStart_zero]; exact Nat.zero_le _
    | succ line =>
      rw [hline] at ih
      rw [lineStart_char (by simpa using hc)]
      omega

/-- Behind an offset the next line starts, if there is one. -/
theorem lt_lineStart_lineAt {t : Text} {offset : Nat} (h : t.lineAt offset < t.breakCount) :
    offset < t.lineStart (t.lineAt offset + 1) := by
  fun_induction lineAt t offset with
  | case1 t =>
    fun_induction breakCount t with
    | case1 => cases h
    | case2 t _ => rw [lineStart_pair]; omega
    | case3 c t hp hc _ => rw [lineStart_break hp hc]; omega
    | case4 c t hp hc ih => rw [lineStart_char (by simpa using hc)]; omega
  | case2 n => cases h
  | case3 t => rw [lineStart_pair]; omega
  | case4 t n ih =>
    rw [breakCount] at h
    rw [lineStart_pair]
    have := ih (by omega)
    omega
  | case5 c t n h' h'' hc ih =>
    have hp := unpaired_of_offset h' h''
    rw [breakCount_cons hp, if_pos hc] at h
    rw [lineStart_break hp hc]
    have := ih (by omega)
    omega
  | case6 c t n h' h'' hc ih =>
    have hp := unpaired_of_offset h' h''
    rw [breakCount_cons hp, if_neg hc] at h
    rw [lineStart_char (by simpa using hc)]
    exact Nat.succ_lt_succ (ih h)

/-- The breaks of a text are those in front of an offset and those behind it. One that the offset cuts is behind. -/
theorem lineAt_add_breakCount (t : Text) (offset : Nat) :
    t.lineAt offset + breakCount (t.drop offset) = t.breakCount := by
  fun_induction lineAt t offset with
  | case1 t => simp
  | case2 n => rfl
  | case3 t => simp [breakCount, isBreak]
  | case4 t n ih => simp [breakCount]; omega
  | case5 c t n h h' hc ih =>
    have hp := unpaired_of_offset h h'
    rw [List.drop_succ_cons, breakCount_cons hp, if_pos hc]
    omega
  | case6 c t n h h' hc ih =>
    have hp := unpaired_of_offset h h'
    rw [List.drop_succ_cons, breakCount_cons hp, if_neg hc, ih]

/-- The end of the text is on the last line. -/
theorem lineAt_length (t : Text) : t.lineAt t.length = t.breakCount := by
  have hend := t.lineAt_add_breakCount t.length
  rwa [List.drop_length] at hend

/-- A line holds the offsets from its start up to that of the next. -/
theorem lineAt_eq {t : Text} {n offset : Nat} (hn : n ≤ t.breakCount) (hstart : t.lineStart n ≤ offset)
    (hnext : n < t.breakCount → offset < t.lineStart (n + 1)) : t.lineAt offset = n := by
  have hle := t.lineAt_le offset
  have hat := t.lineStart_lineAt_le offset
  rcases Nat.lt_trichotomy (t.lineAt offset) n with hlt | heq | hgt
  · have hlater := lt_lineStart_lineAt (Nat.lt_of_lt_of_le hlt hn)
    have hmono : t.lineStart (t.lineAt offset + 1) ≤ t.lineStart n := t.lineStart_mono hlt
    omega
  · exact heq
  · have hearlier := hnext (Nat.lt_of_lt_of_le hgt hle)
    have hmono : t.lineStart (n + 1) ≤ t.lineStart (t.lineAt offset) := t.lineStart_mono hgt
    omega

/-- An offset lies in its line or inside the break behind it. -/
theorem le_lineEnd_or_inside {t : Text} {offset : Nat} (h : offset ≤ t.length) :
    offset ≤ t.lineEnd (t.lineAt offset) ∨
      t.endsInPair (t.lineAt offset) ∧ offset = t.lineEnd (t.lineAt offset) + 1 := by
  simp only [endsInPair, Bool.and_eq_true, beq_iff_eq]
  fun_induction lineAt t offset with
  | case1 t => exact .inl (Nat.zero_le _)
  | case2 n => cases h
  | case3 t => rw [lineEnd_break_zero rfl]; simp
  | case4 t n ih =>
    rw [lineEnd_pair]
    simpa using ih (by simpa using h)
  | case5 c t n h' h'' hc ih =>
    have hp := unpaired_of_offset h' h''
    rw [lineEnd_break hp hc]
    simpa using ih (by simpa using h)
  | case6 c t n h' h'' hc ih =>
    rw [lineEnd_char (by simpa using hc)]
    simpa using ih (by simpa using h)

/-- Between the end of a line and the start of the next is a break. -/
theorem lineEnd_lt_lineStart {t : Text} {n : Nat} (h : n < t.breakCount) : t.lineEnd n < t.lineStart (n + 1) := by
  fun_induction breakCount t generalizing n with
  | case1 => cases h
  | case2 t ih =>
    rw [lineStart_pair]
    cases n with
    | zero => rw [lineEnd_break_zero rfl]; omega
    | succ n => rw [lineEnd_pair]; exact Nat.add_lt_add_right (ih (by omega)) 2
  | case3 c t hp hc ih =>
    rw [lineStart_break hp hc]
    cases n with
    | zero => rw [lineEnd_break_zero hc]; omega
    | succ n => rw [lineEnd_break hp hc]; exact Nat.succ_lt_succ (ih (by omega))
  | case4 c t hp hc ih =>
    rw [lineStart_char (by simpa using hc), lineEnd_char (by simpa using hc)]
    exact Nat.succ_lt_succ (ih h)

theorem lineAt_lineEnd {t : Text} {n : Nat} (h : n ≤ t.breakCount) : t.lineAt (t.lineEnd n) = n :=
  lineAt_eq h (Nat.le_add_right _ _) fun hlt => lineEnd_lt_lineStart hlt

section beside
variable {t : Text} {n k : Nat}

theorem getElem?_lineStart_add (t : Text) (n k : Nat) : t[t.lineStart n + k]? = (t.fromLine n)[k]? := by
  rw [← List.getElem?_drop, drop_lineStart, fromLine_eq]

/-- The characters of a line are those of the text. -/
theorem getElem?_line (hk : k < (t.line n).length) : t[t.lineStart n + k]? = (t.line n)[k]? := by
  have hsplit : t.line n ++ (t.fromLine n).dropWhile (! isBreak ·) = t.fromLine n := List.takeWhile_append_dropWhile
  rw [getElem?_lineStart_add, ← hsplit, List.getElem?_append_left hk]

/-- Behind an offset in a line stands what stands there in the text, unless the line ends. -/
theorem inLine_getElem? (hk : k ≤ (t.line n).length) : inLine t[t.lineStart n + k]? = (t.line n)[k]? := by
  rcases Nat.lt_or_eq_of_le hk with hlt | rfl
  · have hplain := isPlain_lineBody (t.fromLine n) _ (List.getElem_mem hlt)
    rw [getElem?_line hlt, List.getElem?_eq_getElem hlt, inLine]
    exact (Option.filter_some_eq_some).mpr (by simpa using hplain)
  · have hsplit : t.line n ++ (t.fromLine n).dropWhile (! isBreak ·) = t.fromLine n :=
      List.takeWhile_append_dropWhile
    rw [getElem?_lineStart_add, ← hsplit, List.getElem?_append_right (Nat.le_refl _), Nat.sub_self,
      ← List.head?_eq_getElem?, List.getElem?_eq_none (Nat.le_refl _), inLine, Option.filter_eq_none_iff]
    intro c hc
    have hbreak := List.head?_dropWhile_not (! isBreak ·) (t.fromLine n)
    rw [hc] at hbreak
    simpa using hbreak

theorem lineStart_le (t : Text) (n : Nat) : t.lineStart n ≤ t.length := Nat.sub_le _ _

theorem charBefore_eq_getLast? {offset : Nat} (h : offset ≤ t.length) :
    t.charBefore offset = (t.take offset).getLast? := by
  rw [charBefore, List.getLast?_eq_getElem?, List.length_take_of_le h]
  split
  · next hz => simp [hz]
  · rw [List.getElem?_take_of_lt (by omega)]

theorem inLine_charBefore (hn : n ≤ t.breakCount) (hk : k ≤ (t.line n).length) :
    inLine (t.charBefore (t.lineStart n + k)) = (t.line n).charBefore k := by
  cases k with
  | zero =>
    have hwhole := (take_lineStart_whole (t := t) (n := n) (by rw [segments_length]; omega)).2
    rw [Nat.add_zero, charBefore_eq_getLast? (t.lineStart_le n), charBefore, if_pos rfl, inLine,
      Option.filter_eq_none_iff]
    intro c hc
    rcases hwhole with hnil | hends
    · simp [hnil] at hc
    · simpa [endsInBreak, hc] using hends
  | succ k =>
    have h := inLine_getElem? (Nat.le_of_succ_le hk)
    simpa [charBefore] using h

/-- An offset in a line is not inside a break. -/
theorem not_inside_pair (hn : n ≤ t.breakCount) (hk : k ≤ (t.line n).length) :
    ¬ (t.charBefore (t.lineStart n + k) = some '\r' ∧ t[t.lineStart n + k]? = some '\n') := by
  rintro ⟨hbefore, hafter⟩
  cases k with
  | zero =>
    rw [Nat.add_zero] at hbefore hafter
    rw [charBefore_eq_getLast? (t.lineStart_le n)] at hbefore
    refine not_meets_lineStart (t := t) (n := n) (by rw [segments_length]; omega) ⟨hbefore, ?_⟩
    rw [List.head?_drop, hafter]
  | succ k =>
    have h := inLine_charBefore hn hk
    have hnone : inLine (some '\r') = none := rfl
    rw [hbefore, hnone, charBefore, if_neg (Nat.succ_ne_zero k), Nat.add_sub_cancel,
      List.getElem?_eq_getElem hk] at h
    cases h

/-- A line ends where a break begins or the text ends. -/
theorem isBreak_lineEnd {c : Char} (h : t[t.lineEnd n]? = some c) : isBreak c := by
  have hnone := inLine_getElem? (t := t) (n := n) (Nat.le_refl _)
  rw [← lineEnd, h, List.getElem?_eq_none (Nat.le_refl _), inLine, Option.filter_eq_none_iff] at hnone
  simpa using hnone c rfl

theorem isBreak_of_isPlain_slice {first last : Nat} (h : IsPlain (t.slice first last)) (hfirst : first ≤ k)
    (hlast : k < last) {c : Char} (hc : t[k]? = some c) : isBreak c = false := by
  refine h c (List.mem_of_getElem? (i := k - first) ?_)
  rw [slice, List.getElem?_drop, Nat.add_sub_cancel' hfirst, List.getElem?_take_of_lt hlast, hc]

/-- A part without breaks ends in the line that it begins in. -/
theorem le_lineEnd_of_isPlain {first last : Nat} (h : IsPlain (t.slice first last)) (hlast : last ≤ t.length)
    (hfirst : first ≤ t.lineEnd n) : last ≤ t.lineEnd n := by
  by_contra hlt
  have hin : t.lineEnd n < t.length := by omega
  have hc : t[t.lineEnd n]? = some t[t.lineEnd n] := List.getElem?_eq_getElem hin
  have hplain := isBreak_of_isPlain_slice h hfirst (by omega) hc
  rw [isBreak_lineEnd hc] at hplain
  cases hplain

/-- The next line starts behind a pair, not inside it. -/
theorem lt_lineStart_of_endsInPair (h : t.endsInPair n) (hn : n < t.breakCount) :
    t.lineEnd n + 1 < t.lineStart (n + 1) := by
  refine Nat.lt_of_le_of_ne (lineEnd_lt_lineStart hn) fun heq => ?_
  simp only [endsInPair, Bool.and_eq_true, beq_iff_eq] at h
  have hpair := not_inside_pair (t := t) (n := n + 1) (k := 0) hn (Nat.zero_le _)
  rw [Nat.add_zero, ← heq, charBefore, if_neg (Nat.succ_ne_zero _), Nat.add_sub_cancel] at hpair
  exact hpair h

end beside

section cuts
variable {t : Text} {c n offset : Nat}

theorem fromLine_fromLine (t : Text) (c n : Nat) : (t.fromLine c).fromLine n = t.fromLine (c + n) := by
  fun_induction fromLine t c with
  | case1 t => rw [Nat.zero_add]
  | case2 c => cases n <;> simp [fromLine]
  | case3 t c ih => rw [ih, Nat.succ_add, fromLine]
  | case4 d t c hp hd ih => rw [ih, Nat.succ_add, fromLine_break hp hd]
  | case5 d t c hp hd ih => rw [ih, Nat.add_right_comm, fromLine_char (by simpa using hd)]

theorem line_fromLine (t : Text) (c n : Nat) : (t.fromLine c).line n = t.line (c + n) := by
  rw [line, fromLine_fromLine, line]

theorem length_fromLine (t : Text) (c : Nat) : (t.fromLine c).length = t.length - t.lineStart c := by
  have h := fromLine_length_le t c
  rw [lineStart]
  omega

theorem lineStart_fromLine (t : Text) (c n : Nat) :
    t.lineStart c + (t.fromLine c).lineStart n = t.lineStart (c + n) := by
  have h := fromLine_length_le t c
  have h' := fromLine_length_le (t.fromLine c) n
  rw [fromLine_fromLine] at h'
  rw [lineStart, lineStart, fromLine_fromLine, lineStart]
  omega

theorem lineEnd_fromLine (t : Text) (c n : Nat) :
    t.lineStart c + (t.fromLine c).lineEnd n = t.lineEnd (c + n) := by
  rw [lineEnd, ← Nat.add_assoc, lineStart_fromLine, line_fromLine, lineEnd]

theorem endsInPair_fromLine (t : Text) (c n : Nat) : (t.fromLine c).endsInPair n = t.endsInPair (c + n) := by
  rw [endsInPair, ← getElem?_lineStart_add, ← getElem?_lineStart_add, ← Nat.add_assoc, lineEnd_fromLine,
    endsInPair]

theorem breakCount_fromLine (hc : c ≤ t.breakCount) : c + (t.fromLine c).breakCount = t.breakCount := by
  fun_induction fromLine t c with
  | case1 t => rw [Nat.zero_add]
  | case2 c => cases hc
  | case3 t c ih =>
    rw [breakCount] at hc ⊢
    have := ih (by omega)
    omega
  | case4 d t c hp hd ih =>
    rw [breakCount_cons hp, if_pos hd] at hc ⊢
    have := ih (by omega)
    omega
  | case5 d t c hp hd ih =>
    rw [breakCount_cons hp, if_neg hd] at hc ⊢
    exact ih hc

/-- The lines from one on are counted from it. -/
theorem lineAt_fromLine (hc : c ≤ t.breakCount) (offset : Nat) :
    t.lineAt (t.lineStart c + offset) = c + (t.fromLine c).lineAt offset := by
  have hcount := breakCount_fromLine hc
  have hle := (t.fromLine c).lineAt_le offset
  refine lineAt_eq (by omega) ?_ fun hlt => ?_
  · rw [← lineStart_fromLine]
    exact Nat.add_le_add_left (lineStart_lineAt_le _ _) _
  · rw [Nat.add_assoc, ← lineStart_fromLine]
    exact Nat.add_lt_add_left (lt_lineStart_lineAt (by omega)) _

/-- What stands in front of a line is the lines before it, and an empty one at the end. -/
theorem segments_take_lineStart (hc : c ≤ t.breakCount) :
    segments (t.take (t.lineStart c)) = t.segments.take c ++ [[]] := by
  fun_induction fromLine t c with
  | case1 t => simp [lineStart_zero, segments]
  | case2 c => cases hc
  | case3 t c ih =>
    rw [breakCount] at hc
    rw [lineStart_pair, List.take_succ_cons, List.take_succ_cons, segments_pair, ih (by omega), segments_pair]
    rfl
  | case4 d t c hp hd ih =>
    rw [breakCount_cons hp, if_pos hd] at hc
    have hpair : ∀ t', d = '\r' → t.take (lineStart t c) = '\n' :: t' → False := by
      intro t' hr ht
      obtain ⟨t'', hcut⟩ := List.take_prefix (lineStart t c) t
      rw [ht] at hcut
      exact hp _ hr hcut.symm
    rw [lineStart_break hp hd, List.take_succ_cons, segments.eq_3 d _ hpair, if_pos hd, ih (by omega),
      segments.eq_3 d t hp, if_pos hd]
    rfl
  | case5 d t c hp hd ih =>
    rw [breakCount_cons hp, if_neg hd] at hc
    have hpair : ∀ t', d = '\r' → t.take (lineStart t (c + 1)) = '\n' :: t' → False := by
      rintro t' rfl _
      exact hd rfl
    rw [lineStart_char (by simpa using hd), List.take_succ_cons, segments.eq_3 d _ hpair, if_neg hd, ih hc,
      segments.eq_3 d t hp, if_neg hd]
    obtain ⟨s, rest, hs⟩ := List.exists_cons_of_ne_nil (segments_ne_nil t)
    rw [hs]
    rfl

theorem breakCount_take_lineStart (hc : c ≤ t.breakCount) : breakCount (t.take (t.lineStart c)) = c :=
  (take_lineStart_whole (by rw [segments_length]; omega)).1

theorem lineStart_take_lineStart (hc : c ≤ t.breakCount) (hn : n ≤ c) :
    lineStart (t.take (t.lineStart c)) n = t.lineStart n := by
  have hlength : (t.segments.take c).length = c := by rw [List.length_take, segments_length]; omega
  rw [lineStart_eq, segments_take_lineStart hc, List.take_append_of_le_length (by omega), List.take_take,
    Nat.min_eq_left hn, ← lineStart_eq]

theorem line_take_lineStart (hc : c ≤ t.breakCount) (hn : n < c) :
    line (t.take (t.lineStart c)) n = t.line n := by
  have hlength : (t.segments.take c).length = c := by rw [List.length_take, segments_length]; omega
  rw [line_eq, segments_take_lineStart hc, line_eq, List.getD_eq_getElem?_getD, List.getD_eq_getElem?_getD,
    List.getElem?_append_left (by omega), List.getElem?_take_of_lt hn]

/-- Behind the lines before a line is nothing more. -/
theorem line_take_lineStart_self (hc : c ≤ t.breakCount) : line (t.take (t.lineStart c)) c = [] := by
  have hlength : (t.segments.take c).length = c := by rw [List.length_take, segments_length]; omega
  rw [line_eq, segments_take_lineStart hc, List.getD_eq_getElem?_getD, List.getElem?_append_right (by omega), hlength,
    Nat.sub_self]
  rfl

theorem lineStart_lt (hn : n < t.breakCount) : t.lineStart n < t.lineStart (n + 1) :=
  Nat.lt_of_le_of_lt (Nat.le_add_right _ _) (lineEnd_lt_lineStart hn)

theorem endsInPair_take_lineStart (hc : c ≤ t.breakCount) (hn : n < c) :
    endsInPair (t.take (t.lineStart c)) n = t.endsInPair n := by
  have hend : lineEnd (t.take (t.lineStart c)) n = t.lineEnd n := by
    rw [lineEnd, lineStart_take_lineStart hc (Nat.le_of_lt hn), line_take_lineStart hc hn, lineEnd]
  rw [Bool.eq_iff_iff]
  constructor
  · intro h
    have huncut {k : Nat} {d : Char} (hd : (t.take (t.lineStart c))[k]? = some d) : t[k]? = some d := by
      rw [List.getElem?_take] at hd
      split at hd
      · exact hd
      · cases hd
    simp only [endsInPair, hend, Bool.and_eq_true, beq_iff_eq] at h ⊢
    exact ⟨huncut h.1, huncut h.2⟩
  · intro h
    have hlt := lt_lineStart_of_endsInPair h (Nat.lt_of_lt_of_le hn hc)
    have hmono : t.lineStart (n + 1) ≤ t.lineStart c := t.lineStart_mono hn
    rw [endsInPair, hend, List.getElem?_take_of_lt (by omega), List.getElem?_take_of_lt (by omega)]
    exact h

/-- Nor does the empty line that is left there end in a pair. -/
theorem endsInPair_take_lineStart_self (hc : c ≤ t.breakCount) : endsInPair (t.take (t.lineStart c)) c = false := by
  have hend : lineEnd (t.take (t.lineStart c)) c = t.lineStart c := by
    rw [lineEnd, lineStart_take_lineStart hc (Nat.le_refl _), line_take_lineStart_self hc]
    rfl
  have hnone : (t.take (t.lineStart c))[t.lineStart c]? = none :=
    List.getElem?_eq_none (List.length_take_le _ _)
  rw [endsInPair, hend, hnone]
  rfl

/-- The lines before a line are counted as in the whole text. -/
theorem lineAt_take_lineStart (hc : c ≤ t.breakCount) (ho : offset ≤ t.lineStart c) :
    t.lineAt offset = lineAt (t.take (t.lineStart c)) offset := by
  have hcount := breakCount_take_lineStart hc
  have hle := lineAt_le (t.take (t.lineStart c)) offset
  rw [hcount] at hle
  refine lineAt_eq (Nat.le_trans hle hc) ?_ fun hlt => ?_
  · rw [← lineStart_take_lineStart hc hle]
    exact lineStart_lineAt_le _ _
  · rcases Nat.lt_or_eq_of_le hle with hin | heq
    · rw [← lineStart_take_lineStart hc hin]
      exact lt_lineStart_lineAt (by rwa [hcount])
    · rw [heq] at hlt ⊢
      exact Nat.lt_of_le_of_lt ho (lineStart_lt hlt)

end cuts
end Text
end ExEditor
