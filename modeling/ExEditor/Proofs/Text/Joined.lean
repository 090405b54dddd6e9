import ExEditor.Proofs.Text.Rows

/-! The lines of two texts that are put together, whatever breaks they have. A return at the end of the first and a
feed at the front of the second make one break; apart from that no line of the one reaches into the other. -/
namespace ExEditor
namespace Text

/-- Whether a text and the one that follows it come to share a break. -/
def Meets (t u : Text) : Prop := t.getLast? = some '\r' ∧ u.head? = some '\n'

instance (t u : Text) : Decidable (Meets t u) := inferInstanceAs (Decidable (_ ∧ _))

theorem meets_cons {c : Char} {t : Text} (h : t ≠ []) (u : Text) : Meets (c :: t) u ↔ Meets t u := by
  rw [Meets, Meets, List.getLast?_cons_of_ne_nil h]

theorem endsInBreak_cons {c : Char} {t : Text} (h : t ≠ []) : endsInBreak (c :: t) = endsInBreak t :=
  endsInBreak_append (t := [c]) h

theorem fromLine_break {c : Char} {t : Text} (hp : ∀ t', c = '\r' → t = '\n' :: t' → False) (hc : isBreak c)
    (n : Nat) : fromLine (c :: t) (n + 1) = fromLine t n := by
  rw [fromLine.eq_4 c t n hp, if_pos hc]

/-- Whether a text is whole lines. -/
def IsWhole (t : Text) : Prop := t = [] ∨ endsInBreak t

theorem isWhole_cons {c : Char} {t : Text} (hn : t ≠ []) : IsWhole (c :: t) ↔ IsWhole t := by
  simp [IsWhole, hn, endsInBreak_cons hn]

theorem isWhole_break {c : Char} {t : Text} (hc : isBreak c) (h : IsWhole t) : IsWhole (c :: t) := by
  by_cases hn : t = []
  · simp [hn, IsWhole, endsInBreak, hc]
  · exact (isWhole_cons hn).mpr h

/-- Behind whole lines the text that was added begins, but for a feed that has gone to the last of them. -/
theorem fromLine_append {t : Text} (ht : IsWhole t) (u : Text) :
    fromLine (t ++ u) (breakCount t) = if Meets t u then u.tail else u := by
  fun_induction breakCount t with
  | case1 => simp [fromLine, Meets]
  | case2 t ih =>
    have hcons : fromLine ('\r' :: '\n' :: t ++ u) (breakCount t + 1) = fromLine (t ++ u) (breakCount t) := rfl
    rw [hcons]
    by_cases hn : t = []
    · subst hn
      simp [Meets, fromLine, breakCount]
    · have hmeets : Meets ('\r' :: '\n' :: t) u ↔ Meets t u := by
        rw [meets_cons (by simp), meets_cons hn]
      rw [isWhole_cons (by simp), isWhole_cons hn] at ht
      rw [ih ht]
      simp only [hmeets]
  | case3 c t hp hc ih =>
    by_cases hn : t = []
    · subst hn
      by_cases hmeets : Meets [c] u
      · obtain ⟨hr, hf⟩ := hmeets
        obtain rfl : c = '\r' := by simpa using hr
        obtain ⟨u', rfl⟩ : ∃ u', u = '\n' :: u' := List.head?_eq_some_iff.mp hf
        simp [breakCount, fromLine, Meets]
      · have hpair : ∀ u', c = '\r' → u = '\n' :: u' → False := by
          rintro u' rfl rfl
          exact hmeets ⟨rfl, rfl⟩
        rw [if_neg hmeets]
        exact (fromLine_break hpair hc 0).trans (by simp [fromLine])
    · have hpair : ∀ t', c = '\r' → t ++ u = '\n' :: t' → False := by
        intro t' hr htail
        obtain ⟨d, t'', rfl⟩ := List.exists_cons_of_ne_nil hn
        cases htail
        exact hp t'' hr rfl
      rw [List.cons_append, fromLine_break hpair hc, ih ((isWhole_cons hn).mp ht)]
      simp only [meets_cons hn]
  | case4 c t hp hc ih =>
    have hn : t ≠ [] := by
      rintro rfl
      simp [IsWhole, endsInBreak, hc] at ht
    have hwhole := (isWhole_cons hn).mp ht
    obtain ⟨n, hcount⟩ := Nat.exists_eq_add_of_lt (breakCount_pos (hwhole.resolve_left hn))
    have ih := ih hwhole
    have hpair : ∀ t', c = '\r' → t ++ u = '\n' :: t' → False := by
      rintro t' rfl _
      exact hc rfl
    rw [hcount, Nat.zero_add] at ih ⊢
    rw [List.cons_append, fromLine.eq_4 c (t ++ u) n hpair, if_neg hc, ih]
    simp only [meets_cons hn]

theorem breakCount_cons {c : Char} {t : Text} (hp : ∀ t', c = '\r' → t = '\n' :: t' → False) :
    breakCount (c :: t) = if isBreak c then breakCount t + 1 else breakCount t := by
  rw [breakCount.eq_3 c t hp]

/-- What stands before a line is whole lines, as many as its number says. -/
theorem take_lineStart_whole {t : Text} {n : Nat} (h : n < t.segments.length) :
    breakCount (t.take (t.lineStart n)) = n ∧ IsWhole (t.take (t.lineStart n)) := by
  fun_induction fromLine t n with
  | case1 t => simp [lineStart, fromLine, breakCount, IsWhole]
  | case2 n => simp [segments] at h
  | case3 t n ih =>
    rw [segments_pair, List.length_cons] at h
    obtain ⟨hcount, hwhole⟩ := ih (by omega)
    rw [lineStart_pair, List.take_succ_cons, List.take_succ_cons]
    exact ⟨by simpa [breakCount] using hcount, isWhole_break rfl (isWhole_break rfl hwhole)⟩
  | case4 c t n hp hc ih =>
    rw [segments.eq_3 c t hp, if_pos hc, List.length_cons] at h
    obtain ⟨hcount, hwhole⟩ := ih (by omega)
    have hpair : ∀ t', c = '\r' → t.take (lineStart t n) = '\n' :: t' → False := by
      intro t' hr ht
      obtain ⟨t'', hcut⟩ := List.take_prefix (lineStart t n) t
      rw [ht] at hcut
      exact hp _ hr hcut.symm
    rw [lineStart_break hp hc, List.take_succ_cons, breakCount_cons hpair, if_pos hc, hcount]
    exact ⟨rfl, isWhole_break hc hwhole⟩
  | case5 c t n hp hc ih =>
    have hl : (segments (c :: t)).length = (segments t).length := by
      rw [segments_length, segments_length, breakCount_cons hp, if_neg hc]
    obtain ⟨hcount, hwhole⟩ := ih (by omega)
    have hne : t.take (lineStart t (n + 1)) ≠ [] := by
      intro hnil
      rw [hnil] at hcount
      cases hcount
    have hpair : ∀ t', c = '\r' → t.take (lineStart t (n + 1)) = '\n' :: t' → False := by
      rintro t' rfl _
      exact hc rfl
    rw [lineStart_char (by simpa using hc), List.take_succ_cons, breakCount_cons hpair, if_neg hc, hcount]
    exact ⟨rfl, (isWhole_cons hne).mpr hwhole⟩

theorem lineStart_append {t : Text} (ht : IsWhole t) (u : Text) :
    lineStart (t ++ u) (breakCount t) = if Meets t u then t.length + 1 else t.length := by
  rw [lineStart, fromLine_append ht, List.length_append]
  split
  · next h =>
    obtain ⟨u', rfl⟩ : ∃ u', u = '\n' :: u' := List.head?_eq_some_iff.mp h.2
    simp only [List.length_cons, List.tail_cons]
    omega
  · omega

/-- A line never begins inside a break. -/
theorem not_meets_lineStart {t : Text} {n : Nat} (h : n < t.segments.length) :
    ¬ Meets (t.take (t.lineStart n)) (t.drop (t.lineStart n)) := by
  intro hmeets
  obtain ⟨hcount, hwhole⟩ := take_lineStart_whole h
  have hstart := lineStart_append hwhole (t.drop (t.lineStart n))
  have hle : t.lineStart n ≤ t.length := Nat.sub_le _ _
  rw [hcount, List.take_append_drop, if_pos hmeets, List.length_take_of_le hle] at hstart
  omega

/-- The breaks of two texts that are put together are those of both, but for one that they come to share. -/
theorem breakCount_append (t u : Text) :
    breakCount (t ++ u) + (if Meets t u then 1 else 0) = breakCount t + breakCount u := by
  have hkept : ∀ {c : Char} {t : Text}, t ≠ [] → (∀ t', c = '\r' → t = '\n' :: t' → False) →
      breakCount (c :: (t ++ u)) = if isBreak c then breakCount (t ++ u) + 1 else breakCount (t ++ u) := by
    intro c t hn hp
    refine breakCount_cons fun t' hr heq => ?_
    rcases List.append_eq_cons_iff.mp heq with ⟨rfl, -⟩ | ⟨t'', rfl, -⟩
    · exact hn rfl
    · exact hp t'' hr rfl
  fun_induction breakCount t with
  | case1 => simp [Meets]
  | case2 t ih =>
    have hcons : breakCount ('\r' :: '\n' :: t ++ u) = breakCount (t ++ u) + 1 := rfl
    have hmeets : Meets ('\r' :: '\n' :: t) u ↔ Meets t u := by
      by_cases hn : t = []
      · simp [hn, Meets]
      · rw [meets_cons (by simp), meets_cons hn]
    simp only [hcons, hmeets]
    omega
  | case3 c t hp hc ih =>
    by_cases hn : t = []
    · subst hn
      by_cases hmeets : Meets [c] u
      · obtain ⟨hr, hf⟩ := hmeets
        obtain rfl : c = '\r' := by simpa using hr
        obtain ⟨u, rfl⟩ := List.head?_eq_some_iff.mp hf
        simp [breakCount, Meets, isBreak]
        omega
      · have hcons : breakCount ([c] ++ u) = breakCount u + 1 := by
          rw [List.singleton_append, breakCount_cons, if_pos hc]
          rintro t' rfl rfl
          exact hmeets ⟨rfl, rfl⟩
        rw [hcons, if_neg hmeets]
        simp [breakCount]
        omega
    · rw [List.cons_append, hkept hn hp, if_pos hc]
      simp only [meets_cons hn]
      omega
  | case4 c t hp hc ih =>
    by_cases hn : t = []
    · subst hn
      have hreturn : c ≠ '\r' := by
        rintro rfl
        exact hc rfl
      rw [List.singleton_append, breakCount_cons (fun t' hr _ => hreturn hr), if_neg hc, if_neg]
      · simp [breakCount]
      · exact fun hmeets => hreturn (by simpa using hmeets.1)
    · rw [List.cons_append, hkept hn hp, if_neg hc]
      simp only [meets_cons hn]
      exact ih

/-- Each feed ends a line, alone or together with a return. -/
theorem count_feed_le_breakCount (t : Text) : t.count '\n' ≤ t.breakCount := by
  fun_induction breakCount t with
  | case1 => simp
  | case2 t ih => simp; omega
  | case3 c t hp hc ih => rw [List.count_cons]; split <;> omega
  | case4 c t hp hc ih =>
    have hne : c ≠ '\n' := by
      rintro rfl
      exact hc rfl
    rwa [List.count_cons_of_ne hne]

/-- A text without breaks brings no line. -/
theorem breakCount_append_plain (t : Text) {u : Text} (hu : IsPlain u) :
    breakCount (t ++ u) = breakCount t := by
  have hmeets : ¬ Meets t u := fun h => by
    simpa [isBreak] using hu '\n' (List.mem_of_mem_head? h.2)
  have hnone : u.segments.length = 1 := by rw [segments_plain hu, List.length_singleton]
  have happend := breakCount_append t u
  rw [if_neg hmeets] at happend
  rw [segments_length] at hnone
  omega

theorem not_meets_of_isPlain {t : Text} (ht : IsPlain t) (u : Text) : ¬ Meets t u := fun h => by
  simpa [isBreak] using ht '\r' (List.mem_of_getLast? h.1)

theorem Meets.append_right {t u : Text} (h : Meets t u) (u' : Text) : Meets t (u ++ u') := by
  obtain ⟨hreturn, hfeed⟩ := h
  obtain ⟨u, rfl⟩ := List.head?_eq_some_iff.mp hfeed
  exact ⟨hreturn, rfl⟩

theorem breakCount_of_isPlain {t : Text} (ht : IsPlain t) : breakCount t = 0 := breakCount_append_plain [] ht

/-- A return that comes to share a break with what follows was no break of its own that a feed ends. -/
theorem count_feed_add_breakCount_le (t u : Text) : t.count '\n' + u.breakCount ≤ breakCount (t ++ u) := by
  have happend := breakCount_append t u
  by_cases hmeets : Meets t u
  · rw [if_pos hmeets] at happend
    obtain ⟨t', rfl⟩ : ∃ t', t = t' ++ ['\r'] := List.getLast?_eq_some_iff.mp hmeets.1
    have hreturn := breakCount_append t' ['\r']
    have hfeeds := count_feed_le_breakCount t'
    rw [if_neg (by simp [Meets])] at hreturn
    have hone : breakCount ['\r'] = 1 := rfl
    have hcount : (t' ++ ['\r']).count '\n' = t'.count '\n' := by simp
    rw [hcount]
    omega
  · have hfeeds := count_feed_le_breakCount t
    rw [if_neg hmeets] at happend
    omega

/-- The breaks of a line are those of its end. -/
theorem breakCount_drop_lineBody (row : Text) : breakCount (row.drop (lineBody row).length) = breakCount row := by
  have happend := breakCount_append (lineBody row) (row.drop (lineBody row).length)
  rw [lineBody_append, if_neg (not_meets_of_isPlain (isPlain_lineBody row) _),
    breakCount_of_isPlain (isPlain_lineBody row)] at happend
  omega

theorem take_lineStart_succ {t : Text} {n : Nat} (h : n < t.segments.length) :
    t.take (t.lineStart (n + 1)) = t.take (t.lineStart n) ++ t.segments[n] := by
  rw [take_lineStart, take_lineStart, List.take_add_one, List.getElem?_eq_getElem h, List.flatten_append]
  simp

/-- All lines but the last end in one break. -/
theorem segment_whole {t : Text} {n : Nat} (hn : n < t.segments.length) (h : n + 1 < t.segments.length) :
    breakCount t.segments[n] = 1 ∧ endsInBreak t.segments[n] := by
  obtain ⟨hcount, -⟩ := take_lineStart_whole hn
  obtain ⟨hnext, hwhole⟩ := take_lineStart_whole h
  have hmeets : ¬ Meets (t.take (t.lineStart n)) t.segments[n] := fun hmeets => by
    refine not_meets_lineStart hn ?_
    rw [drop_lineStart, ← fromLine_eq, fromLine_succ t hn]
    exact hmeets.append_right _
  have happend := breakCount_append (t.take (t.lineStart n)) t.segments[n]
  rw [take_lineStart_succ hn] at hnext hwhole
  rw [if_neg hmeets] at happend
  have hone : breakCount t.segments[n] = 1 := by omega
  have hne : t.segments[n] ≠ [] := fun hnil => by
    rw [hnil] at hone
    cases hone
  refine ⟨hone, ?_⟩
  rw [IsWhole, endsInBreak_append hne] at hwhole
  exact hwhole.resolve_left fun hnil => hne (List.append_eq_nil_iff.mp hnil).2

/-- A return at the end of a text has no feed behind it. -/
theorem not_returnsPaired_concat (t : Text) : ¬ returnsPaired (t ++ ['\r']) := by
  induction t using returnsPaired.induct with
  | case1 => decide
  | case2 t ih => exact ih
  | case3 c t hp ih =>
    rw [List.cons_append]
    by_cases hc : c = '\r'
    · rw [returnsPaired.eq_3 c _ fun t' hr heq => ?feed]
      · simp [hc]
      case feed =>
        rcases List.append_eq_cons_iff.mp heq with ⟨-, heq⟩ | ⟨t'', rfl, -⟩
        · simp at heq
        · exact hp t'' hr rfl
    · rwa [returnsPaired_cons hc]

theorem fromLine_eq_nil {t : Text} {n : Nat} (h : breakCount t < n) : t.fromLine n = [] := by
  rw [fromLine_eq, List.drop_eq_nil_of_le (by rw [segments_length]; omega)]
  rfl

end Text
end ExEditor
