import ExEditor.Proofs.Substitution.Run

/-! Where a substitution takes the lines of a text. A line whose text becomes several lines comes to the last of
them, as its mark does. -/
namespace ExEditor

/-- Where marks are that stand on lines depends only on the lines that there are. -/
theorem Frame.Carries.of_lines {f g : Frame} {move move' : LineMove} (h : Frame.Carries Text.On f g move)
    (heq : ∀ line ≤ f.text.count '\n', move line = move' line) : Frame.Carries Text.On f g move' where
  streaming := h.streaming
  tracks k line hk := by
    have hmoved := h.tracks k line hk
    cases line with
    | none => exact hmoved
    | some line =>
      obtain ⟨offset, -, hrel⟩ := hk
      cases hrel with
      | some hst => rwa [Option.bind_some, heq line hst.line_le] at hmoved

namespace Substitution

/-- Line that a line comes to when accepted matches are replaced: that of the end of its text. -/
def newLine (s : Substitution) (t : Text) (accepted : List Site) (line : Nat) : Nat :=
  (s.front t accepted line ++ s.spliced (t.line line) 0 (Site.onLine accepted line)).count '\n'

/-- Going through sites adds to those that are accepted. -/
theorem judge_accepted (s : Substitution) (t : Text) (sites accepted : List Site) (h : Host) :
    ∃ later, later.Sublist sites ∧ (s.judge t sites accepted h).accepted = accepted ++ later := by
  fun_induction judge s t sites accepted h with
  | case1 => exact ⟨[], List.Sublist.refl _, by simp⟩
  | case2 => exact ⟨[], List.nil_sublist _, by simp⟩
  | case3 => exact ⟨[], List.nil_sublist _, by simp⟩
  | case4 site others accepted host host' hl host'' hr ih =>
    obtain ⟨later, hsub, hacc⟩ := ih
    exact ⟨later, hsub.cons site, hacc⟩
  | case5 site others accepted host host' hl host'' hr ih =>
    obtain ⟨later, hsub, hacc⟩ := ih
    exact ⟨site :: later, hsub.cons_cons site, by simp [hacc]⟩

section moves
variable {s : Substitution} {t : Text} {accepted later : List Site} {n line : Nat}

/-- Matches further down make no difference to where a line comes to. -/
theorem newLine_append (h : ∀ site ∈ later, n < site.line) :
    s.newLine t (accepted ++ later) n = s.newLine t accepted n := by
  have hnone : Site.onLine later n = [] := Site.onLine_eq_nil fun site hs => Nat.ne_of_gt (h site hs)
  rw [newLine, newLine, Site.onLine_append, hnone, List.append_nil,
    s.front_append t fun site hs => Nat.le_of_lt (h site hs)]

/-- Lines behind all that is accepted keep their distance from it. -/
theorem newLine_behind (ht : t.returnsPaired) (h : ∀ site ∈ accepted, site.line < n) {k : Nat}
    (hk : n + k ≤ t.count '\n') :
    s.newLine t accepted (n + k) = (s.front t accepted n).count '\n' + k := by
  have hnone : ∀ k, Site.onLine accepted (n + k) = [] := fun k =>
    Site.onLine_eq_nil fun site hs => Nat.ne_of_lt (Nat.lt_of_lt_of_le (h site hs) (Nat.le_add_right n k))
  have hfront : ∀ k, n + k ≤ t.count '\n' →
      (s.front t accepted (n + k)).count '\n' = (s.front t accepted n).count '\n' + k := by
    intro k hk
    induction k with
    | zero => rfl
    | succ k ih =>
      have hlength := Text.segments_length_paired ht
      have hn : n + k < t.segments.length := by omega
      have hrow := Text.isRow_segment ht (n := n + k) (by omega)
      rw [← Nat.add_assoc, s.front_succ t accepted hn, hnone, splicedRow_nil, List.count_append, hrow.count_feed,
        ih (by omega)]
      rfl
  have hplain : (t.line (n + k)).count '\n' = 0 := Text.count_feed_plain (Text.isPlain_lineBody _)
  rw [newLine, hnone, spliced, List.drop_zero, List.count_append, hplain, hfront k hk]
  rfl

end moves

section loop
variable {s : Substitution} {t : Text} {last n line : Nat} {accepted : List Site} {p : Progress}

theorem Working.count_eq_of_paired (ht : t.returnsPaired) (h : s.Working t last n accepted line p)
    (hn : n ≤ t.count '\n') : p.frame.text.count '\n' = line + (t.count '\n' - n) := by
  obtain ⟨rows, hf, hr, hrows⟩ := h.rows
  have hsplit := congrArg (List.count '\n') (List.take_append_drop (t.lineStart n) t)
  rw [List.count_append, Text.count_take_lineStart ht hn, t.drop_lineStart_eq] at hsplit
  rw [h.text_eq, draft, hf, List.count_append, Text.count_feed_rows hr, hrows]
  omega

theorem le_of_mem_sites {m : Matcher} {site : Site} (hs : site ∈ s.sites m t n last) : n ≤ site.line := by
  obtain ⟨k, hk, hsite⟩ := List.mem_flatMap.mp hs
  rw [Site.line_of_mem_ofLine hsite]
  rw [Frame.lineRange, List.mem_range'_1] at hk
  exact hk.1

/-- What one line of the loop does to lines is the first step of what the accepted matches do. -/
theorem Working.newLine_eq (ht : t.returnsPaired) (h : s.Working t last n accepted line p) (picked : List Match) :
    s.newLine t (accepted ++ Site.ofLine n picked) n = line + (s.spliced (t.line n) 0 picked).count '\n' ∧
      ∀ k, n + 1 + k ≤ t.count '\n' → s.newLine t (accepted ++ Site.ofLine n picked) (n + 1 + k) =
        line + 1 + (s.spliced (t.line n) 0 picked).count '\n' + k := by
  obtain ⟨rows, hf, hr, hrows⟩ := h.rows
  have hfront : (s.front t accepted n).count '\n' = line := by rw [hf, Text.count_feed_rows hr, hrows]
  have hon : Site.onLine (accepted ++ Site.ofLine n picked) n = picked := by
    rw [Site.onLine_append, Site.onLine_ofLine,
      Site.onLine_eq_nil fun site hs => Nat.ne_of_lt (h.before site hs), List.nil_append]
  constructor
  · have hsame : s.front t (accepted ++ Site.ofLine n picked) n = s.front t accepted n :=
      s.front_append t fun site hs => Nat.le_of_eq (Site.line_of_mem_ofLine hs).symm
    rw [newLine, hon, hsame, List.count_append, hfront]
  · intro k hk
    have hlength := Text.segments_length_paired ht
    have hn : n < t.segments.length := by omega
    have hbreak := (Text.isRow_segment ht (n := n) (by omega)).drop_lineBody
    rw [← Text.line_getElem t hn] at hbreak
    have hfeed : (t.segments[n].drop (t.line n).length).count '\n' = 1 := by
      rcases hbreak with hb | hb <;> rw [hb] <;> rfl
    have hbefore : ∀ site ∈ accepted ++ Site.ofLine n picked, site.line < n + 1 := by
      intro site hs
      rcases List.mem_append.mp hs with hs | hs
      · exact Nat.lt_succ_of_lt (h.before site hs)
      · exact Nat.lt_succ_of_le (Nat.le_of_eq (Site.line_of_mem_ofLine hs))
    rw [newLine_behind ht hbefore hk, front_next hn h.before, List.count_append, List.count_append, hfront, hfeed]
    omega

/-- The loop takes the lines that are still to come where the accepted matches take them. -/
theorem workOnLines_carries (ht : t.returnsPaired) (hl : last < t.segments.length) (m : Matcher)
    (h : s.Working t last n accepted line p) {fuel : Nat} (hf : last < n + fuel)
    (hx : ∀ site ∈ s.sites m t n last, '\r' ∉ s.expansion (t.line site.line) site.found) :
    Frame.Carries Text.On p.frame (s.workOnLines m fuel line p).frame fun q =>
      some (if q < line then q
        else s.newLine t (s.judge t (s.sites m t n last) accepted p.host).accepted (n + (q - line))) := by
  induction fuel generalizing n line accepted p with
  | zero =>
    have hn := h.le_last
    omega
  | succ k ih =>
    rw [sites_succ s m t h.le_last] at hx ⊢
    have hline : ∀ site ∈ s.lineSites m t n, '\r' ∉ s.expansion (t.line n) site.found := by
      intro site hs
      have hsite := hx site (List.mem_append_left _ hs)
      rwa [Site.line_of_mem_ofLine hs] at hsite
    obtain ⟨line', p', -, -, hhost, hnext, hdone, ⟨picked, hacc, hline', hcarries⟩, hrun⟩ := h.step ht hl m hline k
    obtain ⟨hhere, hbehind⟩ := h.newLine_eq ht picked
    have hn := h.le_last
    have hsegments := Text.segments_length_paired ht
    have hcount := h.count_eq_of_paired ht (by omega)
    rw [LineMove.fuse_added] at hcarries
    -- Where the work ends with this line, the accepted matches take the lines as this line does.
    have hlast : Frame.Carries Text.On p.frame p'.frame fun q => some (if q < line then q
        else s.newLine t (accepted ++ Site.ofLine n picked) (n + (q - line))) := by
      refine hcarries.of_lines fun q hq => congrArg some ?_
      split
      · rfl
      · next hq' =>
        rcases Nat.eq_or_lt_of_le (Nat.le_of_not_lt hq') with rfl | hlt
        · rw [Nat.sub_self, Nat.add_zero, hhere]
        · rw [show n + (q - line) = n + 1 + (q - line - 1) by omega, hbehind _ (by omega)]
          omega
    rw [hrun, judge_append]
    split
    · rwa [hacc]
    · rcases Nat.lt_or_eq_of_le h.le_last with hlt | rfl
      · have hrest := ih (hnext hlt) (by omega) fun site hs => hx site (List.mem_append_right _ hs)
        rw [hhost] at hrest
        obtain ⟨later, hsub, hmore⟩ := s.judge_accepted t (s.sites m t (n + 1) last)
          (s.judge t (s.lineSites m t n) accepted p.host).accepted
          (s.judge t (s.lineSites m t n) accepted p.host).host
        have hlater : ∀ site ∈ later, n < site.line := fun site hs => le_of_mem_sites (hsub.subset hs)
        rw [hacc] at hmore hrest ⊢
        have hsame : s.newLine t (accepted ++ Site.ofLine n picked ++ later) n =
          s.newLine t (accepted ++ Site.ofLine n picked) n := newLine_append hlater
        rw [← hmore, hhere] at hsame
        refine (hcarries.trans hrest).of_lines fun q hq => congrArg some ?_
        by_cases hq' : q < line
        · rw [if_pos hq', if_pos hq', if_pos (by omega)]
        rw [if_neg hq', if_neg hq']
        rcases Nat.eq_or_lt_of_le (Nat.le_of_not_lt hq') with rfl | hlt
        · rw [if_pos (by omega), Nat.sub_self, show n + 0 = n from rfl, hsame]
        · rw [if_neg (by omega)]
          congr 1
          omega
      · obtain ⟨stop, hstop, hlt⟩ := hdone rfl
        have hnone : s.sites m t (n + 1) n = [] := by simp [sites, Frame.lineRange]
        rw [workOnLines_done m k hstop hlt, hnone, judge, hacc]
        exact hlast

end loop

theorem offsets_markLines (f : Frame) (first last k : Nat) :
    (markLines f first last).openGroup.offsets (.line k) = f.offsets (.line k) := by
  rw [Frame.offsets_openGroup, markLines, Frame.offsets_setMark_ne _ (by simp), Frame.offsets_setMark_ne _ (by simp)]

theorem offsets_finish (p : Progress) (k : Nat) : p.finish.frame.offsets (.line k) = p.frame.offsets (.line k) := by
  have hunmark : ((p.frame.closeGroup.unsetMark .rangeBegin).unsetMark .rangeEnd).offsets (.line k) =
      p.frame.offsets (.line k) := by
    rw [Frame.offsets_unsetMark_ne _ (by simp), Frame.offsets_unsetMark_ne _ (by simp)]
    rfl
  unfold Progress.finish
  dsimp only
  split <;> exact hunmark

@[simp] theorem finish_streaming (p : Progress) : p.finish.frame.streaming = p.frame.streaming := by
  unfold Progress.finish
  dsimp only
  split <;> rfl

/-- A substitution takes lines where the accepted matches take them. -/
theorem run_carries (s : Substitution) (m : Matcher) {f : Frame} (ht : f.text.returnsPaired) {first last : Nat}
    (hf : first ≤ last) (hl : last < f.text.segments.length) (h : Host)
    (hx : ∀ site ∈ s.sites m f.text first last, '\r' ∉ s.expansion (f.text.line site.line) site.found) :
    Frame.Carries Text.On f (s.run m first last f h).frame fun line =>
      some (s.newLine f.text (s.judged m f.text first last h).accepted line) := by
  have hbound := segments_le_lineBound f
  have hfuel : last < first + lineBound f := by omega
  have hloop := workOnLines_carries ht hl m (working_first s ht hf hl h) hfuel hx
  obtain ⟨later, hsub, hacc⟩ := s.judge_accepted f.text (s.sites m f.text first last) [] h
  have hstart : Frame.Carries Text.On f (s.run m first last f h).frame fun line => some (if line < first then line
      else s.newLine f.text (s.judged m f.text first last h).accepted (first + (line - first))) := by
    have hmarked : Frame.Carries Text.On f (markLines f first last).openGroup some :=
      (Frame.Carries.refl _ f).congr (Frame.openGroup_text _) (offsets_markLines f first last)
        (Frame.remember_streaming _)
    exact (hmarked.trans hloop).congr (finish_text _) (offsets_finish _) (finish_streaming _)
  refine hstart.of_lines fun line hline => congrArg some ?_
  rcases Nat.lt_or_ge line first with hlt | hge
  · have hlater : ∀ site ∈ later, line < site.line := fun site hs =>
      Nat.lt_of_lt_of_le hlt (le_of_mem_sites (hsub.subset hs))
    have hnone : s.newLine f.text [] (0 + line) = (s.front f.text [] 0).count '\n' + line :=
      newLine_behind ht (by simp) (by omega)
    rw [if_pos hlt, judged, hacc, newLine_append hlater]
    have hfront : s.front f.text [] 0 = [] := rfl
    rw [Nat.zero_add, hfront, List.count_nil, Nat.zero_add] at hnone
    exact hnone.symm
  · rw [if_neg (Nat.not_lt.mpr hge), Nat.add_sub_cancel' hge]

end Substitution
end ExEditor
