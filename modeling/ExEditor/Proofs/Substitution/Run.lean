import ExEditor.Proofs.Frame.InsideLines
import ExEditor.Proofs.Substitution.Accepted

/-! The loop of a substitution does what its matches are judged to, and takes the marks of lines along. -/
namespace ExEditor
namespace Substitution

/-- The groups of a match that was cut off in front are those of the whole line. -/
theorem groupText_drop {m : Match} {body : Text} {first last : Nat} (h : m.Within first last) :
    m.groupText (body.drop m.start) = captured body m := by
  funext index
  rw [Match.groupText, captured]
  cases hg : m.group? index with
  | none => rfl
  | some span =>
    obtain ⟨i, j⟩ := span
    have hi : m.start ≤ i := h.group_ge hg
    simp only [Text.slice, List.drop_drop, List.drop_take]
    rw [Nat.add_sub_cancel' hi]

section line
variable {s : Substitution} {t : Text} {n : Nat}

/-- The question about a match, if there is one, is asked as for its site. -/
theorem answer_eq {accepted : List Site} {w : LineDraft} {m : Match} {first : Nat}
    (ht : w.frame.text = s.draft t accepted n) (hm : m.Within first (t.line n).length) :
    ∃ selection,
      s.answer w (s.front t accepted n).length m (s.expansion (t.line n) m) =
        let r := if s.flags.confirm then s.ask t accepted ⟨n, m⟩ w.host else (.yes, w.host)
        (r.1, { w with frame := { w.frame with selection }, host := r.2 }) := by
  unfold answer
  by_cases hc : s.flags.confirm
  · have hlength : (s.front t accepted n).length + (t.line n).length ≤ w.frame.length := by
      have h := congrArg List.length (Text.lineBody_append (t.fromLine n))
      rw [List.length_append] at h
      rw [Frame.length, ht, draft, List.length_append, Text.line]
      omega
    have h1 := hm.start_le
    have h2 := hm.stop_le
    have hsel : (w.frame.select ⟨(s.front t accepted n).length + m.start,
        (s.front t accepted n).length + m.stop, .stream⟩).selection =
          s.selected t accepted ⟨n, m⟩ := by
      simp only [Frame.select, selected, Frame.clamp]
      rw [Nat.min_eq_left (by omega), Nat.min_eq_left (by omega)]
    refine ⟨s.selected t accepted ⟨n, m⟩, ?_⟩
    simp only [hc, ↓reduceIte, hsel]
    simp only [Frame.select] at hsel ⊢
    rw [hsel, ask, ht]
  · exact ⟨w.frame.selection, by simp [hc]⟩

/-- What becomes of a line, and of the frame and the host while it is worked on. -/
theorem takeMatches_eq {ms : List Match} {offset : Nat} {accepted : List Site} {w : LineDraft}
    (hms : Match.InOrder (t.line n).length offset ms) (ht : w.frame.text = s.draft t accepted n)
    (hw : w.stopped = false) :
    ∃ picked selection, picked.Sublist ms ∧
      (s.judge t (Site.ofLine n ms) accepted w.host).accepted = accepted ++ Site.ofLine n picked ∧
      s.takeMatches (s.front t accepted n).length ms offset ((t.line n).drop offset) w =
        (s.spliced (t.line n) offset picked,
          { frame := { w.frame with selection }
            host := (s.judge t (Site.ofLine n ms) accepted w.host).host
            applied := w.applied + picked.length
            stopped := (s.judge t (Site.ofLine n ms) accepted w.host).stopped }) := by
  induction ms generalizing offset accepted w with
  | nil =>
    refine ⟨[], w.frame.selection, by simp, by simp [Site.ofLine, judge], ?_⟩
    simp [takeMatches, Site.ofLine, judge, spliced, ← hw]
  | cons m others ih =>
    obtain ⟨hm, hothers⟩ := hms
    cases hl : w.host.look with
    | mk cancelled host =>
    cases cancelled with
    | true =>
      refine ⟨[], w.frame.selection, by simp, by simp [Site.ofLine, judge, hl], ?_⟩
      simp [takeMatches, Site.ofLine, judge, spliced, hl]
    | false =>
      have hdrop : ((t.line n).drop offset).drop (m.start - offset) = (t.line n).drop m.start := by
        rw [List.drop_drop, Nat.add_sub_cancel' hm.first_le]
      obtain ⟨selection, ha⟩ := answer_eq (s := s) (w := { w with host }) ht hm
      cases hr : (if s.flags.confirm then s.ask t accepted ⟨n, m⟩ host else (.yes, host)) with
      | mk given host' =>
      simp only [hr] at ha
      rw [takeMatches, hl]
      simp only [Bool.false_eq_true, ↓reduceIte, hdrop, groupText_drop hm]
      rw [show expandReplacement (captured (t.line n) m) .asIs s.replacement =
        s.expansion (t.line n) m from rfl, ha]
      simp only [Site.ofLine, List.map_cons, judge, hl, hr]
      cases given with
      | cancel => exact ⟨[], selection, by simp, by simp, by simp [spliced]⟩
      | no =>
        have hskip : Match.InOrder (t.line n).length offset others :=
          hothers.mono (Nat.le_trans hm.first_le hm.start_le)
        obtain ⟨picked, selection', hp, hacc, htake⟩ :=
          @ih _ accepted { w with frame := { w.frame with selection }, host := host' } hskip ht hw
        exact ⟨picked, selection', hp.cons m, hacc, htake⟩
      | yes =>
        have hd : s.draft t (accepted ++ [⟨n, m⟩]) n = s.draft t accepted n :=
          draft_append s t (by simp)
        have hdraft : w.frame.text = s.draft t (accepted ++ [⟨n, m⟩]) n := ht.trans hd.symm
        have hf : s.front t (accepted ++ [⟨n, m⟩]) n = s.front t accepted n :=
          front_append s t (by simp)
        obtain ⟨picked, selection', hp, hacc, htake⟩ :=
          @ih _ (accepted ++ [Site.mk n m])
            { w with
              frame := { w.frame with selection }
              host := host'
              applied := w.applied + 1 } hothers hdraft hw
        refine ⟨m :: picked, selection', hp.cons_cons m, by simpa [Site.ofLine] using hacc, ?_⟩
        have hrest : ((t.line n).drop m.start).drop (m.stop - m.start) = (t.line n).drop m.stop := by
          rw [List.drop_drop, Nat.add_sub_cancel' hm.start_le]
        rw [hf] at htake
        simp only [hrest, htake, spliced, Text.slice, List.drop_take, List.length_cons]
        rw [Nat.add_assoc, Nat.add_comm 1]
        rfl

end line

theorem spliced_no_return {s : Substitution} {body : Text} {ms : List Match} {offset : Nat}
    (hb : '\r' ∉ body) (hms : ∀ m ∈ ms, '\r' ∉ s.expansion body m) :
    '\r' ∉ s.spliced body offset ms := by
  induction ms generalizing offset with
  | nil => exact fun h => hb (List.mem_of_mem_drop h)
  | cons m others ih =>
    simp only [List.mem_cons, forall_eq_or_imp] at hms
    simp only [spliced, List.mem_append, not_or]
    exact ⟨fun h => hb (List.mem_of_mem_take (List.mem_of_mem_drop h)), hms.1, ih hms.2⟩

/-- Where the loop stands before a line of the original text: the lines in front are rewritten, they
are as many as the loop has counted, and the mark is where the last line will end. -/
structure Working (s : Substitution) (t : Text) (last n : Nat) (accepted : List Site) (line : Nat)
    (p : Progress) : Prop where
  le_last : n ≤ last
  before : ∀ site ∈ accepted, site.line < n
  text_eq : p.frame.text = s.draft t accepted n
  count_eq : p.count = accepted.length
  rows : ∃ rows : List Text,
    s.front t accepted n = rows.flatten ∧ (∀ r ∈ rows, r.IsRow) ∧ rows.length = line
  mark_eq : p.frame.mark? .rangeEnd =
    some ((s.front t accepted n).length + (t.lineEnd last - t.lineStart n))

section loop
variable {s : Substitution} {t : Text} {last n line : Nat} {accepted : List Site} {p : Progress}

theorem Working.segments_eq (h : s.Working t last n accepted line p) :
    ∃ rows : List Text, rows.length = line ∧ rows.flatten = s.front t accepted n ∧
      p.frame.text.segments = rows ++ (t.fromLine n).segments := by
  obtain ⟨rows, hf, hr, hl⟩ := h.rows
  refine ⟨rows, hl, hf.symm, ?_⟩
  rw [h.text_eq, draft, hf, Text.segments_rows hr]

theorem Working.lineStart_eq (h : s.Working t last n accepted line p) :
    p.frame.lineStart line = (s.front t accepted n).length := by
  obtain ⟨rows, rfl, hf, hs⟩ := h.segments_eq
  rw [Frame.lineStart, Text.lineStart_eq, hs, List.take_left, hf]

theorem Working.line_eq (h : s.Working t last n accepted line p) : p.frame.line line = t.line n := by
  obtain ⟨rows, rfl, hf, hs⟩ := h.segments_eq
  rw [Frame.line, Text.line, Text.fromLine_eq, hs, List.drop_left, Text.segments_flatten, Text.line]

theorem Working.line_le_count (h : s.Working t last n accepted line p) : line ≤ p.frame.text.count '\n' := by
  obtain ⟨rows, hf, hr, rfl⟩ := h.rows
  rw [h.text_eq, draft, hf, List.count_append, Text.count_feed_rows hr]
  exact Nat.le_add_right _ _

theorem Working.paired (h : s.Working t last n accepted line p) (ht : t.returnsPaired) :
    p.frame.text.returnsPaired := by
  obtain ⟨rows, hf, hr, -⟩ := h.rows
  rw [h.text_eq, draft, hf]
  exact Text.returnsPaired_append (Text.returnsPaired_flatten hr) (Text.returnsPaired_fromLine ht n)

/-- The loop goes on to the line. -/
theorem Working.line_le (h : s.Working t last n accepted line p) {stop : Nat}
    (hs : p.frame.mark? .rangeEnd = some stop) : line ≤ p.frame.lineAt stop := by
  obtain ⟨rows, hf, hr, rfl⟩ := h.rows
  rw [h.mark_eq, Option.some.injEq] at hs
  rw [Frame.lineAt, Frame.clamp, Frame.length, h.text_eq, draft, List.length_append, ← hs,
    Nat.add_min_add_left, hf, Text.lineAt_rows hr]
  omega

/-- The sites of a line. -/
def lineSites (s : Substitution) (m : Matcher) (t : Text) (n : Nat) : List Site :=
  Site.ofLine n (s.consideredMatches m (t.line n))

theorem consideredMatches_inOrder (s : Substitution) (m : Matcher) (body : Text) :
    Match.InOrder body.length 0 (s.consideredMatches m body) := by
  unfold consideredMatches
  split
  · exact m.findAll_inOrder body
  · exact m.find_inOrder body

/-- One line of the loop: its text is put in place with the accepted matches replaced, and the mark
moves with what follows it. -/
theorem Working.workOnLine (h : s.Working t last n accepted line p) (m : Matcher) (k : Nat) :
    ∃ picked p', picked.Sublist (s.consideredMatches m (t.line n)) ∧
      (s.judge t (s.lineSites m t n) accepted p.host).accepted = accepted ++ Site.ofLine n picked ∧
      p'.frame.text = s.front t accepted n ++
        (s.spliced (t.line n) 0 picked ++ (t.fromLine n).drop (t.line n).length) ∧
      p'.frame.mark? .rangeEnd = some ((s.front t accepted n).length +
        (t.lineEnd last - t.lineStart n) - (t.line n).length + (s.spliced (t.line n) 0 picked).length) ∧
      p'.count = accepted.length + picked.length ∧
      p'.host = (s.judge t (s.lineSites m t n) accepted p.host).host ∧
      (t.returnsPaired → Frame.Carries Text.On p.frame p'.frame
        (.fuse line 0 ((s.spliced (t.line n) 0 picked).count '\n'))) ∧
      s.workOnLines m (k + 1) line p =
        if (s.judge t (s.lineSites m t n) accepted p.host).stopped then p'
        else s.workOnLines m k (line + 1 + (s.spliced (t.line n) 0 picked).count '\n') p' := by
  obtain ⟨picked, selection, hsub, hacc, htake⟩ := takeMatches_eq (s := s) (t := t) (n := n)
    (w := { frame := p.frame, host := p.host }) (s.consideredMatches_inOrder m (t.line n)) h.text_eq rfl
  have hle := h.line_le h.mark_eq
  have hbody : (t.line n).length ≤ t.lineEnd last - t.lineStart n := by
    have hend := t.lineEnd_mono h.le_last
    rw [Text.lineEnd] at hend
    omega
  have hsplit := t.line_append n
  have hcount : (t.line n).count '\n' = 0 := Text.count_feed_plain (Text.isPlain_lineBody _)
  rw [List.drop_zero] at htake
  have hunfold := workOnLines.eq_2 s m line p k
  simp only [h.mark_eq, h.line_eq, h.lineStart_eq, htake, if_neg (Nat.not_lt.mpr hle), Nat.zero_add]
    at hunfold
  by_cases hp : picked = []
  · subst hp
    refine ⟨[], { p with
      frame := { p.frame with selection }
      host := (s.judge t (s.lineSites m t n) accepted p.host).host }, hsub, hacc, ?_, ?_, ?_, rfl, ?_, ?_⟩
    · rw [spliced, List.drop_zero, hsplit]
      exact h.text_eq
    · rw [spliced, List.drop_zero, Nat.sub_add_cancel (by omega)]
      exact h.mark_eq
    · exact h.count_eq
    · intro _
      rw [spliced, List.drop_zero, hcount, LineMove.fuse_zero]
      exact (Frame.Carries.refl _ p.frame).congr rfl (fun _ => rfl) rfl
    · rw [spliced, List.drop_zero, hcount]
      exact hunfold
  · have hlen : picked.length ≠ 0 := by simpa using hp
    let f : Frame := { p.frame with selection }
    have ht : f.text = s.front t accepted n ++ t.fromLine n := h.text_eq
    have hle : (s.front t accepted n).length + (t.line n).length ≤ f.length := by
      have hl := congrArg List.length hsplit
      rw [List.length_append] at hl
      rw [Frame.length, ht, List.length_append]
      omega
    refine ⟨picked,
      { frame := f.replace (s.front t accepted n).length
          ((s.front t accepted n).length + (t.line n).length) (s.spliced (t.line n) 0 picked)
        host := (s.judge t (s.lineSites m t n) accepted p.host).host
        count := p.count + picked.length
        lastChanged := some line }, hsub, hacc, ?_, ?_, ?_, rfl, ?_, ?_⟩
    · rw [Frame.replace_text f (Nat.le_add_right _ _) hle, ht, List.take_left,
        List.drop_length_add_append]
    · rw [Frame.mark?_replace (f := f) h.mark_eq (Nat.le_add_right _ _) (by omega) hle]
      congr 2
      omega
    · rw [h.count_eq]
    · intro hpaired
      have hstart : f.lineStart line = (s.front t accepted n).length := h.lineStart_eq
      have hline : f.line line = t.line n := h.line_eq
      have hslice : f.text.slice (f.lineStart line) (f.lineStart line + (f.line line).length) =
          (f.line line).take (f.line line).length := f.text.slice_line line (Nat.le_refl _)
      rw [hline, List.take_length] at hslice
      have hcarries := Frame.carries_replace (f := f) (h.paired hpaired) h.line_le_count (Nat.le_add_right _ _)
        (hstart ▸ hle) (s.spliced (t.line n) 0 picked)
      rw [hslice, hcount, hstart] at hcarries
      exact ⟨hcarries.streaming, fun k line hk => hcarries.tracks k line hk⟩
    · simp only [if_neg hlen] at hunfold
      exact hunfold

/-- What stands in front of the next line. -/
theorem front_next (hn : n < t.segments.length) (hb : ∀ site ∈ accepted, site.line < n)
    (picked : List Match) :
    s.front t (accepted ++ Site.ofLine n picked) (n + 1) = s.front t accepted n ++
      (s.spliced (t.line n) 0 picked ++ t.segments[n].drop (t.line n).length) := by
  have hlater : ∀ site ∈ Site.ofLine n picked, n ≤ site.line := fun site hs =>
    Nat.le_of_eq (Site.line_of_mem_ofLine hs).symm
  have hon : Site.onLine (accepted ++ Site.ofLine n picked) n = picked := by
    rw [Site.onLine_append, Site.onLine_ofLine,
      Site.onLine_eq_nil fun site hs => Nat.ne_of_lt (hb site hs), List.nil_append]
  rw [front_succ s t _ hn, front_append s t hlater, hon, splicedRow, ← Text.line_getElem t hn]

theorem spliced_no_return_line {m : Matcher} {picked : List Match}
    (hx : ∀ site ∈ s.lineSites m t n, '\r' ∉ s.expansion (t.line n) site.found)
    (hp : picked.Sublist (s.consideredMatches m (t.line n))) :
    '\r' ∉ s.spliced (t.line n) 0 picked := by
  have hplain : '\r' ∉ t.line n := fun h => by
    simpa [Text.isBreak] using Text.isPlain_lineBody _ _ h
  exact spliced_no_return hplain fun found hf =>
    hx ⟨n, found⟩ (List.mem_map_of_mem (hp.subset hf))

/-- A line of the loop takes it to the next, or past the mark if it was the last. -/
theorem Working.step (ht : t.returnsPaired) (hl : last < t.segments.length)
    (h : s.Working t last n accepted line p) (m : Matcher)
    (hx : ∀ site ∈ s.lineSites m t n, '\r' ∉ s.expansion (t.line n) site.found) (k : Nat) :
    ∃ line' p', p'.frame.text =
        s.rewritten t (s.judge t (s.lineSites m t n) accepted p.host).accepted ∧
      p'.count = (s.judge t (s.lineSites m t n) accepted p.host).accepted.length ∧
      p'.host = (s.judge t (s.lineSites m t n) accepted p.host).host ∧
      (n < last → s.Working t last (n + 1)
        (s.judge t (s.lineSites m t n) accepted p.host).accepted line' p') ∧
      (n = last → ∃ stop, p'.frame.mark? .rangeEnd = some stop ∧ p'.frame.lineAt stop < line') ∧
      (∃ picked, (s.judge t (s.lineSites m t n) accepted p.host).accepted = accepted ++ Site.ofLine n picked ∧
        line' = line + 1 + (s.spliced (t.line n) 0 picked).count '\n' ∧
        Frame.Carries Text.On p.frame p'.frame
          (.fuse line 0 ((s.spliced (t.line n) 0 picked).count '\n'))) ∧
      s.workOnLines m (k + 1) line p =
        if (s.judge t (s.lineSites m t n) accepted p.host).stopped then p'
        else s.workOnLines m k line' p' := by
  obtain ⟨picked, p', hsub, hacc, htext, hmark, hcount, hhost, hcarries, hrun⟩ := h.workOnLine m k
  have hn : n < t.segments.length := Nat.lt_of_le_of_lt h.le_last hl
  have hnext := front_next (s := s) hn h.before picked
  have hpaired := Text.returnsPaired_of_not_mem (spliced_no_return_line hx hsub)
  have hbefore : ∀ site ∈ accepted ++ Site.ofLine n picked, site.line < n + 1 := by
    intro site hs
    rcases List.mem_append.mp hs with hs | hs
    · exact Nat.lt_succ_of_lt (h.before site hs)
    · rw [Site.line_of_mem_ofLine hs]
      exact Nat.lt_succ_self n
  have hdrop : (t.fromLine n).drop (t.line n).length =
      t.segments[n].drop (t.line n).length ++ t.fromLine (n + 1) := by
    have hle : (t.line n).length ≤ t.segments[n].length := by
      rw [Text.line_getElem t hn]
      exact (List.takeWhile_prefix _).length_le
    rw [Text.fromLine_succ t hn, List.drop_append_of_le_length hle]
  have hdraft : p'.frame.text = s.draft t (accepted ++ Site.ofLine n picked) (n + 1) := by
    rw [htext, draft, hnext, hdrop]
    simp only [List.append_assoc]
  refine ⟨line + 1 + (s.spliced (t.line n) 0 picked).count '\n', p', ?text, ?count, hhost, ?next,
    ?done, ⟨picked, hacc, rfl, hcarries ht⟩, hrun⟩
  case text => rw [hacc, rewritten_eq_draft s t hbefore, hdraft]
  case count => rw [hcount, hacc, List.length_append, Site.ofLine, List.length_map]
  case next =>
    intro hlast
    have hrow := Text.isRow_segment ht (n := n) (by omega)
    have hbreak := hrow.drop_lineBody
    rw [← Text.line_getElem t hn] at hbreak
    obtain ⟨front, hf, hfr, rfl⟩ := h.rows
    obtain ⟨rows, hr, hrr, hlen⟩ := Text.exists_rows_completed hpaired hbreak
    have hrows : ∀ r ∈ front ++ rows, r.IsRow := by
      simpa only [List.mem_append, or_imp, forall_and] using ⟨hfr, hrr⟩
    have hsegment := congrArg List.length (Text.lineBody_append t.segments[n])
    have hend : t.lineStart (n + 1) ≤ t.lineEnd last :=
      Nat.le_trans (t.lineStart_mono hlast) (Nat.le_add_right _ _)
    have hstart := t.lineStart_succ hn
    rw [← Text.line_getElem t hn, List.length_append] at hsegment
    rw [hacc]
    refine ⟨hlast, hbefore, hdraft, by rw [hcount, List.length_append, Site.ofLine, List.length_map],
      ⟨front ++ rows, ?_, hrows, ?_⟩, ?_⟩
    · rw [hnext, hf, hr, List.flatten_append]
    · rw [List.length_append, hlen]
      omega
    · rw [hmark, hnext, Option.some.injEq]
      simp only [List.length_append]
      omega
  case done =>
    rintro rfl
    obtain ⟨front, hf, hfr, rfl⟩ := h.rows
    have hend : t.lineEnd n - t.lineStart n = (t.line n).length := Nat.add_sub_cancel_left _ _
    refine ⟨_, hmark, ?_⟩
    rw [hend, Nat.add_sub_cancel, Frame.lineAt, Frame.clamp, Nat.min_eq_left, htext, hf,
      Text.lineAt_rows hfr, Text.lineAt_end hpaired]
    · omega
    · rw [Frame.length, htext]
      simp only [List.length_append]
      omega

/-- Past the mark the loop ends. -/
theorem workOnLines_done {stop : Nat} (m : Matcher) (k : Nat)
    (hs : p.frame.mark? .rangeEnd = some stop) (h : p.frame.lineAt stop < line) :
    s.workOnLines m k line p = p := by
  cases k with
  | zero => rfl
  | succ k => simp only [workOnLines, hs, h, ↓reduceIte]

theorem sites_succ (s : Substitution) (m : Matcher) (t : Text) (h : n ≤ last) :
    s.sites m t n last = s.lineSites m t n ++ s.sites m t (n + 1) last := by
  have hr : Frame.lineRange n last = n :: Frame.lineRange (n + 1) last := by
    rw [Frame.lineRange, Nat.succ_sub h, List.range'_succ, Frame.lineRange, Nat.add_sub_add_right]
  rw [sites, hr, List.flatMap_cons, sites, lineSites]

/-- The loop rewrites the matches that are accepted of those that are considered, and counts them. -/
theorem workOnLines_judge (ht : t.returnsPaired) (hl : last < t.segments.length) (m : Matcher)
    (h : s.Working t last n accepted line p) {fuel : Nat} (hf : last < n + fuel)
    (hx : ∀ site ∈ s.sites m t n last, '\r' ∉ s.expansion (t.line site.line) site.found) :
    (s.workOnLines m fuel line p).frame.text =
        s.rewritten t (s.judge t (s.sites m t n last) accepted p.host).accepted ∧
      (s.workOnLines m fuel line p).count =
        (s.judge t (s.sites m t n last) accepted p.host).accepted.length ∧
      (s.workOnLines m fuel line p).host = (s.judge t (s.sites m t n last) accepted p.host).host := by
  induction fuel generalizing n line accepted p with
  | zero =>
    have hn := h.le_last
    omega
  | succ k ih =>
    rw [sites_succ s m t h.le_last] at hx ⊢
    have hline : ∀ site ∈ s.lineSites m t n, '\r' ∉ s.expansion (t.line n) site.found := by
      intro site hs
      have hsite := hx site (List.mem_append_left _ hs)
      rwa [Site.line_of_mem_ofLine hs] at hsite
    obtain ⟨line', p', htext, hcount, hhost, hnext, hdone, -, hrun⟩ := h.step ht hl m hline k
    rw [hrun, judge_append]
    split
    · exact ⟨htext, hcount, hhost⟩
    · rcases Nat.lt_or_eq_of_le h.le_last with hlt | rfl
      · have hrest := ih (hnext hlt) (by omega) fun site hs => hx site (List.mem_append_right _ hs)
        rwa [hhost] at hrest
      · obtain ⟨stop, hstop, hlt⟩ := hdone rfl
        have hnone : s.sites m t (n + 1) n = [] := by simp [sites, Frame.lineRange]
        rw [workOnLines_done m k hstop hlt, hnone, judge]
        exact ⟨htext, hcount, hhost⟩

end loop

/-- A text has no more lines than a loop is allowed. -/
theorem segments_le_lineBound (f : Frame) : f.text.segments.length ≤ lineBound f := by
  have h := f.text.breakCount_le
  rw [Text.segments_length, lineBound, Frame.length, Text.wordCount]
  omega

/-- The lines in front of the first one are rows, so the loop can begin. -/
theorem working_first (s : Substitution) {f : Frame} (ht : f.text.returnsPaired) {first last : Nat}
    (hf : first ≤ last) (hl : last < f.text.segments.length) (h : Host) :
    s.Working f.text last first [] first
      { frame := (markLines f first last).openGroup, host := h } := by
  have hrows : ∀ r ∈ f.text.segments.take first, r.IsRow := by
    intro r hr
    obtain ⟨k, hk, rfl⟩ := List.mem_take_iff_getElem.mp hr
    exact Text.isRow_segment ht (by omega)
  have hfront := front_nil s f.text first
  refine ⟨hf, by simp, ?_, rfl, ⟨_, by rw [hfront, Text.take_lineStart], hrows, by simp; omega⟩, ?_⟩
  · rw [Frame.openGroup_text]
    change f.text = _
    rw [draft, hfront, Text.take_lineStart, Text.fromLine_eq, Text.segments_take_drop]
  · have hmono := f.text.lineEnd_mono hf
    have hstart : f.text.lineStart first ≤ f.text.lineEnd first := Nat.le_add_right _ _
    have hend := f.text.lineEnd_le last
    have hmark : (markLines f first last).openGroup.mark? .rangeEnd = some (f.text.lineEnd last) := by
      rw [Frame.openGroup_mark?, markLines, Frame.mark?, Frame.setMark, Marks.get?_set_self]
      exact congrArg some (Nat.min_eq_left hend)
    rw [hmark, hfront, List.length_take, Option.some.injEq]
    omega

@[simp] theorem finish_text (p : Progress) : p.finish.frame.text = p.frame.text := by
  unfold Progress.finish
  dsimp only
  split <;> rfl

@[simp] theorem finish_count (p : Progress) : p.finish.count = p.count := rfl
@[simp] theorem finish_host (p : Progress) : p.finish.host = p.host := rfl

/-- A substitution in lines of a text. -/
theorem run_judged (s : Substitution) (m : Matcher) {f : Frame} (ht : f.text.returnsPaired)
    {first last : Nat} (hf : first ≤ last) (hl : last < f.text.segments.length) (h : Host)
    (hx : ∀ site ∈ s.sites m f.text first last, '\r' ∉ s.expansion (f.text.line site.line) site.found) :
    (s.run m first last f h).frame.text =
        s.rewritten f.text (s.judged m f.text first last h).accepted ∧
      (s.run m first last f h).count = (s.judged m f.text first last h).accepted.length ∧
      (s.run m first last f h).host = (s.judged m f.text first last h).host := by
  have hb := segments_le_lineBound f
  have hfuel : last < first + lineBound f := by omega
  rw [run, finish_text, finish_count, finish_host]
  exact workOnLines_judge ht hl m (working_first s ht hf hl h) hfuel hx

/-- A match that is considered lies in its line. -/
theorem within_of_mem_sites {s : Substitution} {m : Matcher} {t : Text} {first last : Nat} {site : Site}
    (h : site ∈ s.sites m t first last) : site.found.Within 0 (t.line site.line).length := by
  obtain ⟨n, -, hs⟩ := List.mem_flatMap.mp h
  obtain ⟨found, hf, rfl⟩ := List.mem_map.mp hs
  exact (s.consideredMatches_inOrder m (t.line n)).within found hf

end Substitution
end ExEditor
