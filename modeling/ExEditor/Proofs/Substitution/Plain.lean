import ExEditor.Proofs.Frame.UserMarks
import ExEditor.Substitution.Run

/-! Substitutions with a replacement that has no line breaks. What takes the place of a match has none either, so that
all lines stay, and the marks of the user on them. -/
namespace ExEditor

namespace Unicode
open Text

theorem isBreak_ofNat {n : Nat} (h : 13 < n) : isBreak (Char.ofNat n) = false := by
  have hval : (Char.ofNat n).toNat = n ∨ (Char.ofNat n).toNat = 0 := by
    rcases Decidable.em n.isValidChar with hv | hv
    · exact .inl (congrArg Char.toNat (dif_pos hv))
    · exact .inr (congrArg Char.toNat (dif_neg hv))
  have hfeed : '\n'.toNat = 10 := rfl
  have hreturn : '\r'.toNat = 13 := rfl
  rw [isBreak, Bool.or_eq_false_iff, decide_eq_false_iff_not, decide_eq_false_iff_not]
  constructor <;> intro hc <;> rw [hc] at hval <;> omega

/-- A table of shifts that lead to no line break. -/
theorem isBreak_apply {table : List Shift} (h : ∀ s ∈ table, 13 < (s.first : Int) + s.shift) {c : Char}
    (hc : isBreak c = false) : isBreak (Char.ofNat (Shift.apply table c.toNat)) = false := by
  unfold Shift.apply
  split
  · next s hs =>
    have hshift := h s (List.mem_of_find?_eq_some hs)
    have hrange := List.find?_some hs
    simp only [Bool.and_eq_true, decide_eq_true_eq] at hrange
    exact isBreak_ofNat (by omega)
  · rwa [Char.ofNat_toNat]

theorem isBreak_toUpper {c d : Char} (hc : isBreak c = false) (hd : d ∈ toUpper c) : isBreak d = false := by
  unfold toUpper at hd
  split at hd
  · next ns hns =>
    obtain ⟨n, hn, rfl⟩ := List.mem_map.mp hd
    have hall : ∀ entry ∈ upperSequences, ∀ n ∈ entry.2, 13 < n := by decide +kernel
    obtain ⟨front, back, hsplit, -⟩ := List.lookup_eq_some_iff.mp hns
    exact isBreak_ofNat (hall (c.toNat, ns) (by simp [hsplit]) n hn)
  · rw [List.mem_singleton.mp hd]
    exact isBreak_apply (by decide +kernel) hc

theorem isBreak_toLower {c d : Char} (hc : isBreak c = false) (hd : d ∈ toLower c) : isBreak d = false := by
  unfold toLower at hd
  split at hd
  · next ns hns =>
    obtain ⟨n, hn, rfl⟩ := List.mem_map.mp hd
    have hall : ∀ entry ∈ lowerSequences, ∀ n ∈ entry.2, 13 < n := by decide +kernel
    obtain ⟨front, back, hsplit, -⟩ := List.lookup_eq_some_iff.mp hns
    exact isBreak_ofNat (hall (c.toNat, ns) (by simp [hsplit]) n hn)
  · rw [List.mem_singleton.mp hd]
    exact isBreak_apply (by decide +kernel) hc

end Unicode

open Text

/-- A change of case makes no line break. -/
theorem CaseMode.isPlain_apply {t : Text} (ht : t.IsPlain) (mode : CaseMode) : (mode.apply t).IsPlain := by
  intro d hd
  cases mode with
  | asIs => exact ht d hd
  | upper =>
    obtain ⟨c, hc, hd⟩ := List.mem_flatMap.mp hd
    exact Unicode.isBreak_toUpper (ht c hc) hd
  | lower =>
    obtain ⟨c, hc, hd⟩ := List.mem_flatMap.mp hd
    exact Unicode.isBreak_toLower (ht c hc) hd

theorem isPlain_expandReplacement {group : Nat → Text} (hg : ∀ n, (group n).IsPlain) (mode : CaseMode) {t : Text}
    (ht : t.IsPlain) : (expandReplacement group mode t).IsPlain := by
  have hone : ∀ {c : Char} {t : Text}, IsPlain (c :: t) → IsPlain [c] ∧ t.IsPlain := fun h => by
    simpa [IsPlain] using h
  fun_induction expandReplacement group mode t with
  | case1 => exact ht
  | case2 => exact ht
  | case3 mode c t hc ih => exact (CaseMode.isPlain_apply (hg _) mode).append (ih (hone (hone ht).2).2)
  | case4 mode t hc ih => exact ih (hone (hone ht).2).2
  | case5 mode t hc hc' ih => exact ih (hone (hone ht).2).2
  | case6 mode c t hc hc' hc'' hc''' ih => exact ih (hone (hone ht).2).2
  | case7 mode c t hc hc' hc'' hc''' ih =>
    obtain ⟨hc, ht⟩ := hone (hone ht).2
    exact (CaseMode.isPlain_apply hc mode).append (ih ht)
  | case8 mode c t _ _ ih =>
    obtain ⟨hc, ht⟩ := hone ht
    refine IsPlain.append ?_ (ih ht)
    split
    · exact CaseMode.isPlain_apply (hg _) mode
    · exact CaseMode.isPlain_apply hc mode

namespace Substitution

theorem isPlain_groupText {t : Text} (ht : t.IsPlain) (m : Match) (n : Nat) : (m.groupText t n).IsPlain := by
  unfold Match.groupText
  split
  · exact fun c hc => ht c (List.mem_of_mem_drop (List.mem_of_mem_take hc))
  · exact isPlain_nil

theorem answer_frame (s : Substitution) (w : LineDraft) (start : Nat) (m : Match) (replacement : Text) :
    ∃ selection, (s.answer w start m replacement).2.frame = { w.frame with selection } := by
  unfold answer
  split
  · exact ⟨_, rfl⟩
  · exact ⟨_, rfl⟩

/-- Going through the matches of a line makes no line breaks, and leaves all of the frame but the selection. -/
theorem takeMatches_plain {s : Substitution} (hs : s.replacement.IsPlain) (start : Nat) (ms : List Match) (offset : Nat)
    {rest : Text} (hr : rest.IsPlain) (w : LineDraft) :
    (s.takeMatches start ms offset rest w).1.IsPlain ∧
      ∃ selection, (s.takeMatches start ms offset rest w).2.frame = { w.frame with selection } := by
  induction ms generalizing offset rest w with
  | nil => exact ⟨hr, w.frame.selection, rfl⟩
  | cons m others ih =>
    rcases hl : w.host.look with ⟨cancelled, host⟩
    simp only [takeMatches, hl]
    cases cancelled with
    | true => exact ⟨hr, w.frame.selection, rfl⟩
    | false =>
      have hmatched : IsPlain (rest.drop (m.start - offset)) := fun c hc => hr c (List.mem_of_mem_drop hc)
      have hreplacement := isPlain_expandReplacement (isPlain_groupText hmatched m) .asIs hs
      generalize expandReplacement (m.groupText (rest.drop (m.start - offset))) .asIs s.replacement = replacement
        at hreplacement
      obtain ⟨selection, hframe⟩ := answer_frame s { w with host } start m replacement
      simp only [Bool.false_eq_true, ↓reduceIte]
      rcases ha : s.answer { w with host } start m replacement with ⟨given, frame, host', applied, stopped⟩
      rw [ha] at hframe
      obtain rfl : frame = { w.frame with selection } := hframe
      cases given with
      | cancel => exact ⟨hr, selection, rfl⟩
      | no => exact ih offset hr _
      | yes =>
        obtain ⟨hplain, hleft⟩ := @ih m.stop ((rest.drop (m.start - offset)).drop (m.stop - m.start))
          (fun c hc => hmatched c (List.mem_of_mem_drop hc))
          { frame := { w.frame with selection }, host := host', applied := applied + 1, stopped }
        exact ⟨IsPlain.append (fun c hc => hr c (List.mem_of_mem_take hc)) (hreplacement.append hplain), hleft⟩

/-- The lines that are worked on all stay. -/
theorem inside_workOnLines {s : Substitution} (hs : s.replacement.IsPlain) (m : Matcher) (n line : Nat) {p : Progress}
    (hp : p.frame.text.returnsPaired) : Frame.Inside p.frame (s.workOnLines m n line p).frame := by
  induction n generalizing line p with
  | zero => exact .refl hp
  | succ n ih =>
    unfold workOnLines
    split
    · exact .refl hp
    split
    · exact .refl hp
    next stop _ hline =>
    extract_lets text start
    have hbody : text.IsPlain := Text.isPlain_lineBody _
    have htake := takeMatches_plain hs start (s.consideredMatches m text) 0 hbody
      { frame := p.frame, host := p.host }
    rcases ht : s.takeMatches start (s.consideredMatches m text) 0 text { frame := p.frame, host := p.host } with
      ⟨rebuilt, w⟩
    rw [ht] at htake
    obtain ⟨hplain, selection, hframe⟩ := htake
    dsimp -zeta only at hplain hframe ⊢
    extract_lets p'
    have hselected : Frame.Inside p.frame w.frame := by
      rw [hframe]
      exact (Frame.Inside.refl hp).congr rfl fun _ => rfl
    have hinside : Frame.Inside p.frame p'.frame := by
      unfold p'
      split
      · exact hselected
      · have hin : line ≤ w.frame.text.breakCount := by
          rw [hframe]
          exact Nat.le_trans (Nat.le_of_not_lt hline) (Text.lineAt_le _ _)
        have hreplaced := Frame.inside_replace hselected.paired hin (Nat.le_refl _) hplain
        have hstart : w.frame.lineStart line = start := by rw [hframe]; rfl
        have htext : w.frame.line line = text := by rw [hframe]; rfl
        rw [hstart, htext] at hreplaced
        exact hselected.trans hreplaced
    split
    · exact hinside
    · exact hinside.trans (ih _ hinside.paired)

/-- A substitution whose replacement has no line breaks keeps all lines. -/
theorem inside_run {s : Substitution} (hs : s.replacement.IsPlain) (m : Matcher) (first last : Nat) {f : Frame}
    (hp : f.text.returnsPaired) (h : Host) : Frame.Inside f (s.run m first last f h).frame := by
  have hmarked : Frame.Inside f (markLines f first last).openGroup := by
    refine (Frame.Inside.refl hp).congr (Frame.openGroup_text _) fun name => ?_
    rw [Frame.offsets_openGroup, markLines, Frame.offsets_setMark_ne _ (by simp), Frame.offsets_setMark_ne _ (by simp)]
  have hworked := inside_workOnLines hs m (lineBound f) first
    (p := { frame := (markLines f first last).openGroup, host := h }) hmarked.paired
  unfold run
  generalize s.workOnLines m (lineBound f) first { frame := (markLines f first last).openGroup, host := h } = p
    at hworked ⊢
  have hfinish : p.finish.frame.text = p.frame.text ∧
      ∀ name, p.finish.frame.offsets (.named name) = p.frame.offsets (.named name) := by
    have hunmarked : ∀ name, ((p.frame.closeGroup.unsetMark .rangeBegin).unsetMark .rangeEnd).offsets (.named name) =
        p.frame.offsets (.named name) := fun name => by
      rw [Frame.offsets_unsetMark_ne _ (by simp), Frame.offsets_unsetMark_ne _ (by simp)]
      rfl
    unfold Progress.finish
    dsimp only
    split
    · exact ⟨rfl, hunmarked⟩
    · exact ⟨rfl, hunmarked⟩
  exact (hmarked.trans hworked).congr hfinish.1 hfinish.2

end Substitution
end ExEditor
