import ExEditor.Proofs.Frame.WholeLines
import ExEditor.Proofs.Text.Joined

/-! Lines that are deleted and put back where they were. `putBack_iff` says for which lines of a text this gives back
the text: whatever breaks it has, whether the last line is ended or not, and whether lines are empty. -/
namespace ExEditor
namespace Frame

variable {f g : Frame} {first last : Nat}

/-- Whether lines that are deleted come back to their place when they are put there. Where their end is the end of a
text without a last break, the break in front of them goes with them: it has to be one that a new line gets, and no
other break may stand right before it. Anywhere else the breaks around the lines must not become one. -/
def PutsBack (f : Frame) (first last : Nat) : Prop :=
  if f.lineStart (last + 1) = f.length ∧ 0 < first ∧ ¬ f.text.endsInBreak then
    f.text.slice (f.lineEnd (first - 1)) (f.lineStart first) = f.eol ∧
      ¬ Text.endsInBreak (f.text.take (f.lineEnd (first - 1)))
  else ¬ Text.Meets (f.text.take (f.lineStart first)) (f.text.drop (f.lineStart (last + 1)))

instance (f : Frame) (first last : Nat) : Decidable (f.PutsBack first last) :=
  inferInstanceAs (Decidable (ite _ _ _))

/-- Where every line is ended, by a feed, all lines come back to their place. -/
theorem putsBack_of_ended (hb : f.text.endsInBreak) (hp : f.text.returnsPaired) (first last : Nat) :
    f.PutsBack first last := by
  unfold PutsBack
  rw [if_neg fun h => h.2.2 hb]
  rintro ⟨hreturn, -⟩
  have hwhole := Text.returnsPaired_take_lineStart hp first
  obtain ⟨front, hfront⟩ := List.getLast?_eq_some_iff.mp hreturn
  change Text.returnsPaired (f.text.take (f.lineStart first)) at hwhole
  rw [hfront] at hwhole
  exact Text.not_returnsPaired_concat front hwhole

theorem insert_length_text (t : Text) : (g.insert g.length t).text = g.text ++ t := by
  have hclamp : g.clamp g.length = g.text.length := Nat.min_self _
  rw [insert_text, hclamp, List.take_length, List.drop_length, List.append_nil]

theorem insert_between {front back : Text} (hg : g.text = front ++ back) (t : Text) :
    (g.insert front.length t).text = front ++ (t ++ back) := by
  have hclamp : g.clamp front.length = front.length := by
    simp [clamp, length, hg]
  rw [insert_text, hclamp, hg, List.take_left, List.drop_left]

/-- Lines with a break, or lines at the end of a text with one, are put as they are. -/
theorem putLines_text {front back t : Text} {n : Nat} (hg : g.text = front ++ back)
    (hn : g.lineStart n = front.length) (ht : t ≠ []) (hends : t.endsInBreak ∨ back = [])
    (hwhole : back = [] → Text.IsWhole front ∧ (front = [] → n = 0)) :
    (g.putLines n t).text = front ++ (t ++ back) := by
  have hlength : g.length = front.length + back.length := by simp [length, hg]
  unfold putLines
  rw [if_neg ht]
  split
  · next hempty =>
    have hfront : front = [] := List.length_eq_zero_iff.mp (by omega)
    have h := insert_between hg t
    rwa [hfront] at h ⊢
  · next hempty =>
    rw [hn]
    dsimp only
    split
    · next hend =>
      have hback : back = [] := List.length_eq_zero_iff.mp (by omega)
      obtain ⟨hfront, hzero⟩ := hwhole hback
      rw [hg, hback, List.append_nil] at hend
      rcases hfront with hnil | hbreak
      · exact absurd ⟨by simp [hlength, hnil, hback], hzero hnil⟩ hempty
      · exact absurd hbreak hend.2
    · split
      · next hopen =>
        have hback : back ≠ [] := by
          rintro rfl
          simp only [List.length_nil] at hlength
          omega
        exact absurd (hends.resolve_right hback) hopen.2
      · exact insert_between hg t

/-- Lines that are put between whole lines and the rest of a text stand there, unless the two have come to share a
break. -/
theorem putLines_between {front back t : Text} (hg : g.text = front ++ back) (hfront : Text.IsWhole front)
    (ht : t ≠ []) (hends : t.endsInBreak ∨ back = []) :
    (g.putLines (Text.breakCount front) t).text =
      if Text.Meets front back then front ++ '\n' :: (t ++ back.tail) else front ++ (t ++ back) := by
  have hstart := Text.lineStart_append hfront back
  rw [← hg] at hstart
  split
  · next hmeets =>
    obtain ⟨rest, rfl⟩ : ∃ rest, back = '\n' :: rest := List.head?_eq_some_iff.mp hmeets.2
    have hends : t.endsInBreak := hends.resolve_right (by simp)
    rw [if_pos hmeets] at hstart
    have hcut : g.text = front ++ ['\n'] ++ rest := by simp [hg]
    have hline : g.lineStart (Text.breakCount front) = (front ++ ['\n']).length := by
      simpa [lineStart] using hstart
    have h := putLines_text hcut hline ht (.inl hends)
      fun _ => ⟨.inr (by simp [Text.endsInBreak, Text.isBreak]), by simp⟩
    simpa using h
  · next hmeets =>
    rw [if_neg hmeets] at hstart
    exact putLines_text hg hstart ht hends fun _ => ⟨hfront, fun hnil => by simp [hnil, Text.breakCount]⟩

/-- Lines that are put behind a text go on a line of their own. -/
theorem putLines_behind {t : Text} {n : Nat} (hn : Text.breakCount g.text < n) (ht : t ≠ []) :
    (g.putLines n t).text =
      if g.text.endsInBreak then g.text ++ t else g.text ++ (g.eol ++ (t.dropEnding? g.eol).getD t) := by
  have hstart : g.lineStart n = g.length := by
    simp [lineStart, Text.lineStart, Text.fromLine_eq_nil hn, length]
  have hlater : ¬ (g.length = 0 ∧ n = 0) := by omega
  unfold putLines
  rw [if_neg ht, if_neg hlater, hstart]
  cases hbreak : g.text.endsInBreak with
  | true => simpa using insert_length_text t
  | false => simpa using insert_length_text _

/-- What is left of a text when lines are deleted. -/
theorem deleteLines_text (f : Frame) {first last : Nat} (hf : first ≤ last) :
    (f.deleteLines first last).text =
      f.text.take (f.deletionSpan first last).1 ++ f.text.drop (f.lineStart (last + 1)) := by
  have hdelete := (f.clearMarksWithin (f.deletionSpan first last).1 (f.deletionSpan first last).2).delete_text
    (f.deletionSpan_le hf) (f.deletionSpan_snd_le first last)
  change (f.cutLines first last).text = _
  rw [deletionSpan_snd] at hdelete
  rw [cutLines_eq, deletionSpan_snd]
  exact hdelete

theorem deleteLines_eol (f : Frame) (first last : Nat) : (f.deleteLines first last).eol = f.eol := by
  unfold deleteLines goToLine setCursor eol
  exact congrArg LineBreak.text (delete_lineBreak _ _ _)

theorem linesText_eq_slice (f : Frame) (first last : Nat) :
    f.linesText first last = f.text.slice (f.lineStart first) (f.lineStart (last + 1)) := rfl

/-- A text is what stands before some lines, the lines, and what stands behind them. -/
theorem text_eq_around (f : Frame) {first last : Nat} (hf : first ≤ last) :
    f.text = f.text.take (f.lineStart first) ++
      (f.linesText first last ++ f.text.drop (f.lineStart (last + 1))) := by
  have hmono := f.lineStart_mono (show first ≤ last + 1 by omega)
  rw [linesText_eq_slice, Text.slice, ← List.append_assoc]
  have htake : f.text.take (f.lineStart first) = (f.text.take (f.lineStart (last + 1))).take (f.lineStart first) := by
    rw [List.take_take, Nat.min_eq_left hmono]
  rw [htake, List.take_append_drop, List.take_append_drop]

theorem deletionSpan_fst (f : Frame) (first last : Nat) :
    (f.deletionSpan first last).1 =
      if f.lineStart (last + 1) = f.length ∧ 0 < first ∧ ¬ f.text.endsInBreak then f.lineEnd (first - 1)
      else f.lineStart first := by
  unfold deletionSpan linesSpan
  dsimp only
  split <;> rfl

/-- Lines that others follow end in a break. -/
theorem linesText_ends (hf : first ≤ last) (ht : f.linesText first last ≠ []) :
    (f.linesText first last).endsInBreak ∨ f.text.drop (f.lineStart (last + 1)) = [] := by
  rcases Nat.lt_or_ge (last + 1) f.text.segments.length with hlast | hlast
  · have hwhole := (Text.take_lineStart_whole hlast).2
    have hmono := f.lineStart_mono (show first ≤ last + 1 by omega)
    have htake : f.text.take (f.lineStart (last + 1)) =
        f.text.take (f.lineStart first) ++ f.linesText first last := by
      have h := List.take_append_drop (f.lineStart first) (f.text.take (f.lineStart (last + 1)))
      rw [List.take_take, Nat.min_eq_left hmono] at h
      exact h.symm
    change Text.IsWhole (f.text.take (f.lineStart (last + 1))) at hwhole
    rw [htake, Text.IsWhole, Text.endsInBreak_append ht] at hwhole
    exact .inl (hwhole.resolve_left (by simp [ht]))
  · refine .inr ?_
    have hdrop : f.text.drop (f.lineStart (last + 1)) = (f.text.segments.drop (last + 1)).flatten :=
      f.text.drop_lineStart (last + 1)
    rw [hdrop, List.drop_eq_nil_of_le hlast]
    rfl

/-- A text that is not empty has something on, or behind, each of its lines. -/
theorem linesText_ne_nil_of_text (hf : first ≤ last) (hl : last < f.text.lineCount) (hne : f.text ≠ []) :
    f.linesText first last ≠ [] := by
  have hsegments := f.text.lineCount_le_segments
  intro hnil
  have haround := f.text_eq_around hf
  rw [hnil, List.nil_append] at haround
  have hsame : f.text.take (f.lineStart first) = f.text.take (f.lineStart (last + 1)) := by
    have hsplit := List.take_append_drop (f.lineStart (last + 1)) f.text
    exact List.append_cancel_right (haround.symm.trans hsplit.symm)
  obtain ⟨hcount, hwhole⟩ := Text.take_lineStart_whole (t := f.text) (n := first) (by omega)
  change Text.breakCount (f.text.take (f.lineStart first)) = first at hcount
  change Text.IsWhole (f.text.take (f.lineStart first)) at hwhole
  rcases Nat.lt_or_ge (last + 1) f.text.segments.length with hlast | hlast
  · have hnext : Text.breakCount (f.text.take (f.lineStart (last + 1))) = last + 1 :=
      (Text.take_lineStart_whole hlast).1
    rw [← hsame, hcount] at hnext
    omega
  · -- They are the last lines, so the text would end in front of them, with a break.
    have hall : f.text.take (f.lineStart (last + 1)) = f.text := by
      have hend : f.lineStart (last + 1) = f.text.length := by
        simp [lineStart, Text.lineStart, Text.fromLine_eq, List.drop_eq_nil_of_le hlast]
      rw [hend, List.take_length]
    rw [hsame, hall] at hcount hwhole
    rw [Text.segments_length] at hlast
    have hbreak := hwhole.resolve_left hne
    rw [Text.lineCount, if_pos hbreak] at hl
    omega

section around
variable (hf : first ≤ last) (hl : last < f.text.lineCount) (ht : f.linesText first last ≠ [])
include hf hl ht

/-- Lines in the middle of a text, at its front, or at the end of one with a last break. -/
theorem putBack_inside (h : ¬ (f.lineStart (last + 1) = f.length ∧ 0 < first ∧ ¬ f.text.endsInBreak)) :
    ((f.deleteLines first last).putLines first (f.linesText first last)).text = f.text ↔
      ¬ Text.Meets (f.text.take (f.lineStart first)) (f.text.drop (f.lineStart (last + 1))) := by
  have hsegments := f.text.lineCount_le_segments
  have hfirst : first < f.text.segments.length := by omega
  obtain ⟨hcount, hwhole⟩ := Text.take_lineStart_whole hfirst
  have hcut := f.deleteLines_text hf
  rw [deletionSpan_fst, if_neg h] at hcut
  have hput := putLines_between hcut hwhole ht (linesText_ends hf ht)
  have haround := f.text_eq_around hf
  change Text.breakCount (f.text.take (f.lineStart first)) = first at hcount
  rw [hcount] at hput
  rw [hput]
  by_cases hmeets : Text.Meets (f.text.take (f.lineStart first)) (f.text.drop (f.lineStart (last + 1)))
  · rw [if_pos hmeets]
    refine iff_of_false (fun heq => ?_) (not_not_intro hmeets)
    -- The lines would begin with the feed that has gone to the line in front of them.
    obtain ⟨c, t, hc⟩ := List.exists_cons_of_ne_nil ht
    have hsame := List.append_cancel_left (heq.trans haround)
    have hfeed : '\n' = c := by
      rw [hc] at hsame
      exact (List.cons.inj hsame).1
    have hdrop : f.text.drop (f.lineStart first) =
        f.linesText first last ++ f.text.drop (f.lineStart (last + 1)) := by
      have hsplit := List.take_append_drop (f.lineStart first) f.text
      exact List.append_cancel_left (hsplit.trans haround)
    refine Text.not_meets_lineStart hfirst ⟨hmeets.1, ?_⟩
    change (f.text.drop (f.lineStart first)).head? = some '\n'
    rw [hdrop, hc, hfeed]
    rfl
  · rw [if_neg hmeets]
    exact iff_of_true haround.symm hmeets

/-- Lines at the end of a text without a last break. -/
theorem putBack_behind (h : f.lineStart (last + 1) = f.length ∧ 0 < first ∧ ¬ f.text.endsInBreak) :
    ((f.deleteLines first last).putLines first (f.linesText first last)).text = f.text ↔
      f.text.slice (f.lineEnd (first - 1)) (f.lineStart first) = f.eol ∧
        ¬ Text.endsInBreak (f.text.take (f.lineEnd (first - 1))) := by
  have hsegments := f.text.lineCount_le_segments
  obtain ⟨hend, hpos, hopen⟩ := h
  obtain ⟨n, rfl⟩ : ∃ n, first = n + 1 := ⟨first - 1, by omega⟩
  rw [Nat.add_sub_cancel]
  generalize hfront : f.text.take (f.lineEnd n) = front
  have hnone : f.text.drop (f.lineStart (last + 1)) = [] := by rw [hend, length, List.drop_length]
  -- The break in front of the lines goes with them.
  have hcut := f.deleteLines_text hf
  rw [deletionSpan_fst, if_pos ⟨hend, hpos, hopen⟩, Nat.add_sub_cancel, hfront, hnone, List.append_nil] at hcut
  have hcount : Text.breakCount front = n := by
    have htake : f.text.take (f.lineEnd n) = f.text.take (f.lineStart n) ++ f.text.line n := f.text.take_lineEnd n
    have hplain : Text.IsPlain (f.text.line n) := Text.isPlain_lineBody _
    rw [← hfront, htake, Text.breakCount_append_plain _ hplain]
    exact (Text.take_lineStart_whole (by omega)).1
  have hbefore : f.text.take (f.lineStart (n + 1)) = front ++ f.text.slice (f.lineEnd n) (f.lineStart (n + 1)) := by
    have hle : f.lineEnd n ≤ f.lineStart (n + 1) := f.text.lineEnd_le_lineStart n
    have hsplit := List.take_append_drop (f.lineEnd n) (f.text.take (f.lineStart (n + 1)))
    rw [List.take_take, Nat.min_eq_left hle, hfront] at hsplit
    exact hsplit.symm
  generalize f.text.slice (f.lineEnd n) (f.lineStart (n + 1)) = between at hbefore ⊢
  have haround := f.text_eq_around hf
  rw [hnone, List.append_nil, hbefore, List.append_assoc] at haround
  have hlast : ¬ (f.linesText (n + 1) last).endsInBreak := by
    rw [haround, Text.endsInBreak_append (by simp [ht]), Text.endsInBreak_append ht] at hopen
    exact hopen
  have hput := putLines_behind (g := f.deleteLines (n + 1) last) (n := n + 1) (by rw [hcut, hcount]; omega) ht
  rw [hcut, deleteLines_eol, Text.dropEnding?_open hlast f.eol_eq, Option.getD_none] at hput
  rw [hput, haround]
  by_cases hbreak : Text.endsInBreak front
  · rw [if_pos hbreak]
    refine iff_of_false (fun heq => ?_) fun h => h.2 hbreak
    have hnil : between = [] := by simpa using List.append_cancel_left heq
    have hnext : Text.breakCount (f.text.take (f.lineStart (n + 1))) = n + 1 :=
      (Text.take_lineStart_whole (by omega)).1
    rw [hbefore, hnil, List.append_nil, hcount] at hnext
    omega
  · rw [if_neg hbreak, List.append_cancel_left_eq, List.append_cancel_right_eq]
    exact ⟨fun heq => ⟨heq.symm, hbreak⟩, fun h => h.1.symm⟩

/-- Deleting lines and putting them back where they were gives back the text for just the lines that come back to
their place. -/
theorem putBack_iff :
    ((f.deleteLines first last).putAndFollow first (f.linesText first last)).text = f.text ↔
      f.PutsBack first last := by
  change ((f.deleteLines first last).putLines first (f.linesText first last)).text = f.text ↔ _
  unfold PutsBack
  split
  · next h => exact putBack_behind hf hl ht h
  · next h => exact putBack_inside hf hl ht h

end around

end Frame
end ExEditor
