import ExEditor.Proofs.Frame.UserMarks

/-! What edits do to the lines of a text, and to the marks of the user on them. Lines that are moved leave their marks
behind; `LineEdit.Strays` says which other marks do not go where their lines go. -/
namespace ExEditor

namespace LineMove

/-- Lines are taken out, and some are put back among the others. -/
def moving (first last place count : Nat) : LineMove := fun line =>
  if first ≤ line ∧ line ≤ last then some (place + (line - first))
  else (cutting first last line).bind (splice place 0 count)

section moving
variable {first last place count line : Nat}

theorem moving_of_lt (h : line < first) : moving first last place count line = splice place 0 count line := by
  rw [moving, if_neg (by omega), cutting_of_lt h, Option.bind_some]

theorem moving_of_gt (hf : first ≤ last) (h : last < line) :
    moving first last place count line = splice place 0 count (line - (last + 1 - first)) := by
  rw [moving, if_neg (by omega), cutting_of_gt hf h, Option.bind_some]

end moving

end LineMove

/-- What is done to the lines of a text, counted from 0. -/
inductive LineEdit
  /-- Lines stay, whatever becomes of their texts. -/
  | inside
  | cut (first last : Nat)
  /-- A text is put in front of a line. -/
  | put (n : Nat) (t : Text)
  | change (first last : Nat) (t : Text)
  | move (first last destination : Nat)

namespace LineEdit

/-- Where lines that are moved are put among those that are left. -/
def place (first last destination : Nat) : Nat :=
  if last + 1 < destination then destination - (last - first + 1) else destination

/-- Where the lines of a text come to that has the given number of them. -/
def lineMove (count : Nat) : LineEdit → LineMove
  | inside => some
  | cut first last => .cutting first last
  | put n t => .splice n 0 t.addedLines
  | change first last t => (LineMove.cutting first last).andThen (.splice first 0 t.addedLines)
  | move first last destination => .moving first last (place first last destination) (min (last + 1) count - first)

/-- Whether a line is among those that are moved. -/
def Moves (line : Nat) : LineEdit → Prop
  | move first last _ => first ≤ line ∧ line ≤ last
  | _ => False

end LineEdit

namespace Frame

section move
variable {f : Frame} {p first last destination : Nat}

theorem returnsPaired_linesText (hp : f.text.returnsPaired) (hf : first ≤ last) :
    (f.linesText first last).returnsPaired := by
  rw [f.linesText_eq hf]
  exact Text.returnsPaired_pieces fun s hs =>
    Text.returnsPaired_segments hp s (List.mem_of_mem_take (List.mem_of_mem_drop hs))

theorem not_meets_linesText (hp : f.text.returnsPaired) (hf : first ≤ last) (u : Text) :
    ¬ Text.Meets (f.linesText first last) u :=
  Text.not_meets_of_returnsPaired (returnsPaired_linesText hp hf) u

/-- The text of lines makes as many lines as there are of them. -/
theorem addedLines_linesText (hp : f.text.returnsPaired) (hne : f.text ≠ []) (hf : first ≤ last)
    (hl : first ≤ f.text.breakCount) :
    (f.linesText first last).addedLines = min (last + 1) f.text.lineCount - first := by
  have hcount := f.text.breakCount_le_lineCount
  have hsegments := f.text.lineCount_le_segments
  rw [f.text.segments_length] at hsegments
  rw [f.linesText_eq_slice first last, Text.slice]
  rcases Nat.lt_or_ge last f.text.breakCount with hlt | hge
  · exact (Text.addedLines_between hp (Nat.lt_succ_of_le hf) hlt).trans (by omega)
  · rw [show f.lineStart (last + 1) = f.text.length from Text.lineStart_of_breakCount_lt (Nat.lt_succ_of_le hge),
      List.take_length]
    exact (Text.addedLines_from hne hl).trans (by omega)

/-- Lines are moved by deleting them, with no mark cleared, and putting them back. -/
theorem moveLines_eq_putLines (f : Frame) (first last destination : Nat) : f.moveLines first last destination =
    ((f.delete (f.deletionSpan first last).1 (f.deletionSpan first last).2).putLines
      (LineEdit.place first last destination) (f.linesText first last)).goToLine
        (LineEdit.place first last destination + (last - first + 1) - 1) :=
  rfl

/-- Whether a mark does not go with its line when lines are moved: the line is moved, or it stands in front of the
last lines and the mark is in the break that is cut with them, or the lines come to stand behind the mark at the end
of the text. -/
def MoveStrays (f : Frame) (first last destination p : Nat) : Prop :=
  (first ≤ f.text.lineAt p ∧ f.text.lineAt p ≤ last) ∨
    f.InCutBreak first last p ∧ (first ≤ destination ∨ f.line (first - 1) = []) ∨
    f.lineStart destination ≤ p ∧ f.text.lineAt p < destination

instance (f : Frame) (first last destination p : Nat) : Decidable (f.MoveStrays first last destination p) :=
  inferInstanceAs (Decidable (_ ∨ _))

/-- A mark at the end of the line in front of lines that are cut, which has text and is left as the last one. -/
structure LastLeft (f : Frame) (first last p : Nat) : Prop where
  pos : 0 < first
  lineAt : f.text.lineAt p = first - 1
  length : (f.cutText first last).length = (f.deletionSpan first last).1
  lies : (f.cutText first last).lineAt (f.deletionSpan first last).1 = first - 1
  lineCount : (f.cutText first last).lineCount = first
  ne : f.cutText first last ≠ []

theorem lastLeft (hl : first ≤ f.text.breakCount) (hcut : f.InCutBreak first last p) (hline : f.line (first - 1) ≠ []) :
    f.LastLeft first last p := by
  obtain ⟨hge, hlt⟩ := hcut
  have hplt : p < f.text.length := Nat.lt_of_lt_of_le hlt (f.lineStart_le first)
  obtain ⟨hend, hpos, hspan⟩ : f.lineStart (last + 1) = f.length ∧ 0 < first ∧
      (f.deletionSpan first last).1 = f.lineEnd (first - 1) := by
    by_cases h : f.lineStart (last + 1) = f.length ∧ 0 < first ∧ ¬ f.text.endsInBreak
    · exact ⟨h.1, h.2.1, by rw [deletionSpan_fst, if_pos h]⟩
    · rw [deletionSpan_fst, if_neg h] at hge
      omega
  have htext : f.cutText first last = f.text.take (f.lineStart (first - 1)) ++ f.line (first - 1) := by
    have htake := f.text.take_lineEnd (first - 1)
    rw [cutText, hspan, hend, Frame.length, List.drop_length, List.append_nil]
    exact htake
  have hlength : (f.cutText first last).length = (f.deletionSpan first last).1 := by
    rw [htext, List.length_append, List.length_take_of_le (f.lineStart_le _), hspan]
    rfl
  have hplain : (f.line (first - 1)).IsPlain := Text.isPlain_lineBody _
  have hbreaks : (f.cutText first last).breakCount = first - 1 := by
    rw [htext, Text.breakCount_append_plain _ hplain]
    exact Text.breakCount_take_lineStart (by omega)
  refine ⟨hpos, ?_, hlength, hlength ▸ (Text.lineAt_length _).trans hbreaks, ?_,
    htext ▸ List.append_ne_nil_of_right_ne_nil _ hline⟩
  · have hbefore := (Text.lt_lineStart_iff hplt).mp hlt
    have hfront : first - 1 ≤ f.text.breakCount := by omega
    have hafter := (Text.lineStart_le_iff_le_lineAt hfront (Nat.le_of_lt hplt)).mp
      (Nat.le_trans (Nat.le_add_right _ _) (hspan ▸ hge))
    omega
  · rw [Text.lineCount, hbreaks, htext, Text.endsInBreak_append hline, Text.endsInBreak_plain hplain]
    simp only [Bool.false_eq_true, ↓reduceIte]
    omega

theorem returnsPaired_cutText (hp : f.text.returnsPaired) (hf : first ≤ last) :
    (f.cutText first last).returnsPaired := by
  have htext : (f.cutLines first last).text = f.cutText first last := f.cutLines_text hf
  exact htext ▸ returnsPaired_cutLines hp hf

section put
variable {g : Frame} (hp : f.text.returnsPaired) (hf : first ≤ last) (hl : first ≤ f.text.breakCount)
  (hg : g.text = f.cutText first last)
include hp hf hl hg

/-- Lines that are put back take a mark behind them along. -/
theorem bringsLine_putBack_behind (ho : destination ≤ first ∨ last + 1 < destination) (hle : p ≤ f.length)
    (hline : f.text.lineAt p < f.text.lineCount) (hlast : last < f.text.lineAt p)
    (hstray : ¬ (f.lineStart destination ≤ p ∧ f.text.lineAt p < destination)) :
    g.BringsLine (g.putLines (LineEdit.place first last destination) (f.linesText first last))
      (f.lineStart first + (p - f.lineStart (last + 1)))
      (LineMove.moving first last (LineEdit.place first last destination) (min (last + 1) f.text.lineCount - first)
        (f.text.lineAt p)) := by
  have hbehind := behindCut hp hf hle hline hlast
  have hstart := hbehind.le
  have hlies := hbehind.lies
  have hcount := hbehind.lineCount
  have hne : f.text ≠ [] := fun hnil => hbehind.ne (by simp [cutText, hnil])
  rw [← hg] at hlies hcount
  rw [LineMove.moving_of_gt hf hlast, ← addedLines_linesText hp hne hf hl, ← hlies.line]
  refine bringsLine_putLines (hg ▸ returnsPaired_cutText hp hf) hlies.le (by rw [hlies.line]; omega) ?_
  rintro ⟨-, hearly, hlate | hnil | hshared⟩
  · rw [hlies.line] at hlate
    unfold LineEdit.place at hlate hearly
    split at hlate
    · next hdown =>
      rw [if_pos hdown] at hearly
      rcases Nat.lt_or_eq_of_le hlies.le with hin | hend
      · have hbefore := (Text.lt_lineStart_iff hin).mpr (hlies.line.symm ▸ hlate)
        exact Nat.not_lt.mpr hearly hbefore
      · have hlength : g.text.length = f.lineStart first + (f.length - f.lineStart (last + 1)) := by
          rw [hg, cutText, hbehind.span, List.length_append, List.length_drop,
            List.length_take_of_le (f.lineStart_le first)]
          rfl
        have hall := f.lineStart_le destination
        have hin := f.lineStart_le (last + 1)
        exact hstray ⟨by omega, by omega⟩
    · omega
  · exact hbehind.ne (hg ▸ hnil)
  · exact not_meets_linesText hp hf _ hshared

/-- Lines that are put back leave the marks in front of where they were on their lines. -/
theorem bringsLine_putBack_before (hsends : f.Sends g p (some (Marks.afterDelete (f.deletionSpan first last).1
      (f.deletionSpan first last).2 p))) (hplt : p < f.length) (hbefore : f.text.lineAt p < first)
    (hstray : f.InCutBreak first last p → destination < first ∧ f.line (first - 1) ≠ []) :
    f.BringsLine (g.putLines (LineEdit.place first last destination) (f.linesText first last)) p
      (LineMove.moving first last (LineEdit.place first last destination) (min (last + 1) f.text.lineCount - first)
        (f.text.lineAt p)) := by
  have hpaired : g.text.returnsPaired := hg ▸ returnsPaired_cutText hp hf
  have hmeets := not_meets_linesText hp hf
  have hfront := f.deletionSpan_fst_le first last
  have hne : f.text ≠ [] := by
    rintro hnil
    rw [length, hnil] at hplt
    cases hplt
  have htext : g.line (f.text.lineAt p) = f.line (f.text.lineAt p) := by
    rw [line, hg]
    exact line_cutText_before hp hl hbefore last
  rw [LineMove.moving_of_lt hbefore, ← addedLines_linesText hp hne hf hl]
  rcases Nat.lt_or_ge p (f.deletionSpan first last).1 with hlt | hge
  · rw [Marks.afterDelete, if_pos (Nat.le_of_lt hlt)] at hsends
    obtain ⟨hin, hkept, -⟩ := hsends.before hlt (Nat.le_trans hfront (f.lineStart_le first)) hg
    have hput := bringsLine_putLines hpaired (Nat.le_of_lt hin) (Text.lineAt_lt_lineCount hin)
      (not_putStrays_of_lt hin hmeets (LineEdit.place first last destination))
    rw [hkept] at hput
    exact hsends.bringsLine (hkept.symm ▸ htext) hput
  · -- The mark is at the end of the line in front, and with it at the end of what is left.
    have hbreak : f.InCutBreak first last p := ⟨hge, (Text.lt_lineStart_iff hplt).mpr hbefore⟩
    obtain ⟨hearly, hline⟩ := hstray hbreak
    obtain ⟨hpos, hk, hlength, hat, hcount, hsome⟩ := lastLeft hl hbreak hline
    have hmono := f.lineStart_mono (show first ≤ last + 1 by omega)
    have hin := hbreak.2
    have hplace : LineEdit.place first last destination = destination := by
      rw [LineEdit.place, if_neg (by omega)]
    rw [Marks.afterDelete_between hge (by rw [deletionSpan_snd]; omega)] at hsends
    rw [← hg] at hlength hat hcount hsome
    have hput := bringsLine_putLines (n := destination) (t := f.linesText first last) hpaired
      (Nat.le_of_eq hlength.symm) (by omega) ?stays
    case stays =>
      rintro ⟨-, -, hlate | hnil | hshared⟩
      · omega
      · exact hsome hnil
      · exact hmeets _ hshared
    rw [hat, ← hk] at hput
    rw [hplace]
    exact hsends.bringsLine (hat.symm ▸ hk ▸ htext) hput

end put

/-- A mark on a line that is moved comes to where the line behind the moved ones starts. -/
theorem sends_delete_moved (hf : first ≤ last) (hl : first ≤ f.text.breakCount) (hle : p ≤ f.length)
    (hmoved : first ≤ f.text.lineAt p ∧ f.text.lineAt p ≤ last) :
    f.Sends (f.delete (f.deletionSpan first last).1 (f.deletionSpan first last).2) p
      (some (f.deletionSpan first last).1) := by
  have hsends := sends_delete (f.deletionSpan_le hf) (f.deletionSpan_snd_le first last) p
  have hstart : f.lineStart first ≤ p := (Text.lineStart_le_iff_le_lineAt hl hle).mpr hmoved.1
  have hstop : p ≤ f.lineStart (last + 1) := Text.le_lineStart_of_lineAt_lt (Nat.lt_succ_of_le hmoved.2) hle
  rwa [Marks.afterDelete_between (Nat.le_trans (f.deletionSpan_fst_le first last) hstart) (by rwa [deletionSpan_snd])]
    at hsends

section moved
variable (hp : f.text.returnsPaired) (hf : first ≤ last) (hl : first ≤ f.text.breakCount)
  (ho : destination ≤ first ∨ last + 1 < destination) (hle : p ≤ f.length)
include hp hf hl ho hle

/-- Lines that are moved keep the marks on other lines. -/
theorem bringsLine_moveLines (hline : f.text.lineAt p < f.text.lineCount)
    (hstray : ¬ f.MoveStrays first last destination p) :
    f.BringsLine (f.moveLines first last destination) p
      (LineMove.moving first last (LineEdit.place first last destination) (min (last + 1) f.text.lineCount - first)
        (f.text.lineAt p)) := by
  have htext := f.delete_span_text hf
  have hsends := sends_delete (f.deletionSpan_le hf) (f.deletionSpan_snd_le first last) p
  rw [moveLines_eq_putLines]
  refine BringsLine.goToLine ?_ _
  unfold MoveStrays at hstray
  simp only [not_or] at hstray
  obtain ⟨hmoved, hcut, hend⟩ := hstray
  rcases Nat.lt_or_ge (f.text.lineAt p) first with hbefore | hafter
  · have hplt : p < f.length := by
      refine Nat.lt_of_le_of_ne hle fun heq => ?_
      have hlast := (Text.lineStart_le_iff_le_lineAt hl hle).mp (heq ▸ f.lineStart_le first)
      omega
    refine bringsLine_putBack_before hp hf hl htext hsends hplt hbefore fun hbreak => ?_
    have hleft := fun h => hcut ⟨hbreak, h⟩
    simp only [imp_false, not_or, Nat.not_le] at hleft
    exact hleft
  · have hlast : last < f.text.lineAt p := by omega
    have hbehind := behindCut hp hf hle hline hlast
    have hstart := hbehind.le
    have hmono := f.lineStart_mono (show first ≤ last + 1 by omega)
    have hdelete : Marks.afterDelete (f.deletionSpan first last).1 (f.deletionSpan first last).2 p =
        f.lineStart first + (p - f.lineStart (last + 1)) := by
      rw [hbehind.span]
      exact Marks.afterDelete_behind hmono hstart
    rw [hdelete] at hsends
    refine hsends.bringsLine ?_ (bringsLine_putBack_behind hp hf hl htext ho hle hline hlast hend)
    rw [htext, hbehind.lies.line, line, htext]
    exact hbehind.text

/-- A mark on a line that is moved stays behind, on the line behind the moved ones, or at the end of the text where
there is none. -/
theorem moveLines_leaves (hmoved : first ≤ f.text.lineAt p ∧ f.text.lineAt p ≤ last) :
    if last + 1 < f.text.lineCount then
      f.Brings (f.moveLines first last destination) p
        (LineMove.moving first last (LineEdit.place first last destination) (min (last + 1) f.text.lineCount - first)
          (last + 1))
    else f.Sends (f.moveLines first last destination) p (some (f.moveLines first last destination).length) := by
  have htext := f.delete_span_text hf
  have hsends := sends_delete_moved hf hl hle hmoved
  rw [moveLines_eq_putLines]
  split
  · next hbehind =>
    have hne : f.text ≠ [] := by
      rintro hnil
      rw [hnil] at hbehind
      simp [Text.lineCount, Text.breakCount, Text.endsInBreak] at hbehind
    have hlt : f.lineStart (last + 1) < f.length := Text.lineStart_lt_length hbehind hne
    have hat : f.text.lineAt (f.lineStart (last + 1)) = last + 1 :=
      Text.lineAt_lineStart (Nat.lt_of_lt_of_le hbehind f.text.lineCount_le_segments)
    have hput := bringsLine_putBack_behind (p := f.lineStart (last + 1)) hp hf hl htext ho (f.lineStart_le _) (by omega)
      (by omega) ?stays
    case stays =>
      rintro ⟨hearly, hlate⟩
      exact Nat.not_lt.mpr hearly ((Text.lt_lineStart_iff hlt).mpr hlate)
    rw [hat, Nat.sub_self, Nat.add_zero] at hput
    rw [deletionSpan_of_lt hlt] at hsends hput ⊢
    exact (hsends.brings hput.brings).goToLine _
  · next hnone =>
    have hend : f.lineStart (last + 1) = f.length := Text.lineStart_of_lineCount_le (Nat.le_of_not_lt hnone)
    have hlength : (f.delete (f.deletionSpan first last).1 (f.deletionSpan first last).2).length =
        (f.deletionSpan first last).1 := by
      rw [length, htext, cutText, hend, length, List.drop_length, List.append_nil,
        List.length_take_of_le (Nat.le_trans (f.deletionSpan_fst_le first last) (f.lineStart_le first))]
    generalize f.delete (f.deletionSpan first last).1 (f.deletionSpan first last).2 = g at htext hsends hlength ⊢
    rw [← hlength] at hsends
    exact hsends.putLines_of_end _ _

end moved

/-- Past the end of the text there are no lines to move. -/
theorem moveLines_past (h : f.text.breakCount < first) (hf : first ≤ last) (destination : Nat) :
    (f.moveLines first last destination).text = f.text ∧
      ∀ name, (f.moveLines first last destination).offsets (.named name) = f.offsets (.named name) := by
  have hstart : f.lineStart first = f.length := Text.lineStart_of_breakCount_lt h
  have hnone : f.linesText first last = [] := by
    rw [linesText_eq_slice, hstart, Text.slice]
    exact List.drop_eq_nil_of_le (List.length_take_le' _ _)
  rw [moveLines_eq_putLines, deletionSpan_of_breakCount_lt h hf, delete_self, hnone, putLines_nil]
  exact ⟨rfl, fun _ => rfl⟩

end move

end Frame

namespace LineEdit

/-- Whether a mark at an offset does not go where its line goes. -/
def Strays (f : Frame) (p : Nat) : LineEdit → Prop
  | inside => False
  | cut first last => f.CutStrays first last p
  | put n t => f.PutStrays n t p
  | change first last _ => f.CutStrays first last p ∨ f.text.breakCount < first ∧ f.length ≤ p
  | move first last destination => f.MoveStrays first last destination p

instance (f : Frame) (p : Nat) : (e : LineEdit) → Decidable (e.Strays f p)
  | inside => inferInstanceAs (Decidable False)
  | cut first last => inferInstanceAs (Decidable (f.CutStrays first last p))
  | put n t => inferInstanceAs (Decidable (f.PutStrays n t p))
  | change first last _ => inferInstanceAs (Decidable (f.CutStrays first last p ∨ _ ∧ _))
  | move first last destination => inferInstanceAs (Decidable (f.MoveStrays first last destination p))

/-- An edit as it treats the marks of the user that are on lines: each goes where its line goes, which has the same
text there unless it is changed inside, but for those that stray, and one whose line is moved comes to the line behind
the moved ones, or to the end. -/
structure TakesMarks (e : LineEdit) (f g : Frame) : Prop where
  keeps : ∀ p ≤ f.length, f.text.lineAt p < f.text.lineCount → ¬ e.Strays f p →
    f.Brings g p (e.lineMove f.text.lineCount (f.text.lineAt p)) ∧
      (e ≠ .inside → ∀ n ∈ e.lineMove f.text.lineCount (f.text.lineAt p), g.line n = f.line (f.text.lineAt p))
  leaves : ∀ p ≤ f.length, ∀ first last destination, e = .move first last destination →
    first ≤ f.text.lineAt p ∧ f.text.lineAt p ≤ last →
      if last + 1 < f.text.lineCount then f.Brings g p (e.lineMove f.text.lineCount (last + 1))
      else f.Sends g p (some g.length)

section takesMarks
variable {e : LineEdit} {f g : Frame} {first last : Nat}

/-- What is done besides has nothing to do with text and marks of the user. -/
theorem TakesMarks.congr {h : Frame} (ht : e.TakesMarks f g) (htext : h.text = g.text)
    (ho : ∀ name, h.offsets (.named name) = g.offsets (.named name)) : e.TakesMarks f h where
  keeps p hp hline hstray := by
    obtain ⟨⟨offset, hs, hrel⟩, hkept⟩ := ht.keeps p hp hline hstray
    refine ⟨⟨offset, fun name hname => (ho name).trans (hs name hname), htext ▸ hrel⟩, fun he n hn => ?_⟩
    rw [Frame.line, htext]
    exact hkept he n hn
  leaves p hp first last destination he hmoved := by
    have hleft := ht.leaves p hp first last destination he hmoved
    split at hleft
    · next hbehind =>
      obtain ⟨offset, hs, hrel⟩ := hleft
      rw [if_pos hbehind]
      exact ⟨offset, fun name hname => (ho name).trans (hs name hname), htext ▸ hrel⟩
    · next hnone =>
      rw [if_neg hnone, Frame.length, htext]
      exact fun name hname => (ho name).trans (hleft name hname)

theorem TakesMarks.goToLine (ht : e.TakesMarks f g) (line : Nat) : e.TakesMarks f (g.goToLine line) :=
  ht.congr rfl fun _ => rfl

theorem strays_of_text {f' : Frame} (h : f'.text = f.text) (p : Nat) : e.Strays f' p ↔ e.Strays f p := by
  have htext : ∀ f : Frame, e.Strays f p ↔ e.Strays { text := f.text } p := fun f => by
    cases e <;> exact Iff.rfl
  rw [htext f', htext f, h]

/-- What is done before has nothing to do with them either. -/
theorem TakesMarks.of_eq {f' : Frame} (ht : e.TakesMarks f' g) (htext : f'.text = f.text)
    (ho : ∀ name, f'.offsets (.named name) = f.offsets (.named name)) : e.TakesMarks f g where
  keeps p hp hline hstray := by
    rw [Frame.length, ← htext] at hp
    rw [← htext] at hline
    rw [Frame.line, ← htext]
    obtain ⟨⟨offset, hs, hrel⟩, hkept⟩ := ht.keeps p hp hline fun h => hstray ((strays_of_text htext p).mp h)
    exact ⟨⟨offset, fun name hname => hs name ((ho name).trans hname), hrel⟩, hkept⟩
  leaves p hp first last destination he hmoved := by
    rw [Frame.length, ← htext] at hp
    rw [← htext] at hmoved ⊢
    have hleft := ht.leaves p hp first last destination he hmoved
    split at hleft
    · next hbehind =>
      obtain ⟨offset, hs, hrel⟩ := hleft
      rw [if_pos hbehind]
      exact ⟨offset, fun name hname => hs name ((ho name).trans hname), hrel⟩
    · next hnone =>
      rw [if_neg hnone]
      exact fun name hname => hleft name ((ho name).trans hname)

/-- An edit that all lines stay where they are in. -/
theorem takesMarks_of_stays (hi : Frame.Inside f g) (htext : e ≠ .inside → g.text = f.text)
    (hstays : ∀ line ≤ f.text.breakCount, e.lineMove f.text.lineCount line = some line ∧ ¬ e.Moves line) :
    e.TakesMarks f g where
  keeps p hp _ _ := by
    rw [(hstays _ (f.text.lineAt_le p)).1]
    refine ⟨hi.keeps p hp, fun he n hn => ?_⟩
    cases hn
    rw [Frame.line, htext he, Frame.line]
  leaves p _ _ _ _ he hmoved := by
    cases he
    exact absurd hmoved (hstays _ (f.text.lineAt_le p)).2

theorem takesMarks_of_inside (h : Frame.Inside f g) : inside.TakesMarks f g :=
  takesMarks_of_stays h (absurd rfl) fun _ _ => ⟨rfl, id⟩

theorem keeps_of_bringsLine {p : Nat} {line : Option Nat} (h : f.BringsLine g p line) :
    f.Brings g p line ∧ (e ≠ .inside → ∀ n ∈ line, g.line n = f.line (f.text.lineAt p)) :=
  ⟨h.brings, fun _ => h.text⟩

variable (hp : f.text.returnsPaired)
include hp

theorem takesMarks_put (n : Nat) (t : Text) : (put n t).TakesMarks f (f.putLines n t) where
  keeps _ hle hline hstray := keeps_of_bringsLine (Frame.bringsLine_putLines hp hle hline hstray)
  leaves _ _ _ _ _ he := by cases he

variable (hf : first ≤ last)
include hf

theorem takesMarks_cut : (cut first last).TakesMarks f (f.cutLines first last) := by
  rcases Nat.lt_or_ge f.text.breakCount first with hpast | hl
  · obtain ⟨htext, hoffsets⟩ := Frame.cutLines_past hpast hf
    refine takesMarks_of_stays ((Frame.Inside.refl hp).congr htext hoffsets) (fun _ => htext) fun line hline => ⟨?_, id⟩
    exact if_pos (Nat.lt_of_le_of_lt hline hpast)
  · exact ⟨fun p hle hline hstray => keeps_of_bringsLine (Frame.bringsLine_cutLines hp hf hl hle hline hstray), nofun⟩

theorem takesMarks_change (t : Text) :
    (change first last (t ++ f.eol)).TakesMarks f (f.changeLines first last t) where
  keeps p hle hline hstray := by
    refine keeps_of_bringsLine ?_
    unfold Strays at hstray
    simp only [not_or, not_and, Nat.not_le] at hstray
    rcases Nat.lt_or_ge f.text.breakCount first with hpast | hl
    · have hin := Nat.lt_of_le_of_lt (f.text.lineAt_le p) hpast
      have hstays : (change first last (t ++ f.eol)).lineMove f.text.lineCount (f.text.lineAt p) =
          some (f.text.lineAt p) := by
        simp [lineMove, LineMove.andThen, LineMove.cutting_of_lt hin, LineMove.splice, hin]
      rw [hstays]
      exact Frame.bringsLine_changeLines_past hpast hf hp (hstray.2 hpast)
    · exact Frame.bringsLine_changeLines hp hf hl hle hline hstray.1
  leaves _ _ _ _ _ he := by cases he

theorem takesMarks_move {destination : Nat} (ho : destination ≤ first ∨ last + 1 < destination) :
    (move first last destination).TakesMarks f (f.moveLines first last destination) := by
  rcases Nat.lt_or_ge f.text.breakCount first with hpast | hl
  · obtain ⟨htext, hoffsets⟩ := Frame.moveLines_past hpast hf destination
    refine takesMarks_of_stays ((Frame.Inside.refl hp).congr htext hoffsets) (fun _ => htext) fun line hline => ?_
    have hcount := f.text.lineCount_le_segments
    rw [f.text.segments_length] at hcount
    have hin := Nat.lt_of_le_of_lt hline hpast
    have hnone : min (last + 1) f.text.lineCount - first = 0 := by omega
    refine ⟨?_, fun h => absurd h.1 (Nat.not_le.mpr hin)⟩
    rw [lineMove, LineMove.moving_of_lt hin, hnone]
    simp [LineMove.splice]
  · refine ⟨fun p hle hline hstray =>
      keeps_of_bringsLine (Frame.bringsLine_moveLines hp hf hl ho hle hline hstray), ?_⟩
    intro p hle _ _ _ he hmoved
    cases he
    exact Frame.moveLines_leaves hp hf hl ho hle hmoved

end takesMarks

end LineEdit
end ExEditor
