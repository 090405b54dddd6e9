import ExEditor.Proofs.Frame.InsideLines
import ExEditor.Proofs.Frame.OpenEnd
import ExEditor.Proofs.Text.Places

/-! The marks of the user through edits of lines. An edit inside lines keeps each mark on its line. So does an edit of
whole lines, or it removes the mark with the line, but for marks at offsets where the edit begins or ends although it
is of other lines: those at the end of a text that has no last break, and those at the end of the line in front of the
last ones of such a text. -/
namespace ExEditor

namespace LineMove
variable {first last line : Nat}

/-- Lines are taken out. -/
def cutting (first last : Nat) : LineMove := .splice first (last + 1 - first) 0

theorem cutting_of_lt (h : line < first) : cutting first last line = some line := if_pos h

theorem cutting_of_mem (h : first ≤ line ∧ line ≤ last) : cutting first last line = none := by
  rw [cutting, splice, if_neg (by omega), if_pos (by omega)]

theorem cutting_of_gt (hf : first ≤ last) (h : last < line) :
    cutting first last line = some (line - (last + 1 - first)) := by
  rw [cutting, splice, if_neg (by omega), if_neg (by omega), Nat.add_zero]

end LineMove

namespace Marks
variable {a b p : Nat}

theorem afterDelete_between (ha : a ≤ p) (hb : p ≤ b) : afterDelete a b p = a := by
  simp only [afterDelete]
  split
  · omega
  · split <;> omega

theorem afterDelete_behind (hab : a ≤ b) (hb : b ≤ p) : afterDelete a b p = a + (p - b) := by
  simp only [afterDelete]
  split
  · omega
  · rw [if_neg (by omega)]
    omega

end Marks

namespace Frame

/-- Where an edit takes the mark of the user that is set at an offset. -/
def Sends (f g : Frame) (offset : Nat) (offset' : Option Nat) : Prop :=
  ∀ name, f.offsets (.named name) = [offset] → g.offsets (.named name) = offset'.toList

/-- To which line an edit takes the mark of the user that is set at an offset. -/
def Brings (f g : Frame) (offset : Nat) (line : Option Nat) : Prop :=
  ∃ offset', f.Sends g offset offset' ∧ Option.Rel g.text.Lies offset' line

/-- An edit takes the mark of the user that is set at an offset to a line with the text of its own, or away. -/
structure BringsLine (f g : Frame) (offset : Nat) (line : Option Nat) : Prop where
  brings : f.Brings g offset line
  text : ∀ n ∈ line, g.line n = f.line (f.text.lineAt offset)

section sends
variable {f g h : Frame} {p : Nat}

theorem Sends.refl (f : Frame) (p : Nat) : f.Sends f p (some p) := fun _ hp => hp

theorem Sends.trans {p' : Nat} {p'' : Option Nat} (h₁ : f.Sends g p (some p')) (h₂ : g.Sends h p' p'') :
    f.Sends h p p'' := fun name hp => h₂ name (h₁ name hp)

theorem delete_self (f : Frame) (a : Nat) : f.delete a a = f := by
  rw [delete]
  exact if_pos (by simp)

theorem sends_insert {a : Nat} (ha : a ≤ f.length) (t : Text) (p : Nat) :
    f.Sends (f.insert a t) p (some (Marks.afterInsert a t.length p)) := fun name hp => by
  rw [offsets_insert f _ ha, hp]
  rfl

theorem sends_delete {a b : Nat} (hab : a ≤ b) (hb : b ≤ f.length) (p : Nat) :
    f.Sends (f.delete a b) p (some (Marks.afterDelete a b p)) := fun name hp => by
  rw [offsets_delete f _ hab hb, hp]
  rfl

theorem sends_replace {a b : Nat} (hab : a ≤ b) (hb : b ≤ f.length) (t : Text) (p : Nat) :
    f.Sends (f.replace a b t) p (some (Marks.afterInsert a t.length (Marks.afterDelete a b p))) := fun name hp => by
  rw [offsets_replace f _ hab hb, hp]
  rfl

theorem sends_cut {a b : Nat} (hab : a ≤ b) (hb : b ≤ f.length) (p : Nat) :
    f.Sends ((f.clearMarksWithin a b).delete a b) p
      (if a ≤ p ∧ p < b then none else some (Marks.afterDelete a b p)) := fun name hp => by
  rw [offsets_delete (f.clearMarksWithin a b) _ hab hb, offsets_clearMarksWithin _ _ rfl, hp]
  by_cases h : a ≤ p ∧ p < b
  · simp [h]
  · rw [if_neg h]
    have hstays : !(decide (a ≤ p) && decide (p < b)) := by
      rw [← Bool.decide_and]
      exact Bool.not_eq_true' _ ▸ decide_eq_false h
    rw [List.filter_cons, if_pos hstays]
    rfl

theorem Sends.brings {p' : Nat} {line : Option Nat} (hs : f.Sends g p (some p')) (hb : g.Brings h p' line) :
    f.Brings h p line := by
  obtain ⟨p'', hs', hrel⟩ := hb
  exact ⟨p'', hs.trans hs', hrel⟩

theorem Brings.goToLine {line : Option Nat} (hb : f.Brings g p line) (n : Nat) : f.Brings (g.goToLine n) p line := hb

theorem BringsLine.goToLine {line : Option Nat} (hb : f.BringsLine g p line) (n : Nat) :
    f.BringsLine (g.goToLine n) p line := ⟨hb.brings.goToLine n, hb.text⟩

theorem Sends.bringsLine {p' : Nat} {line : Option Nat} (hs : f.Sends g p (some p'))
    (htext : g.line (g.text.lineAt p') = f.line (f.text.lineAt p)) (hb : g.BringsLine h p' line) :
    f.BringsLine h p line := ⟨hs.brings hb.brings, fun n hn => (hb.text n hn).trans htext⟩

theorem Sends.gone (hs : f.Sends g p none) : f.BringsLine g p none := ⟨⟨none, hs, .none⟩, nofun⟩

/-- In front of an edit a mark stays on its line. -/
theorem Sends.before (hs : f.Sends g p (some p)) {a : Nat} (hpa : p < a) (ha : a ≤ f.length) {rest : Text}
    (ht : g.text = f.text.take a ++ rest) :
    p < g.length ∧ g.text.lineAt p = f.text.lineAt p ∧ f.Brings g p (some (f.text.lineAt p)) := by
  have hline : g.text.lineAt p = f.text.lineAt p := by rw [ht, Text.lineAt_take_append hpa ha]
  have hlt : p < g.length := by
    rw [length, ht, List.length_append, List.length_take_of_le ha]
    omega
  exact ⟨hlt, hline, some p, hs, .some ⟨Nat.le_of_lt hlt, hline⟩⟩

end sends

section inside
variable {f g h : Frame} {n : Nat}

/-- An edit inside lines: all of them stay, and the marks of the user on them. -/
structure Inside (f g : Frame) : Prop where
  paired : g.text.returnsPaired
  breakCount : g.text.breakCount = f.text.breakCount
  keeps : ∀ p ≤ f.length, f.Brings g p (some (f.text.lineAt p))

theorem Inside.refl (hp : f.text.returnsPaired) : Inside f f :=
  ⟨hp, rfl, fun p hp => ⟨some p, .refl f p, .some ⟨hp, rfl⟩⟩⟩

theorem Inside.trans (h₁ : Inside f g) (h₂ : Inside g h) : Inside f h where
  paired := h₂.paired
  breakCount := h₂.breakCount.trans h₁.breakCount
  keeps p hp := by
    obtain ⟨offset, hs, hrel⟩ := h₁.keeps p hp
    cases hrel with
    | some hlies => exact hs.brings (hlies.line ▸ h₂.keeps _ hlies.le)

/-- What is done besides has nothing to do with text and marks of the user. -/
theorem Inside.congr (hi : Inside f g) (ht : h.text = g.text)
    (ho : ∀ name, h.offsets (.named name) = g.offsets (.named name)) : Inside f h where
  paired := ht ▸ hi.paired
  breakCount := ht ▸ hi.breakCount
  keeps p hp := by
    obtain ⟨offset, hs, hrel⟩ := hi.keeps p hp
    exact ⟨offset, fun name hname => (ho name).trans (hs name hname), ht ▸ hrel⟩

/-- A part of a line is replaced by a text without breaks. -/
theorem inside_replace (hp : f.text.returnsPaired) (hn : n ≤ f.text.breakCount) {k : Nat}
    (hk : k ≤ (f.line n).length) {u : Text} (hu : u.IsPlain) :
    Inside f (f.replace (f.lineStart n) (f.lineStart n + k) u) := by
  have hab : f.lineStart n ≤ f.lineStart n + k := Nat.le_add_right _ _
  have hend : f.lineStart n + k ≤ f.lineEnd n := Nat.add_le_add_left hk _
  have hb : f.lineStart n + k ≤ f.length := Nat.le_trans hend (f.text.lineEnd_le n)
  have hreworded := reworded_replace hp (Text.breakCount_eq_count hp ▸ hn) hk hu
  have htext := f.replace_text hab hb u
  have hbreaks : (f.replace (f.lineStart n) (f.lineStart n + k) u).text.breakCount = f.text.breakCount := by
    rw [Text.breakCount_eq_count hreworded.paired, hreworded.count, Text.breakCount_eq_count hp]
  have hline : ∀ p, f.lineStart n ≤ p → p ≤ f.lineStart n + k → f.text.lineAt p = n := fun p hfirst hlast =>
    Text.lineAt_eq hn hfirst fun hlt =>
      Nat.lt_of_le_of_lt (Nat.le_trans hlast hend) (Text.lineEnd_lt_lineStart hlt)
  refine ⟨hreworded.paired, hbreaks, fun p hle => ?_⟩
  have hsends := sends_replace hab hb u p
  rcases Nat.lt_or_ge p (f.lineStart n) with hlt | hge
  · rw [Marks.afterDelete, if_pos (Nat.le_of_lt hlt), Marks.afterInsert, if_neg (by omega)] at hsends
    exact (hsends.before hlt (f.lineStart_le n) htext).2.2
  -- What stands in the part that is replaced comes to stand at the end of what replaces it.
  obtain ⟨q, hq, hpq, hafter⟩ : ∃ q, (f.lineStart n + k ≤ q ∧ q ≤ f.length) ∧ f.text.lineAt q = f.text.lineAt p ∧
      Marks.afterInsert (f.lineStart n) u.length (Marks.afterDelete (f.lineStart n) (f.lineStart n + k) p) =
        f.lineStart n + u.length + (q - (f.lineStart n + k)) := by
    rcases Nat.lt_or_ge (f.lineStart n + k) p with hbehind | hin
    · refine ⟨p, ⟨Nat.le_of_lt hbehind, hle⟩, rfl, ?_⟩
      rw [Marks.afterDelete_behind hab (Nat.le_of_lt hbehind), Marks.afterInsert, if_pos (by omega)]
      omega
    · refine ⟨f.lineStart n + k, ⟨Nat.le_refl _, hb⟩, by rw [hline _ hab (Nat.le_refl _), hline p hge hin], ?_⟩
      rw [Marks.afterDelete_between hge hin, Marks.afterInsert, if_pos (Nat.le_refl _)]
      omega
  rw [hafter] at hsends
  refine ⟨_, hsends, .some ?_⟩
  rw [htext] at hbreaks ⊢
  exact Text.Lies.behind ⟨hq.2, hpq⟩ (f.lineStart_le n) hq.1 (by rw [hbreaks])

theorem line_of_breakCount_lt (hn : f.text.breakCount < n) : f.line n = [] := by
  rw [line, Text.line, Text.fromLine_eq_nil hn]
  rfl

theorem inside_indentLine (hp : f.text.returnsPaired) {indent : Text} (hi : indent.IsPlain) (n : Nat) :
    Inside f (indentLine indent f n) := by
  unfold indentLine
  split
  · exact .refl hp
  · next hne =>
    have hn : n ≤ f.text.breakCount := by
      by_contra hlt
      exact hne (line_of_breakCount_lt (Nat.lt_of_not_le hlt))
    have hinside := inside_replace hp hn (Nat.zero_le _) hi
    rwa [Nat.add_zero, f.replace_self] at hinside

theorem inside_outdentLine (hp : f.text.returnsPaired) (columns tabWidth n : Nat) :
    Inside f (outdentLine columns tabWidth f n) := by
  rcases Nat.lt_or_ge f.text.breakCount n with hlt | hge
  · have hnone : outdentLine columns tabWidth f n = f := by
      rw [outdentLine, line_of_breakCount_lt hlt, outdentLength, Nat.add_zero, delete]
      exact if_pos (by simp)
    rw [hnone]
    exact .refl hp
  · exact inside_replace hp hge (outdentLength_le columns tabWidth 0 (f.line n)) Text.isPlain_nil

/-- Lines that are changed one after the other, each inside. -/
theorem inside_eachLine (hp : f.text.returnsPaired) {change : Frame → Nat → Frame}
    (h : ∀ (g : Frame) n, g.text.returnsPaired → Inside g (change g n)) (first last : Nat) :
    Inside f (f.eachLine change first last) := by
  have hopen : Inside f f.openGroup :=
    (Inside.refl hp).congr f.openGroup_text fun _ => f.offsets_openGroup _
  have hall : Inside f ((lineRange first last).foldl change f.openGroup) :=
    List.foldlRecOn (motive := Inside f) _ change hopen fun g hg n _ => hg.trans (h g n hg.paired)
  exact hall.congr rfl fun _ => rfl

end inside

section put
variable {f : Frame} {p n : Nat} {t : Text}

theorem putLines_nil (f : Frame) (n : Nat) : f.putLines n [] = f := if_pos rfl

/-- A text is put at or behind the start of a line: there, unless this is the end of the text. Behind a last line that
has no break a break comes first. -/
theorem putLines_eq_insert (f : Frame) (n : Nat) (ht : t ≠ []) :
    ∃ a u, f.putLines n t = f.insert a u ∧ f.lineStart n ≤ a ∧ a ≤ f.length ∧
      (f.lineStart n < f.length → a = f.lineStart n ∧ u = if t.endsInBreak then t else t ++ f.eol) ∧
      (0 < n → a = f.length → ¬ f.text.endsInBreak → ∀ c ∈ u.head?, Text.isBreak c) := by
  have hle := f.lineStart_le n
  unfold putLines
  rw [if_neg ht]
  split
  · next hempty => exact ⟨0, t, rfl, by omega, Nat.zero_le _, fun hlt => by omega, fun hn => by omega⟩
  dsimp only
  split
  · next hend =>
    refine ⟨f.length, _, rfl, hle, Nat.le_refl _, fun hlt => by omega, fun _ _ _ c hc => ?_⟩
    rcases f.eol_eq with heol | heol <;> rw [heol] at hc <;> cases hc <;> rfl
  next hin =>
  have hclosed : f.lineStart n = f.length → f.text.endsInBreak := fun heq =>
    Decidable.not_not.mp fun hopen => hin ⟨Nat.le_of_eq heq.symm, hopen⟩
  split
  · next hopen =>
    exact ⟨_, _, rfl, Nat.le_refl _, hle, fun _ => ⟨rfl, by rw [if_neg hopen.2]⟩,
      fun _ heq hnone => absurd (hclosed heq) hnone⟩
  · next hopen =>
    refine ⟨_, _, rfl, Nat.le_refl _, hle, fun hlt => ⟨rfl, ?_⟩, fun _ heq hnone => absurd (hclosed heq) hnone⟩
    rw [if_pos (by simpa [hlt] using hopen)]

theorem insert_text_of_le {a : Nat} (ha : a ≤ f.length) (u : Text) :
    (f.insert a u).text = f.text.take a ++ (u ++ f.text.drop a) := by
  rw [insert_text, clamp, Nat.min_eq_left ha]

/-- Lines in front of those that are put keep their texts. -/
theorem line_putLines_before (hp : f.text.returnsPaired) {k : Nat} (hk : k < f.text.lineCount) (hkn : k < n)
    (t : Text) : (f.putLines n t).line k = f.line k := by
  by_cases ht : t = []
  · rw [ht, putLines_nil]
  obtain ⟨a, u, hput, hstart, ha, -, hbreak⟩ := f.putLines_eq_insert n ht
  have hcount := f.text.lineCount_le_segments
  rw [f.text.segments_length] at hcount
  have hnext : f.text.lineStart (k + 1) ≤ a := Nat.le_trans (f.lineStart_mono hkn) hstart
  rw [line, hput, insert_text_of_le ha]
  refine Text.line_take_append hp (by omega) (Nat.le_trans (f.text.lineEnd_le_lineStart k) hnext) ha fun heq c hc => ?_
  -- Only the last line can end where a text is put, and only if it has no break.
  have hlast : f.text.breakCount ≤ k := by
    by_contra hlt
    have hbehind := Text.lineEnd_lt_lineStart (Nat.lt_of_not_le hlt)
    omega
  have hend : a = f.length := heq.trans (Text.lineEnd_of_breakCount_le hlast)
  have hopen : ¬ f.text.endsInBreak := fun hends => by
    rw [Text.lineCount, if_pos hends] at hk
    omega
  rw [List.drop_eq_nil_of_le (Nat.le_of_eq hend.symm), List.append_nil] at hc
  exact hbreak (by omega) hend hopen c hc

/-- Whether a mark is at or behind the place where a text is put, and yet not on a line behind it: the text is put
at the end of its line, or there is no text, or its line comes to share a break with what is put. -/
def PutStrays (f : Frame) (n : Nat) (t : Text) (p : Nat) : Prop :=
  t ≠ [] ∧ f.lineStart n ≤ p ∧
    (f.text.lineAt p < n ∨ f.text = [] ∨ Text.Meets t (f.text.drop (f.lineStart n)))

instance (f : Frame) (n : Nat) (t : Text) (p : Nat) : Decidable (f.PutStrays n t p) :=
  inferInstanceAs (Decidable (_ ∧ _))

/-- Lines that are inserted in front of a line take the marks behind them along by their breaks, unless one is
shared. -/
theorem bringsLine_insert_behind (hp : f.text.returnsPaired) (hle : p ≤ f.length) (hn : n ≤ f.text.lineAt p) {u : Text}
    (hends : u.endsInBreak) (hu : ¬ Text.Meets u (f.text.drop (f.lineStart n))) :
    f.BringsLine (f.insert (f.lineStart n) u) p (some (f.text.lineAt p + u.breakCount)) := by
  have hge : f.lineStart n ≤ p := Nat.le_trans (f.lineStart_mono hn) (f.text.lineStart_lineAt_le p)
  have hin : n ≤ f.text.breakCount := Nat.le_trans hn (f.text.lineAt_le p)
  have hsends := sends_insert (f.lineStart_le n) u p
  have hbreaks : Text.breakCount (f.text.take (f.lineStart n) ++ (u ++ f.text.drop (f.lineStart n))) =
      f.text.breakCount + u.breakCount := Text.breakCount_insert_lineStart hp n hu
  have hshift : f.text.lineAt p + Text.breakCount (f.text.take (f.lineStart n) ++ u ++ f.text.drop (f.lineStart n)) =
      f.text.lineAt p + u.breakCount + f.text.breakCount := by
    rw [List.append_assoc]
    omega
  have hne : u ≠ [] := by
    rintro rfl
    cases hends
  have hwhole : Text.IsWhole (f.text.take (f.lineStart n) ++ u) := .inr (by rwa [Text.endsInBreak_append hne])
  have hmeets : ¬ Text.Meets (f.text.take (f.lineStart n) ++ u) (f.text.drop (f.lineStart n)) := by
    rw [Text.Meets, List.getLast?_append_of_ne_nil _ hne]
    exact hu
  rw [Marks.afterInsert, if_pos hge, show p + u.length = f.lineStart n + u.length + (p - f.lineStart n) by omega]
    at hsends
  refine ⟨⟨_, hsends, .some ?_⟩, fun n' hn' => ?_⟩
  · rw [insert_text_of_le (f.lineStart_le n)]
    exact Text.Lies.behind ⟨hle, rfl⟩ (f.lineStart_le n) hge (List.append_assoc _ _ _ ▸ hshift)
  · cases hn'
    rw [line, insert_text_of_le (f.lineStart_le n), ← List.append_assoc]
    exact Text.line_append_fromLine hwhole hn hin hmeets hshift

theorem not_meets_append_eol (f : Frame) (t u : Text) : ¬ Text.Meets (t ++ f.eol) u := fun h => by
  rcases f.eol_eq with heol | heol <;> simp [Text.Meets, heol] at h

/-- Lines that are put take the marks behind them along. -/
theorem bringsLine_putLines (hp : f.text.returnsPaired) (hle : p ≤ f.length)
    (hline : f.text.lineAt p < f.text.lineCount) (hstray : ¬ f.PutStrays n t p) :
    f.BringsLine (f.putLines n t) p (LineMove.splice n 0 t.addedLines (f.text.lineAt p)) := by
  by_cases ht : t = []
  · have hmove : LineMove.splice n 0 t.addedLines (f.text.lineAt p) = some (f.text.lineAt p) := by
      simp [LineMove.splice, Text.addedLines, ht]
    rw [hmove, ht, putLines_nil]
    exact ⟨⟨some p, .refl f p, .some ⟨hle, rfl⟩⟩, fun n hn => by cases hn; rfl⟩
  obtain ⟨a, u, hput, hstart, ha, hhere, -⟩ := f.putLines_eq_insert n ht
  have hsends := sends_insert ha u p
  rw [LineMove.splice]
  rcases Nat.lt_or_ge p (f.lineStart n) with hlt | hge
  · have hbefore := (Text.lt_lineStart_iff (Nat.lt_of_lt_of_le hlt (f.lineStart_le n))).mp hlt
    rw [Marks.afterInsert, if_neg (by omega), ← hput] at hsends
    have htext : (f.putLines n t).text = f.text.take a ++ (u ++ f.text.drop a) := by rw [hput, insert_text_of_le ha]
    rw [if_pos hbefore]
    refine ⟨(hsends.before (Nat.lt_of_lt_of_le hlt hstart) ha htext).2.2, fun n' hn' => ?_⟩
    cases hn'
    exact line_putLines_before hp hline hbefore t
  · unfold PutStrays at hstray
    simp only [ht, hge, ne_eq, not_false_eq_true, true_and, not_or, Nat.not_lt] at hstray
    obtain ⟨hn, hne, hmeets⟩ := hstray
    have hlate : f.lineStart n < f.length :=
      Nat.lt_of_le_of_lt (f.lineStart_mono hn) (Text.lineStart_lt_length hline hne)
    obtain ⟨rfl, hu⟩ := hhere hlate
    have hends : u.endsInBreak := by
      rw [hu]
      split
      · assumption
      · exact f.endsInBreak_eol t
    have hapart : ¬ Text.Meets u (f.text.drop (f.lineStart n)) := fun h => by
      rw [hu] at h
      split at h
      · exact hmeets h
      · exact f.not_meets_append_eol t _ h
    have hadded : Text.breakCount u = t.addedLines := by
      rw [hu, Text.breakCount_completed f.eol_eq, Text.addedLines, if_neg ht]
    have hbehind := bringsLine_insert_behind hp hle hn hends hapart
    rw [if_neg (by omega), if_neg (by omega), Nat.sub_zero, hput]
    rwa [hadded] at hbehind

/-- A mark at the end of the text stays there. -/
theorem Sends.putLines_of_end {f' : Frame} (hs : f'.Sends f p (some f.length)) (n : Nat) (t : Text) :
    f'.Sends (f.putLines n t) p (some (f.putLines n t).length) := by
  by_cases ht : t = []
  · rwa [ht, putLines_nil]
  · obtain ⟨a, u, hput, -, ha, -⟩ := f.putLines_eq_insert n ht
    have hgrown : (f.insert a u).length = f.length + u.length := by
      rw [length, insert_text_of_le ha, List.length_append, List.length_append,
        List.length_take_of_le ha, List.length_drop]
      change a + (u.length + (f.length - a)) = _
      omega
    have hinsert := sends_insert ha u f.length
    rw [Marks.afterInsert, if_pos ha, ← hgrown] at hinsert
    rw [hput]
    exact hs.trans hinsert

/-- A mark that is gone stays so. -/
theorem Sends.putLines_of_none {f' : Frame} (hs : f'.Sends f p none) (n : Nat) (t : Text) :
    f'.Sends (f.putLines n t) p none := fun name hname => by
  by_cases ht : t = []
  · rw [ht, putLines_nil]
    exact hs name hname
  · obtain ⟨a, u, hput, -, ha, -⟩ := f.putLines_eq_insert n ht
    rw [hput, offsets_insert f _ ha, hs name hname]
    rfl

/-- In front of some character a mark is led astray only by a break that is shared. -/
theorem not_putStrays_of_lt (h : p < f.length) (ht : ∀ u, ¬ Text.Meets t u) (n : Nat) : ¬ f.PutStrays n t p := by
  rintro ⟨-, hle, hbefore | hnil | hmeets⟩
  · exact Nat.not_lt.mpr hle ((Text.lt_lineStart_iff h).mpr hbefore)
  · rw [length, hnil] at h
    cases h
  · exact ht _ hmeets

end put

section cut
variable {f : Frame} {p first last : Nat} {t : Text}

/-- Whether an offset is at the end of the line in front of lines that are cut, in the break that goes with them. -/
def InCutBreak (f : Frame) (first last p : Nat) : Prop := (f.deletionSpan first last).1 ≤ p ∧ p < f.lineStart first

instance (f : Frame) (first last p : Nat) : Decidable (f.InCutBreak first last p) :=
  inferInstanceAs (Decidable (_ ∧ _))

/-- Whether a mark goes with lines that it is not on, or is on lines that are cut and stays, being at the end of the
text. -/
def CutStrays (f : Frame) (first last p : Nat) : Prop :=
  f.InCutBreak first last p ∨
    (first ≤ f.text.lineAt p ∧ f.text.lineAt p ≤ last) ∧ f.lineStart (last + 1) ≤ p

instance (f : Frame) (first last p : Nat) : Decidable (f.CutStrays first last p) :=
  inferInstanceAs (Decidable (_ ∨ _))

theorem deletionSpan_fst_le (f : Frame) (first last : Nat) : (f.deletionSpan first last).1 ≤ f.lineStart first := by
  unfold deletionSpan linesSpan
  dsimp only
  split
  · next h =>
    have hnext := f.text.lineEnd_le_lineStart (first - 1)
    rwa [Nat.sub_add_cancel h.2.1] at hnext
  · exact Nat.le_refl _

/-- Where lines follow, the lines that are cut take no break but their own. -/
theorem deletionSpan_of_lt (h : f.lineStart (last + 1) < f.length) :
    f.deletionSpan first last = (f.lineStart first, f.lineStart (last + 1)) := by
  unfold deletionSpan linesSpan
  dsimp only
  rw [if_neg fun hend => Nat.ne_of_lt h hend.1]

/-- Past the end of the text there are no lines to cut. -/
theorem deletionSpan_of_breakCount_lt (h : f.text.breakCount < first) (hf : first ≤ last) :
    f.deletionSpan first last = (f.length, f.length) := by
  have hstart : f.lineStart first = f.length := Text.lineStart_of_breakCount_lt h
  have hstop : f.lineStart (last + 1) = f.length := Text.lineStart_of_breakCount_lt (by omega)
  have hend : f.lineEnd (first - 1) = f.length := Text.lineEnd_of_breakCount_le (by omega)
  unfold deletionSpan linesSpan
  rw [hstart, hstop, hend]
  exact ite_self _

/-- What is left of the text when lines are cut. -/
def cutText (f : Frame) (first last : Nat) : Text :=
  f.text.take (f.deletionSpan first last).1 ++ f.text.drop (f.lineStart (last + 1))

theorem delete_span_text (f : Frame) (hf : first ≤ last) :
    (f.delete (f.deletionSpan first last).1 (f.deletionSpan first last).2).text = f.cutText first last := by
  rw [delete_text f (deletionSpan_le f hf) (f.deletionSpan_snd_le first last), deletionSpan_snd, cutText]

/-- Lines in front of those that are cut keep their texts. -/
theorem line_cutText_before (hp : f.text.returnsPaired) (hl : first ≤ f.text.breakCount) {k : Nat} (hk : k < first)
    (last : Nat) : (f.cutText first last).line k = f.line k := by
  have hnext := f.text.lineEnd_mono (Nat.le_sub_one_of_lt hk)
  rw [cutText, deletionSpan_fst]
  split
  · next h =>
    refine Text.line_take_append hp (by omega) hnext (f.text.lineEnd_le _) fun _ c hc => ?_
    rw [h.1, length, List.drop_length] at hc
    cases hc
  · have hlt : f.text.lineEnd k < f.lineStart first :=
      Nat.lt_of_lt_of_le (Text.lineEnd_lt_lineStart (by omega)) (f.lineStart_mono hk)
    exact Text.line_take_append hp (by omega) (Nat.le_of_lt hlt) (f.lineStart_le first) fun heq => by omega

/-- A mark behind lines that are cut follows its line. -/
structure BehindCut (f : Frame) (first last p : Nat) : Prop where
  span : f.deletionSpan first last = (f.lineStart first, f.lineStart (last + 1))
  le : f.lineStart (last + 1) ≤ p
  lies : (f.cutText first last).Lies (f.lineStart first + (p - f.lineStart (last + 1)))
    (f.text.lineAt p - (last + 1 - first))
  text : (f.cutText first last).line (f.text.lineAt p - (last + 1 - first)) = f.line (f.text.lineAt p)
  lineCount : (f.cutText first last).lineCount + (last + 1 - first) = f.text.lineCount
  ne : f.cutText first last ≠ []

theorem behindCut (hp : f.text.returnsPaired) (hf : first ≤ last) (hle : p ≤ f.length)
    (hline : f.text.lineAt p < f.text.lineCount) (hlast : last < f.text.lineAt p) : f.BehindCut first last p := by
  have hbreaks : last + 1 ≤ f.text.breakCount := Nat.le_trans hlast (f.text.lineAt_le p)
  have hne : f.text ≠ [] := by
    intro hnil
    rw [hnil] at hbreaks
    cases hbreaks
  have hlt : f.lineStart (last + 1) < f.length :=
    Nat.lt_of_le_of_lt (f.lineStart_mono hlast) (Text.lineStart_lt_length hline hne)
  have hspan : f.deletionSpan first last = (f.lineStart first, f.lineStart (last + 1)) := deletionSpan_of_lt hlt
  have hstart : f.lineStart (last + 1) ≤ p := (Text.lineStart_le_iff_le_lineAt hbreaks hle).mpr hlast
  have htext : f.cutText first last = f.text.take (f.lineStart first) ++ f.text.drop (f.lineStart (last + 1)) := by
    rw [cutText, hspan]
  have hcut : Text.breakCount (f.text.take (f.lineStart first) ++ f.text.drop (f.lineStart (last + 1))) +
      (last + 1 - first) = f.text.breakCount := Text.breakCount_cut hp (Nat.le_succ_of_le hf) hbreaks
  have hshift : f.text.lineAt p + Text.breakCount (f.text.take (f.lineStart first) ++
      f.text.drop (f.lineStart (last + 1))) = f.text.lineAt p - (last + 1 - first) + f.text.breakCount := by omega
  have hrest : f.text.drop (f.lineStart (last + 1)) ≠ [] :=
    List.ne_nil_of_length_pos (by rw [List.length_drop]; exact Nat.sub_pos_of_lt hlt)
  have hends : f.text.endsInBreak = (f.cutText first last).endsInBreak := by
    have hwhole := Text.endsInBreak_append (t := f.text.take (f.lineStart (last + 1))) hrest
    rw [List.take_append_drop] at hwhole
    rw [htext, Text.endsInBreak_append hrest, hwhole]
  refine ⟨hspan, hstart, ?_, ?_, ?_, htext ▸ List.append_ne_nil_of_right_ne_nil _ hrest⟩
  · rw [htext]
    exact Text.Lies.behind (u := []) ⟨hle, rfl⟩ (f.lineStart_le first) hstart hshift
  · have hwhole := (Text.take_lineStart_whole (t := f.text) (n := first) (by rw [Text.segments_length]; omega)).2
    rw [htext]
    exact Text.line_append_fromLine hwhole hlast hbreaks
      (Text.not_meets_of_returnsPaired (Text.returnsPaired_take_lineStart hp first) _) hshift
  · rw [Text.lineCount, Text.lineCount, ← hends, htext]
    omega

/-- Lines that are cut keep the marks on other lines, and take those on them away. -/
theorem sends_cutLines (hp : f.text.returnsPaired) (hf : first ≤ last) (hl : first ≤ f.text.breakCount)
    (hle : p ≤ f.length) (hline : f.text.lineAt p < f.text.lineCount) (hstray : ¬ f.CutStrays first last p) :
    (f.text.lineAt p < first ∧ p < (f.deletionSpan first last).1 ∧ f.Sends (f.cutLines first last) p (some p)) ∨
    ((first ≤ f.text.lineAt p ∧ f.text.lineAt p ≤ last) ∧ f.Sends (f.cutLines first last) p none) ∨
    (last < f.text.lineAt p ∧ f.BehindCut first last p ∧
      f.Sends (f.cutLines first last) p (some (f.lineStart first + (p - f.lineStart (last + 1))))) := by
  have hspan := f.deletionSpan_le hf
  have hsends := sends_cut hspan (f.deletionSpan_snd_le first last) p
  rw [← cutLines_eq, deletionSpan_snd] at hsends
  rw [deletionSpan_snd] at hspan
  have hfront := f.deletionSpan_fst_le first last
  unfold CutStrays InCutBreak at hstray
  rcases Nat.lt_or_ge p (f.deletionSpan first last).1 with hlt | hge
  · have hbefore : f.text.lineAt p < first :=
      (Text.lt_lineStart_iff (Nat.lt_of_lt_of_le hlt (Nat.le_trans hfront (f.lineStart_le first)))).mp
        (Nat.lt_of_lt_of_le hlt hfront)
    rw [if_neg (by omega), Marks.afterDelete, if_pos (Nat.le_of_lt hlt)] at hsends
    exact .inl ⟨hbefore, hlt, hsends⟩
  have hfirst : first ≤ f.text.lineAt p := by
    refine (Text.lineStart_le_iff_le_lineAt (by omega) hle).mp ?_
    change f.lineStart first ≤ p
    omega
  rcases Nat.lt_or_ge last (f.text.lineAt p) with hlast | hlast
  · have hbehind := behindCut hp hf hle hline hlast
    have hstart := hbehind.le
    rw [hbehind.span] at hsends hge hspan
    dsimp only at hsends hge hspan
    rw [if_neg (by omega), Marks.afterDelete_behind hspan hstart] at hsends
    exact .inr (.inr ⟨hlast, hbehind, hsends⟩)
  · rw [if_pos (by omega)] at hsends
    exact .inr (.inl ⟨⟨hfirst, hlast⟩, hsends⟩)

theorem bringsLine_cutLines (hp : f.text.returnsPaired) (hf : first ≤ last) (hl : first ≤ f.text.breakCount)
    (hle : p ≤ f.length) (hline : f.text.lineAt p < f.text.lineCount) (hstray : ¬ f.CutStrays first last p) :
    f.BringsLine (f.cutLines first last) p (LineMove.cutting first last (f.text.lineAt p)) := by
  have htext : (f.cutLines first last).text = f.cutText first last := f.cutLines_text hf
  have hspan := Nat.le_trans (f.deletionSpan_fst_le first last) (f.lineStart_le first)
  rcases sends_cutLines hp hf hl hle hline hstray with ⟨hk, hlt, hs⟩ | ⟨hk, hs⟩ | ⟨hk, hbehind, hs⟩
  · rw [LineMove.cutting_of_lt hk]
    refine ⟨(hs.before hlt hspan htext).2.2, fun n hn => ?_⟩
    cases hn
    rw [line, htext]
    exact line_cutText_before hp hl hk last
  · rw [LineMove.cutting_of_mem hk]
    exact hs.gone
  · rw [LineMove.cutting_of_gt hf hk]
    refine ⟨⟨_, hs, .some (htext ▸ hbehind.lies)⟩, fun n hn => ?_⟩
    cases hn
    rw [line, htext]
    exact hbehind.text

theorem changeLines_eq_putLines (f : Frame) (first last : Nat) (t : Text) : f.changeLines first last t =
    ((f.cutLines first last).putLines (if (f.cutLines first last).length = 0 then 0 else first) (t ++ f.eol)).goToLine
      (if (f.cutLines first last).length = 0 then 0 else first) := by
  rw [← f.cutLines_eol first last]
  rfl

/-- Lines that are changed keep the marks on other lines, and take those on them away. -/
theorem bringsLine_changeLines (hp : f.text.returnsPaired) (hf : first ≤ last) (hl : first ≤ f.text.breakCount)
    (hle : p ≤ f.length) (hline : f.text.lineAt p < f.text.lineCount) (hstray : ¬ f.CutStrays first last p) :
    f.BringsLine (f.changeLines first last t) p
      ((LineMove.cutting first last (f.text.lineAt p)).bind (LineMove.splice first 0 (t ++ f.eol).addedLines)) := by
  have htext : (f.cutLines first last).text = f.cutText first last := f.cutLines_text hf
  have hpaired := returnsPaired_cutLines hp hf
  have hspan := Nat.le_trans (f.deletionSpan_fst_le first last) (f.lineStart_le first)
  rw [changeLines_eq_putLines]
  refine BringsLine.goToLine ?_ _
  rcases sends_cutLines hp hf hl hle hline hstray with ⟨hk, hlt, hs⟩ | ⟨hk, hs⟩ | ⟨hk, hbehind, hs⟩
  · obtain ⟨hin, hkept, -⟩ := hs.before hlt hspan htext
    have hput := bringsLine_putLines hpaired (Nat.le_of_lt hin) (Text.lineAt_lt_lineCount hin)
      (not_putStrays_of_lt hin (f.not_meets_append_eol t) first)
    rw [if_neg (by omega), LineMove.cutting_of_lt hk, Option.bind_some]
    rw [hkept] at hput
    refine hs.bringsLine ?_ hput
    rw [hkept, line, htext]
    exact line_cutText_before hp hl hk last
  · rw [LineMove.cutting_of_mem hk]
    exact (hs.putLines_of_none _ _).gone
  · have hlength : (f.cutLines first last).length ≠ 0 := by
      rw [length, htext]
      exact fun h => hbehind.ne (List.length_eq_zero_iff.mp h)
    have hlies := hbehind.lies
    have hcount := hbehind.lineCount
    rw [← htext] at hlies hcount
    have hput := bringsLine_putLines (n := first) (t := t ++ f.eol) hpaired hlies.le (by rw [hlies.line]; omega) ?stays
    case stays =>
      rintro ⟨-, -, hbefore | hnil | hmeets⟩
      · rw [hlies.line] at hbefore
        omega
      · exact hbehind.ne (htext ▸ hnil)
      · exact f.not_meets_append_eol t _ hmeets
    rw [hlies.line] at hput
    rw [LineMove.cutting_of_gt hf hk, if_neg hlength]
    refine hs.bringsLine ?_ hput
    rw [hlies.line, line, htext]
    exact hbehind.text

section past
variable (h : f.text.breakCount < first) (hf : first ≤ last)
include h hf

theorem cutLines_past : (f.cutLines first last).text = f.text ∧
    ∀ name, (f.cutLines first last).offsets (.named name) = f.offsets (.named name) := by
  have hcut : f.cutLines first last = f.clearMarksWithin f.length f.length := by
    rw [cutLines_eq, deletionSpan_of_breakCount_lt h hf, delete_self]
  rw [hcut]
  refine ⟨rfl, fun name => ?_⟩
  rw [offsets_clearMarksWithin _ _ rfl]
  refine List.filter_eq_self.mpr fun p _ => ?_
  simp only [Bool.not_eq_true', Bool.and_eq_false_iff, decide_eq_false_iff_not]
  omega

/-- A line in place of lines past the end is put behind the last one. -/
theorem bringsLine_changeLines_past (hp : f.text.returnsPaired) (hlt : p < f.length) :
    f.BringsLine (f.changeLines first last t) p (some (f.text.lineAt p)) := by
  obtain ⟨htext, hoffsets⟩ := cutLines_past h hf
  have hsends : f.Sends (f.cutLines first last) p (some p) := fun name hname => (hoffsets name).trans hname
  have hlength : p < (f.cutLines first last).length := by rwa [length, htext]
  have hput := bringsLine_putLines (f := f.cutLines first last) (n := first) (t := t ++ f.eol) (htext ▸ hp)
    (Nat.le_of_lt hlength) (Text.lineAt_lt_lineCount hlength)
    (not_putStrays_of_lt hlength (f.not_meets_append_eol t) first)
  rw [htext, LineMove.splice, if_pos (Nat.lt_of_le_of_lt (f.text.lineAt_le p) h)] at hput
  rw [changeLines_eq_putLines, if_neg (by omega)]
  refine (hsends.bringsLine ?_ hput).goToLine _
  rw [htext, line, htext, line]

end past

end cut

end Frame
end ExEditor
