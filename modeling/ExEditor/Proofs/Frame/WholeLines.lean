import ExEditor.Proofs.Frame.Tracks

/-! Edits of whole lines take the marks of lines along that stand where their lines start. -/
namespace ExEditor

namespace Text.AtStart
variable {t : Text} {offset line : Nat}

/-- Offsets in front of an edit stay what they are. -/
theorem before (h : t.AtStart offset line) {a : Nat} (ha : offset < a) (u : Text) :
    Text.AtStart (t.take a ++ u) offset line := by
  have hlt := h.lt
  have hlength : (t.take a).length = min a t.length := List.length_take
  have htake : (t.take a ++ u).take offset = t.take offset := by
    rw [List.take_append_of_le_length (by omega), List.take_take, Nat.min_eq_left (Nat.le_of_lt ha)]
  refine ⟨⟨?_, by rw [htake, h.count]⟩, ?_, by rw [StartsLine, htake]; exact h.starts⟩
  · rw [List.length_append]
    omega
  · rw [List.length_append]
    omega

/-- Offsets behind an edit move with what follows it. -/
theorem behind (h : t.AtStart offset line) {b : Nat} (hb : b ≤ offset) (front : Text)
    (hf : ∀ c ∈ front.getLast?, c = '\n') :
    Text.AtStart (front ++ t.drop b) (front.length + (offset - b))
      (front.count '\n' + (line - (t.take b).count '\n')) := by
  have hlt := h.lt
  have hlength : (front ++ t.drop b).length = front.length + (t.length - b) := by
    rw [List.length_append, List.length_drop]
  have hsplit : t.take offset = t.take b ++ (t.drop b).take (offset - b) := by
    rw [← List.take_add, Nat.add_sub_cancel' hb]
  have htake : (front ++ t.drop b).take (front.length + (offset - b)) =
      front ++ (t.drop b).take (offset - b) := by
    rw [List.take_length_add_append]
  have hcount := h.count
  rw [hsplit, List.count_append] at hcount
  refine ⟨⟨by omega, ?_⟩, by omega, ?_⟩
  · rw [htake, List.count_append]
    omega
  · have hstarts := h.starts
    rw [StartsLine, hsplit] at hstarts
    rw [StartsLine, htake]
    rcases List.eq_nil_or_concat ((t.drop b).take (offset - b)) with hnil | ⟨inner, c, hin⟩
    · rwa [hnil, List.append_nil]
    · rw [hin, List.concat_eq_append, ← List.append_assoc, List.getLast?_concat] at hstarts ⊢
      exact hstarts

end Text.AtStart

namespace Frame
open LineList

variable {f g : Frame}

/-- Some text is deleted with the marks of lines in it. -/
theorem carries_cut {a b first stop : Nat} (hab : a ≤ b) (hb : b ≤ f.length) (hfs : first ≤ stop)
    (hfirst : ∀ offset line, f.text.AtStart offset line → (offset < a ↔ line < first))
    (hstop : ∀ offset line, f.text.AtStart offset line → (offset < b ↔ line < stop))
    (hback : b < f.length → (f.text.take a).count '\n' = first ∧ (f.text.take b).count '\n' = stop ∧
      f.text.StartsLine a) :
    Carries Text.AtStart f ((f.clearMarksWithin a b).delete a b) (.splice first (stop - first) 0) := by
  have hlength : (f.text.take a).length = a := by
    rw [List.length_take]
    exact Nat.min_eq_left (Nat.le_trans hab hb)
  refine .of_offsets (fun offset => if a ≤ offset ∧ offset < b then none
    else some (Marks.afterDelete a b offset)) (by rw [delete_streaming]; rfl) (fun k => ?offsets)
    fun offset line h => ?moved
  case offsets =>
    rw [offsets_delete (f.clearMarksWithin a b) _ hab hb, offsets_clearMarksWithin _ _ rfl]
    induction f.offsets (.line k) with
    | nil => rfl
    | cons offset offsets ih =>
      by_cases h : a ≤ offset ∧ offset < b
      · simpa [h] using ih
      · have hstays : !(decide (a ≤ offset) && decide (offset < b)) := by
          rw [← Bool.decide_and]
          exact Bool.not_eq_true' _ ▸ decide_eq_false h
        rw [List.filter_cons, if_pos hstays, List.filterMap_cons, if_neg h, List.map_cons, ih]
  case moved =>
    rw [delete_text (f.clearMarksWithin a b) hab hb]
    have hfirst := hfirst offset line h
    have hstop := hstop offset line h
    unfold LineMove.splice
    rw [Nat.add_sub_cancel' hfs]
    rcases Nat.lt_or_ge offset a with hlt | hge
    · rw [if_neg (by omega), if_pos (hfirst.mp hlt), Marks.afterDelete, if_pos (Nat.le_of_lt hlt)]
      exact .some (h.before hlt _)
    rw [if_neg (c := line < first) (by omega)]
    rcases Nat.lt_or_ge offset b with hin | hbehind
    · rw [if_pos ⟨hge, hin⟩, if_pos (hstop.mp hin)]
      exact .none
    · have hlt := h.lt
      obtain ⟨hfeeds, hfeeds', hstarts⟩ := hback (by change b < f.text.length; omega)
      have hmoved := h.behind hbehind _ hstarts
      have hdelete : Marks.afterDelete a b offset = a + (offset - b) := by
        unfold Marks.afterDelete
        split
        · omega
        · rw [if_neg (by omega)]
          omega
      rw [hlength, hfeeds, hfeeds'] at hmoved
      rw [if_neg (by omega), if_neg (by omega), hdelete,
        show line - (stop - first) + 0 = first + (line - stop) by omega]
      exact .some hmoved

/-- The first line that goes when lines are deleted. Where they are the end of a text that has no last break,
the break in front of them goes instead of the one they lack, and an empty line in front is gone with it. -/
def cutFrom (f : Frame) (first last : Nat) : Nat :=
  if f.lineStart (last + 1) = f.length ∧ 0 < first ∧ ¬ f.text.endsInBreak ∧ f.line (first - 1) = [] then first - 1
  else first

theorem cutFrom_le (f : Frame) (first last : Nat) : f.cutFrom first last ≤ first := by
  unfold cutFrom
  split <;> omega

/-- Where deleting lines takes lines. -/
def cutMove (f : Frame) (first last : Nat) : LineMove :=
  .splice (f.cutFrom first last) (last + 1 - f.cutFrom first last) 0

/-- Lines in front of those that are deleted stay, and these go. -/
theorem lt_deletionSpan_iff (hp : f.text.returnsPaired) (first last : Nat) {offset line : Nat}
    (h : f.text.AtStart offset line) :
    offset < (f.deletionSpan first last).1 ↔ line < f.cutFrom first last := by
  have hlt := h.lt_iff hp
  unfold deletionSpan linesSpan cutFrom
  dsimp only
  by_cases hend : f.lineStart (last + 1) = f.length ∧ 0 < first ∧ ¬ f.text.endsInBreak
  · obtain ⟨hstop, hpos, hbreak⟩ := hend
    rw [if_pos ⟨hstop, hpos, hbreak⟩]
    by_cases hempty : f.line (first - 1) = []
    · have hline : f.lineEnd (first - 1) = f.lineStart (first - 1) := by
        change f.lineStart (first - 1) + (f.line (first - 1)).length = _
        rw [hempty, List.length_nil, Nat.add_zero]
      rw [if_pos ⟨hstop, hpos, hbreak, hempty⟩, hline]
      exact hlt _
    · rw [if_neg (fun h => hempty h.2.2.2)]
      have hpositive : f.lineStart (first - 1) < f.lineEnd (first - 1) :=
        Nat.lt_add_of_pos_right (List.length_pos_iff.mpr hempty)
      constructor
      · intro ho
        have hnext := f.text.lineEnd_le_lineStart (first - 1)
        rw [Nat.sub_add_cancel hpos] at hnext
        exact (hlt first).mp (Nat.lt_of_lt_of_le ho hnext)
      · intro hline
        rw [h.eq_lineStart hp]
        exact Nat.lt_of_le_of_lt (f.lineStart_mono (by omega)) hpositive
  · rw [if_neg hend, if_neg fun h => hend ⟨h.1, h.2.1, h.2.2.1⟩]
    exact hlt _

theorem deletionSpan_snd (f : Frame) (first last : Nat) :
    (f.deletionSpan first last).2 = f.lineStart (last + 1) := by
  unfold deletionSpan linesSpan
  dsimp only
  split <;> rfl

theorem deletionSpan_le (f : Frame) {first last : Nat} (hf : first ≤ last) :
    (f.deletionSpan first last).1 ≤ (f.deletionSpan first last).2 := by
  have hmono := f.lineStart_mono (show first ≤ last + 1 by omega)
  unfold deletionSpan linesSpan
  dsimp only
  split
  · next h =>
    have hnext := f.text.lineEnd_le_lineStart (first - 1)
    rw [Nat.sub_add_cancel h.2.1] at hnext
    exact Nat.le_trans hnext hmono
  · exact hmono

theorem deletionSpan_snd_le (f : Frame) (first last : Nat) : (f.deletionSpan first last).2 ≤ f.length :=
  deletionSpan_snd f first last ▸ f.lineStart_le _

theorem cutLines_eq (f : Frame) (first last : Nat) : f.cutLines first last =
    (f.clearMarksWithin (f.deletionSpan first last).1 (f.deletionSpan first last).2).delete
      (f.deletionSpan first last).1 (f.deletionSpan first last).2 :=
  rfl

/-- Deleting lines takes the marks along. -/
theorem carries_cutLines (hp : f.text.returnsPaired) {first last : Nat} (hf : first ≤ last) :
    Carries Text.AtStart f (f.cutLines first last) (f.cutMove first last) := by
  have hcut := f.cutFrom_le first last
  rw [cutLines_eq]
  refine carries_cut (deletionSpan_le f hf) (f.deletionSpan_snd_le first last) (by omega)
    (fun _ _ h => lt_deletionSpan_iff hp first last h) (fun _ _ h => ?_) fun hlt => ?_
  · rw [deletionSpan_snd]
    exact h.lt_iff hp _
  · rw [deletionSpan_snd] at hlt ⊢
    -- Lines follow, so the break in front of the deleted ones stays.
    have hspan : (f.deletionSpan first last).1 = f.lineStart first := by
      unfold deletionSpan linesSpan
      dsimp only
      rw [if_neg fun h => Nat.ne_of_lt hlt h.1]
    have hfrom : f.cutFrom first last = first := by
      unfold cutFrom
      rw [if_neg fun h => Nat.ne_of_lt hlt h.1]
    have hcount : last + 1 ≤ f.text.count '\n' := by
      by_contra hmany
      exact Nat.ne_of_lt hlt (Text.lineStart_of_count_lt hp (Nat.lt_of_not_le hmany))
    rw [hspan, hfrom]
    exact ⟨Text.count_take_lineStart hp (by omega), Text.count_take_lineStart hp hcount,
      Text.startsLine_lineStart hp (by omega)⟩

theorem returnsPaired_cutLines (hp : f.text.returnsPaired) {first last : Nat} (hf : first ≤ last) :
    (f.cutLines first last).text.returnsPaired := by
  have htext : (f.cutLines first last).text =
      f.text.take (f.deletionSpan first last).1 ++ f.text.drop (f.deletionSpan first last).2 :=
    delete_text (f.clearMarksWithin (f.deletionSpan first last).1 (f.deletionSpan first last).2)
      (deletionSpan_le f hf) (f.deletionSpan_snd_le first last)
  rw [htext, deletionSpan_snd]
  refine Text.returnsPaired_append ?_ (f.text.drop_lineStart_eq _ ▸ Text.returnsPaired_fromLine hp _)
  unfold deletionSpan linesSpan
  dsimp only
  split
  · exact Text.returnsPaired_take_lineEnd hp _
  · exact Text.returnsPaired_take_lineStart hp _

theorem carries_deleteLines (hp : f.text.returnsPaired) {first last : Nat} (hf : first ≤ last) :
    Carries Text.AtStart f (f.deleteLines first last) (f.cutMove first last) := by
  unfold deleteLines
  exact (carries_cutLines hp hf).goToLine _

/-- A text that is inserted takes the marks behind it along. -/
theorem carries_insert {a n k : Nat} {u : Text} (ha : a ≤ f.length)
    (hn : ∀ offset line, f.text.AtStart offset line → (offset < a ↔ line < n))
    (hu : a < f.length → (f.text.take a).count '\n' = n ∧ u.count '\n' = k ∧ u.getLast? = some '\n') :
    Carries Text.AtStart f (f.insert a u) (.splice n 0 k) := by
  have hlength : (f.text.take a).length = a := by
    rw [List.length_take]
    exact Nat.min_eq_left ha
  refine .of_offsets (fun offset => some (Marks.afterInsert a u.length offset)) (insert_streaming f a u)
    (fun k => by rw [offsets_insert _ _ ha]; simp) fun offset line h => ?_
  rw [insert_text, clamp, Nat.min_eq_left ha]
  have hn := hn offset line h
  unfold LineMove.splice
  rcases Nat.lt_or_ge offset a with hlt | hge
  · rw [if_pos (hn.mp hlt), Marks.afterInsert, if_neg (by omega)]
    exact .some (h.before hlt _)
  · obtain ⟨hfeeds, hk, hlast⟩ := hu (Nat.lt_of_le_of_lt hge h.lt)
    have hmoved := h.behind hge (f.text.take a ++ u) fun c hc => by
      have hne : u ≠ [] := by rintro rfl; simp at hlast
      rw [List.getLast?_append_of_ne_nil _ hne, hlast] at hc
      exact (Option.some.inj hc).symm
    rw [List.append_assoc, List.length_append, hlength, List.count_append, hfeeds, hk] at hmoved
    rw [if_neg (by omega), if_neg (by omega), Marks.afterInsert, if_pos hge,
      show offset + u.length = a + u.length + (offset - a) by omega,
      show line - 0 + k = n + k + (line - n) by omega]
    exact .some hmoved

/-- Putting lines takes the marks behind them along. -/
theorem carries_putLines (hp : f.text.returnsPaired) {n k : Nat} {t : Text}
    (hk : f.lineStart n < f.length → t ≠ [] ∧ (t.endsInBreak → t.getLast? = some '\n') ∧
      (if t.endsInBreak then t else t ++ f.eol).count '\n' = k) :
    Carries Text.AtStart f (f.putLines n t) (.splice n 0 k) := by
  have hput : ∀ u : Text, (f.lineStart n < f.length → u.count '\n' = k ∧ u.getLast? = some '\n') →
      Carries Text.AtStart f (f.insert (f.lineStart n) u) (.splice n 0 k) := by
    refine fun u hu => carries_insert (f.lineStart_le n) (fun _ _ h => h.lt_iff hp n) fun hlt => ⟨?_, hu hlt⟩
    refine Text.count_take_lineStart hp ?_
    by_contra hmany
    exact Nat.ne_of_lt hlt (Text.lineStart_of_count_lt hp (Nat.lt_of_not_le hmany))
  have hempty : ¬ f.lineStart n < f.length → Carries Text.AtStart f f (.splice n 0 k) := by
    intro hend
    have h := hput [] fun hlt => absurd hlt hend
    simpa [insert] using h
  have heol : ∀ u : Text, (u ++ f.eol).getLast? = some '\n' := fun u => by
    rcases f.eol_eq with h | h <;> simp [h]
  unfold putLines
  split
  · next h => exact hempty fun hlt => (hk hlt).1 h
  split
  · next h =>
    have hstart : f.lineStart n = 0 := Nat.le_zero.mp (h.1 ▸ f.lineStart_le n)
    have hinsert := hput t fun hlt => by omega
    rwa [hstart] at hinsert
  dsimp only
  split
  · next h =>
    have hstart : f.lineStart n = f.length := Nat.le_antisymm (f.lineStart_le n) h.1
    have hinsert := hput (f.eol ++ (t.dropEnding? f.eol).getD t) fun hlt => by omega
    rwa [hstart] at hinsert
  split
  · next h =>
    refine hput _ fun hlt => ⟨?_, heol t⟩
    have hcount := (hk hlt).2.2
    rwa [if_neg h.2] at hcount
  · next h =>
    refine hput _ fun hlt => ?_
    have hends : t.endsInBreak := by simpa [hlt] using h
    obtain ⟨-, hlast, hcount⟩ := hk hlt
    rw [if_pos hends] at hcount
    exact ⟨hcount, hlast hends⟩

/-- Entering a line of text takes the marks behind it along. -/
theorem carries_insertLine (hp : f.text.returnsPaired) (n : Nat) (t : Text) :
    Carries Text.AtStart f (f.insertLine n t) (.splice n 0 ((t ++ f.eol).count '\n')) := by
  have hput := carries_putLines (n := n) (t := t ++ f.eol) hp fun _ => ⟨f.append_eol_ne_nil t,
    fun _ => by rcases f.eol_eq with h | h <;> simp [h], by rw [if_pos (f.endsInBreak_eol t)]⟩
  exact hput.goToLine _

/-- Where there is no text no line is tracked. -/
theorem Carries.of_empty {move move' : LineMove} (hf : f.length = 0) (h : Carries Text.AtStart f g move) :
    Carries Text.AtStart f g move' where
  streaming := h.streaming
  tracks k line hk := by
    cases line with
    | none => exact h.tracks k none hk
    | some line =>
      obtain ⟨offset, -, hrel⟩ := hk
      cases hrel with
      | some hst =>
        have hlt := hst.lt
        rw [length] at hf
        omega

/-- Changing lines removes them and enters the text in their place. -/
theorem carries_changeLines (hp : f.text.returnsPaired) {first last : Nat} (hf : first ≤ last) (t : Text) :
    Carries Text.AtStart f (f.changeLines first last t)
      ((f.cutMove first last).andThen (.splice first 0 ((t ++ f.eol).count '\n'))) := by
  refine (carries_cutLines hp hf).trans ?_
  change Carries Text.AtStart (f.cutLines first last) ((f.cutLines first last).insertLine
    (if (f.cutLines first last).length = 0 then 0 else first) t) _
  split
  · next hzero =>
    -- Nothing is left, so no mark is, and the place does not matter.
    exact (carries_insertLine (returnsPaired_cutLines hp hf) 0 t).of_empty hzero
  · have hinsert := carries_insertLine (returnsPaired_cutLines hp hf) first t
    rwa [cutLines_eol] at hinsert

theorem linesText_eq (f : Frame) {first last : Nat} (hf : first ≤ last) :
    f.linesText first last = (range f.text.segments first last).flatten := by
  have hsplit := congrArg List.flatten (List.take_append_drop first (f.text.segments.take (last + 1)))
  rw [List.take_take, Nat.min_eq_left (by omega), List.flatten_append] at hsplit
  change (f.text.take (f.text.lineStart (last + 1))).drop (f.text.lineStart first) = _
  rw [Text.take_lineStart, ← hsplit, Text.lineStart_eq, List.drop_left]
  rfl

/-- The text of lines that are there, completed by a break, has a line feed for each of them. -/
theorem linesText_feeds (hp : f.text.returnsPaired) (hne : f.text ≠ []) {first last : Nat} (hf : first ≤ last)
    (hl : last < f.text.lineCount) :
    f.linesText first last ≠ [] ∧
      ((f.linesText first last).endsInBreak → (f.linesText first last).getLast? = some '\n') ∧
      (if (f.linesText first last).endsInBreak then f.linesText first last
        else f.linesText first last ++ f.eol).count '\n' = last + 1 - first := by
  obtain ⟨rows, rest, hs, hr, hplain, -⟩ := Text.exists_segments hp
  have hcount := Nat.lt_of_lt_of_le hl f.text.lineCount_le_segments
  have hlastRow := Text.segment_ne_nil hp hne hl
  rw [hs, List.length_append, List.length_singleton] at hcount
  rw [f.linesText_eq hf, hs]
  rcases Nat.lt_or_ge last rows.length with hin | hend
  · have hrange : range (rows ++ [rest]) first last = range rows first last := by
      rw [range, List.take_append_of_le_length hin, range]
    have hrows := isRow_range hr first last
    have hlength := range_length hf hin
    rw [hrange]
    have hrne : range rows first last ≠ [] := by
      rintro h0
      rw [h0] at hlength
      cases hlength
    have hends := Text.endsInBreak_flatten hrows hrne
    rw [if_pos hends, Text.count_feed_rows hrows, hlength]
    refine ⟨Text.flatten_ne_nil hrows hrne, fun _ => ?_, by omega⟩
    rw [← List.dropLast_concat_getLast hrne, List.flatten_append, List.flatten_singleton]
    exact (hrows _ (List.getLast_mem hrne)).getLast? _
  · -- The last line is the one that has no break.
    obtain rfl : last = rows.length := by omega
    have hrest : rest ≠ [] := hlastRow rest (by rw [hs]; simp)
    have hrange : range (rows ++ [rest]) first rows.length = rows.drop first ++ [rest] := by
      rw [range, List.take_of_length_le (by simp), List.drop_append_of_le_length (by omega)]
    have hfront : ∀ s ∈ rows.drop first, s.IsRow := fun s hmem => hr s (List.mem_of_mem_drop hmem)
    have hends : Text.endsInBreak ((rows.drop first).flatten ++ rest) = false := by
      rw [Text.endsInBreak_append hrest, Text.endsInBreak_plain hplain]
    rw [hrange, List.flatten_append, List.flatten_singleton, hends]
    refine ⟨by simp [hrest], by simp, ?_⟩
    have heol : f.eol.count '\n' = 1 := by rcases f.eol_eq with h | h <;> rw [h] <;> rfl
    rw [if_neg (by simp), List.count_append, List.count_append, Text.count_feed_rows hfront,
      Text.count_feed_plain hplain, heol, List.length_drop]
    omega

/-- Copying lines takes the marks behind the copies along. -/
theorem carries_copyLines (hp : f.text.returnsPaired) {first last : Nat} (hf : first ≤ last)
    (hl : last < f.text.lineCount) (destination : Nat) :
    Carries Text.AtStart f (f.copyLines first last destination) (.splice destination 0 (last + 1 - first)) := by
  have hput := carries_putLines (n := destination) hp fun hlt =>
    linesText_feeds hp (by rintro h; simp [length, h] at hlt) hf hl
  exact hput.goToLine _

end Frame
end ExEditor
