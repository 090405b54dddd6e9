import ExEditor.Frame.Position
import ExEditor.Proofs.Frame.PutBack
import ExEditor.Proofs.Text.Places
import ExEditor.Proofs.Text.Uniform

/-! Lines as a partition of the text. The spans and the texts of lines, where they start and end, the line of an
offset and positions by line and column all describe the same pieces, whatever breaks the text has and however it
ends. The empty line behind a last break is the line of the offset there, but is not counted. -/
namespace ExEditor

namespace Text
variable {t : Text} {n offset : Nat}

/-- What a line may end in. -/
def IsTerminator (t : Text) : Prop := t = ['\n'] ∨ t = ['\r', '\n'] ∨ t = ['\r']

instance (t : Text) : Decidable (IsTerminator t) := inferInstanceAs (Decidable (_ ∨ _ ∨ _))

/-- Behind the text of every segment but the last is one terminator. -/
theorem isTerminator_of_mem_segments (t : Text) :
    ∀ s ∈ t.segments.dropLast, IsTerminator (s.drop (lineBody s).length) := by
  fun_induction segments t with
  | case1 => simp
  | case2 t ih =>
    rw [List.dropLast_cons_of_ne_nil (segments_ne_nil t), List.forall_mem_cons]
    exact ⟨.inr (.inl rfl), ih⟩
  | case3 c t _ hc ih =>
    rw [List.dropLast_cons_of_ne_nil (segments_ne_nil t), List.forall_mem_cons]
    refine ⟨?_, ih⟩
    have hbody : lineBody [c] = [] := by simp [lineBody, hc]
    rw [hbody]
    rcases Bool.or_eq_true_iff.mp hc with hfeed | hreturn
    · exact .inl (by simpa using hfeed)
    · exact .inr (.inr (by simpa using hreturn))
  | case4 c t _ _ h _ => exact absurd h (segments_ne_nil t)
  | case5 c t _ hc s rest h ih =>
    cases rest with
    | nil => simp
    | cons next rest =>
      rw [h, List.dropLast_cons_of_ne_nil (List.cons_ne_nil _ _), List.forall_mem_cons] at ih
      rw [List.dropLast_cons_of_ne_nil (List.cons_ne_nil _ _), List.forall_mem_cons]
      have hbody : lineBody (c :: s) = c :: lineBody s := List.takeWhile_cons_of_pos (by simpa using hc)
      rw [hbody]
      exact ih

/-- A segment is the text of its line and a terminator, which only the last one lacks. -/
theorem exists_terminator (h : n < t.segments.length) :
    ∃ ending, t.segments[n] = t.line n ++ ending ∧
      (IsTerminator ending ∨ ending = [] ∧ n + 1 = t.segments.length) := by
  refine ⟨t.segments[n].drop (lineBody t.segments[n]).length, ?_, ?_⟩
  · rw [line_getElem t h, lineBody_append]
  · rcases Nat.lt_or_eq_of_le (Nat.succ_le_of_lt h) with hinner | hlast
    · refine .inl (t.isTerminator_of_mem_segments _ ?_)
      rw [List.mem_iff_getElem]
      exact ⟨n, by rw [List.length_dropLast]; omega, List.getElem_dropLast _⟩
    · have hplain := t.isPlain_of_getLast?_segments t.segments[n] (by
        rw [List.getLast?_eq_getElem?, ← hlast, Nat.succ_sub_one]
        exact List.getElem?_eq_getElem h)
      refine .inr ⟨?_, hlast⟩
      rw [lineBody_plain hplain, List.drop_length]

/-- From its start to its end a line holds the offsets. -/
theorem lineAt_of_le_lineEnd (hn : n ≤ t.breakCount) (hstart : t.lineStart n ≤ offset) (hend : offset ≤ t.lineEnd n) :
    t.lineAt offset = n :=
  lineAt_eq hn hstart fun hlt => Nat.lt_of_le_of_lt hend (lineEnd_lt_lineStart hlt)

/-- The line of the end of the text is the last one, or the empty one behind it. -/
theorem lineCount_le_lineAt_length (t : Text) : t.lineCount ≤ t.lineAt t.length + 1 := by
  have hsegments := t.lineCount_le_segments
  rwa [segments_length, ← t.lineAt_length] at hsegments

end Text

namespace Position
variable {f : Frame} {n offset count : Nat}

/-- The offsets of a line are its columns. -/
theorem ofOffset_eq (hn : n ≤ f.text.breakCount) (hstart : f.lineStart n ≤ offset) (hend : offset ≤ f.lineEnd n) :
    ofOffset f offset = ⟨n, offset - f.lineStart n⟩ := by
  have hin : offset ≤ f.length := Nat.le_trans hend (f.text.lineEnd_le n)
  have hclamp : f.clamp offset = offset := Nat.min_eq_left hin
  have hline : f.lineAt offset = n := (Frame.lineAt_eq hin).trans (Text.lineAt_of_le_lineEnd hn hstart hend)
  rw [ofOffset, hclamp, hline]

theorem toOffset_eq (hcount : f.lineCount? = some count) (p : Position) :
    p.toOffset f = f.lineStart (min p.line (count - 1)) + min p.column (f.line (min p.line (count - 1))).length := by
  rw [toOffset, hcount]

/-- The columns of a line are its offsets. -/
theorem toOffset_of_le (hcount : f.lineCount? = some count) (hn : n < count) (hstart : f.lineStart n ≤ offset)
    (hend : offset ≤ f.lineEnd n) : toOffset f ⟨n, offset - f.lineStart n⟩ = offset := by
  have hcolumn : offset - f.lineStart n ≤ (f.line n).length := Nat.sub_le_iff_le_add'.mpr hend
  have hline : min n (count - 1) = n := Nat.min_eq_left (Nat.le_sub_one_of_lt hn)
  rw [toOffset_eq hcount, hline, Nat.min_eq_left hcolumn]
  exact Nat.add_sub_cancel' hstart

end Position

namespace Frame
variable {f : Frame} {n count : Nat}

/-- A line with its break is a segment. -/
theorem linesText_self (h : n < f.text.segments.length) : f.linesText n n = f.text.segments[n] := by
  have hrange : LineList.range f.text.segments n n = [f.text.segments[n]] := by
    rw [LineList.range, List.take_add_one, List.getElem?_eq_getElem h, Option.toList_some,
      List.drop_left' (List.length_take_of_le (Nat.le_of_lt h))]
  rw [linesText_eq f (Nat.le_refl n), hrange, List.flatten_singleton]

/-- One behind the other lines make up the text in front of the next one. -/
theorem flatMap_linesText (f : Frame) (count : Nat) :
    ((List.range count).flatMap fun n => f.linesText n n) = f.text.take (f.lineStart count) := by
  induction count with
  | zero => rw [List.range_zero, List.flatMap_nil, lineStart, Text.lineStart_zero, List.take_zero]
  | succ count ih =>
    rw [List.range_succ, List.flatMap_append, ih, List.flatMap_singleton, linesText_eq_slice, Text.slice]
    exact LineList.take_append_drop_take f.text (f.lineStart_mono (Nat.le_succ count))

/-- All descriptions of the lines of a text agree. The lines with their breaks make up the text, and each is a text
without breaks and one terminator, no pair being cut in two; only the last line may lack one. A line starts at an
offset that is on it, and an offset lies between the start of its line and that of the next, unless it is the end of
the text. It is recovered from its line and column exactly if it is not behind the end of a line that is counted, and
a line and a column are recovered as far as the text has them. -/
theorem lines_partition (hcount : f.lineCount? = some count) :
    ((List.range count).flatMap fun n => f.linesText n n) = f.text ∧
    (∀ n < count,
      (f.line n).IsPlain ∧
      (∃ ending, f.linesText n n = f.line n ++ ending ∧
        (ending.IsTerminator ∨ ending = [] ∧ n + 1 = count)) ∧
      ¬ Text.Meets (f.text.take (f.lineStart n)) (f.text.drop (f.lineStart n)) ∧
      f.lineAt (f.lineStart n) = n) ∧
    (∀ offset ≤ f.length,
      f.lineStart (f.lineAt offset) ≤ offset ∧
      (offset < f.lineStart (f.lineAt offset + 1) ∨ offset = f.length ∧ count ≤ f.lineAt offset + 1)) ∧
    (∀ offset, (Position.ofOffset f offset).toOffset f = offset ↔
      ∃ n < count, f.lineStart n ≤ offset ∧ offset ≤ f.lineEnd n) ∧
    ∀ p : Position,
      Position.ofOffset f (p.toOffset f) =
        ⟨min p.line (count - 1), min p.column (f.line (min p.line (count - 1))).length⟩ := by
  have hlines := lineCount_eq hcount
  have hpos := f.text.lineCount_pos
  have hsegments := f.text.lineCount_le_segments
  have hbreaks := f.text.segments_length
  have hinside (p : Position) : f.lineStart (min p.line (count - 1)) ≤ p.toOffset f ∧
      p.toOffset f ≤ f.lineEnd (min p.line (count - 1)) := by
    rw [Position.toOffset_eq hcount]
    exact ⟨Nat.le_add_right _ _, Nat.add_le_add_left (Nat.min_le_right _ _) _⟩
  refine ⟨?whole, fun n hn => ⟨?plain, ?terminated, ?uncut, ?start⟩, fun offset hoffset => ⟨?from_start, ?to_next⟩,
    fun offset => ⟨fun hsame => ?counted, ?recovered⟩, fun p => ?clamped⟩
  case whole =>
    have hend : f.lineStart count = f.text.length := Text.lineStart_of_lineCount_le (Nat.le_of_eq hlines)
    rw [flatMap_linesText, hend, List.take_length]
  case plain => exact Text.isPlain_lineBody _
  case terminated =>
    obtain ⟨ending, hsegment, hending⟩ := Text.exists_terminator (t := f.text) (n := n) (by omega)
    refine ⟨ending, (linesText_self (by omega)).trans hsegment, ?_⟩
    rcases hending with hending | ⟨hnil, hlast⟩
    · exact .inl hending
    · exact .inr ⟨hnil, by omega⟩
  case uncut => exact Text.not_meets_lineStart (by omega)
  case start =>
    rw [lineAt_eq (f.lineStart_le n)]
    exact Text.lineAt_lineStart (by omega)
  case from_start =>
    rw [lineAt_eq hoffset]
    exact f.text.lineStart_lineAt_le offset
  case to_next =>
    rw [lineAt_eq hoffset]
    rcases Nat.lt_or_eq_of_le hoffset with hlt | rfl
    · exact .inl ((Text.lt_lineStart_iff hlt).mpr (Nat.lt_succ_self _))
    · exact .inr ⟨rfl, hlines ▸ f.text.lineCount_le_lineAt_length⟩
  case counted =>
    rw [← hsame]
    exact ⟨_, by omega, hinside (Position.ofOffset f offset)⟩
  case recovered =>
    rintro ⟨n, hn, hstart, hend⟩
    rw [Position.ofOffset_eq (by omega) hstart hend]
    exact Position.toOffset_of_le hcount hn hstart hend
  case clamped =>
    obtain ⟨hstart, hend⟩ := hinside p
    rw [Position.ofOffset_eq (by omega) hstart hend, Position.toOffset_eq hcount, Nat.add_sub_cancel_left]

/-- Lines that end in a pair, in nothing but a pair, in a lone return and in a feed, and the empty line behind them. The
offset inside a pair and the one behind the last break are on lines, but no columns of them. -/
theorem lines_partition_mixed :
    let f := ofText ['a', '\r', '\n', '\r', '\n', '\r', 'b', 'c', '\n']
    f.lineCount? = some 4 ∧
      f.linesText 0 0 ++ (f.linesText 1 1 ++ (f.linesText 2 2 ++ f.linesText 3 3)) = f.text ∧
      f.lineAt (f.lineStart 3) = 3 ∧ f.lineStart (f.lineAt 4) ≤ 4 ∧ 4 < f.lineStart (f.lineAt 4 + 1) ∧
      (Position.ofOffset f 8).toOffset f = 8 ∧ (Position.ofOffset f 4).toOffset f ≠ 4 ∧
      (Position.ofOffset f 9).toOffset f ≠ 9 ∧
      Position.ofOffset f (Position.toOffset f ⟨7, 5⟩) = ⟨3, 2⟩ := by
  intro f
  have hcount : f.lineCount? = some 4 := by decide
  obtain ⟨hwhole, hlines, hoffsets, hrecovered, hclamped⟩ := lines_partition hcount
  have hfour := hoffsets 4 (by decide)
  have height := (hrecovered 8).mpr ⟨3, by decide, by decide, by decide⟩
  have hinside : ¬ ∃ n < 4, f.lineStart n ≤ 4 ∧ 4 ≤ f.lineEnd n := by decide
  have hbehind : ¬ ∃ n < 4, f.lineStart n ≤ 9 ∧ 9 ≤ f.lineEnd n := by decide
  exact ⟨hcount, hwhole, (hlines 3 (by decide)).2.2.2, hfour.1, hfour.2.resolve_right (by decide), height,
    fun h => hinside ((hrecovered 4).mp h), fun h => hbehind ((hrecovered 9).mp h), hclamped ⟨7, 5⟩⟩

end Frame
end ExEditor
