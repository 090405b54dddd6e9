import ExEditor.Frame.Sort
import ExEditor.Proofs.Frame.InsideLines
import ExEditor.Proofs.Frame.PutBack
import ExEditor.Proofs.Text.Uniform

/-! Frames all of whose line breaks are the same one: those of the text, of the texts that it can be taken back to, and
the one that new lines get. Every edit of lines keeps a frame so. -/
namespace ExEditor

namespace Text

theorem hasPair_cons (a b c : Char) (t : Text) :
    hasPair a b (c :: t) = (decide (c = a ∧ t.head? = some b) || hasPair a b t) := by
  cases t with
  | nil => simp [hasPair]
  | cons d t => simp [hasPair]

theorem hasPair_of_not_mem {a b : Char} {t : Text} (h : a ∉ t) : hasPair a b t = false := by
  induction t with
  | nil => rfl
  | cons c t ih =>
    rw [List.mem_cons, not_or] at h
    rw [hasPair_cons, ih h.2]
    simp [Ne.symm h.1]

/-- A text that is broken by pairs has one, or no break at all. -/
theorem isPlain_of_not_hasPair {t : Text} (h : BrokenBy .returnFeed t) (hpair : hasPair '\r' '\n' t = false) :
    IsPlain t := by
  induction h with
  | nil => exact isPlain_nil
  | char hc _ ih =>
    rw [hasPair_cons, Bool.or_eq_false_iff] at hpair
    simpa [IsPlain, hc] using ih hpair.2
  | newLine _ _ => simp [LineBreak.text, hasPair] at hpair

end Text

namespace SortOptions
variable (options : SortOptions) {lines : List Text}

theorem dropRepeatsOf_sublist (a : Text) (lines : List Text) : (options.dropRepeatsOf a lines).Sublist lines := by
  induction lines generalizing a with
  | nil => exact .slnil
  | cons t rest ih =>
    rw [dropRepeatsOf]
    split
    · exact (ih a).cons t
    · exact (ih t).cons_cons t

theorem dropRepeats_sublist (lines : List Text) : (options.dropRepeats lines).Sublist lines := by
  cases lines with
  | nil => exact .slnil
  | cons t rest => exact (options.dropRepeatsOf_sublist t rest).cons_cons t

/-- Lines in another order are the same lines. -/
theorem mem_of_mem_arrange {t : Text} (h : t ∈ options.arrange lines) : t ∈ lines := by
  unfold arrange at h
  split at h
  · exact List.mem_mergeSort.mp ((options.dropRepeats_sublist _).subset h)
  · exact List.mem_mergeSort.mp h

/-- Lines are plain with pieces of other plain lines in them. -/
theorem isPlain_arrangeBlock (left right : Nat) (h : ∀ t ∈ lines, t.IsPlain) :
    ∀ t ∈ options.arrangeBlock left right lines, t.IsPlain := by
  have hpieces : ∀ piece ∈ options.sorted (lines.map fun line => (line.take right).drop left), Text.IsPlain piece := by
    intro piece hpiece
    obtain ⟨line, hline, rfl⟩ := List.mem_map.mp (List.mem_mergeSort.mp hpiece)
    exact fun c hc => h line hline c (List.mem_of_mem_take (List.mem_of_mem_drop hc))
  intro t ht
  obtain ⟨n, hn, rfl⟩ := List.getElem_of_mem ht
  simp only [arrangeBlock, List.length_zipWith, Nat.lt_min] at hn
  simp only [arrangeBlock, List.getElem_zipWith]
  have hline := h _ (List.getElem_mem hn.1)
  have hfront : Text.IsPlain (lines[n].take left) := fun c hc => hline c (List.mem_of_mem_take hc)
  have hback : Text.IsPlain (lines[n].drop right) := fun c hc => hline c (List.mem_of_mem_drop hc)
  exact (hfront.append (hpieces _ (List.getElem_mem hn.2))).append hback

end SortOptions

namespace Frame

/-- Whether all line breaks of a frame are the given one. -/
structure BrokenBy (b : LineBreak) (f : Frame) : Prop where
  text : f.text.BrokenBy b
  history : ∀ t ∈ f.history, t.BrokenBy b
  lineBreak : f.lineBreak = b

variable {b : LineBreak} {f g : Frame}

/-- A new frame goes by the breaks of its text. Where it has none, new lines end in a feed. -/
theorem brokenBy_ofText {t : Text} (h : t.BrokenBy b) (hplain : t.IsPlain → b = .feed) : (ofText t).BrokenBy b where
  text := h
  history := nofun
  lineBreak := by
    unfold ofText
    cases b with
    | feed => exact if_neg (by simp [Text.hasPair_of_not_mem h.not_mem_return])
    | returnFeed =>
      refine if_pos (by_contra fun hpair => ?_)
      cases hplain (Text.isPlain_of_not_hasPair h (by simpa using hpair))

/-- Sorting puts lines in another order, or pieces of them. -/
theorem isPlain_sortedTexts (f : Frame) (options : SortOptions) (first last : Nat) :
    ∀ t ∈ f.sortedTexts options first last, t.IsPlain := by
  have hlines := isPlain_lineTexts f first last
  unfold sortedTexts
  dsimp only
  split
  · exact options.isPlain_arrangeBlock _ _ hlines
  · exact fun t ht => hlines t (options.mem_of_mem_arrange ht)

namespace BrokenBy

theorem congr (h : f.BrokenBy b) (ht : g.text = f.text) (hh : g.history = f.history) (hl : g.lineBreak = f.lineBreak) :
    g.BrokenBy b where
  text := ht ▸ h.text
  history := hh ▸ h.history
  lineBreak := hl.trans h.lineBreak

theorem eol_eq (h : f.BrokenBy b) : f.eol = b.text := congrArg LineBreak.text h.lineBreak

theorem remember (h : f.BrokenBy b) : f.remember.BrokenBy b := by
  unfold Frame.remember
  split
  · exact ⟨h.text, List.forall_mem_cons.mpr ⟨h.text, h.history⟩, h.lineBreak⟩
  · exact h

theorem openGroup (h : f.BrokenBy b) : f.openGroup.BrokenBy b := h.remember.congr rfl rfl rfl

theorem closeGroup (h : f.BrokenBy b) : f.closeGroup.BrokenBy b := h.congr rfl rfl rfl

theorem goToLine (h : f.BrokenBy b) (n : Nat) : (f.goToLine n).BrokenBy b := h.congr rfl rfl rfl

theorem clearMarksWithin (h : f.BrokenBy b) (first last : Nat) : (f.clearMarksWithin first last).BrokenBy b :=
  h.congr rfl rfl rfl

/-- A text that is put where no break is cut in two. -/
theorem insert (h : f.BrokenBy b) {t : Text} (ht : t.BrokenBy b) {offset : Nat}
    (hfront : Text.BrokenBy b (f.text.take (f.clamp offset))) (hback : Text.BrokenBy b (f.text.drop (f.clamp offset))) :
    (f.insert offset t).BrokenBy b := by
  unfold Frame.insert
  split
  · exact h
  · exact ⟨hfront.append (ht.append hback), h.remember.history, h.remember.lineBreak⟩

/-- A part that is taken out between two places where no break is cut in two. -/
theorem delete (h : f.BrokenBy b) {first last : Nat} (hle : first ≤ last) (hl : last ≤ f.length)
    (hfront : Text.BrokenBy b (f.text.take first)) (hback : Text.BrokenBy b (f.text.drop last)) :
    (f.delete first last).BrokenBy b := by
  have hfirst : f.clamp (min first last) = first := by
    simp only [clamp]
    omega
  have hlast : f.clamp (max first last) = last := by
    simp only [clamp]
    omega
  unfold Frame.delete
  rw [hfirst, hlast]
  dsimp only
  split
  · exact h
  · exact ⟨hfront.append hback, h.remember.history, h.remember.lineBreak⟩

theorem replace (h : f.BrokenBy b) {t : Text} (ht : t.BrokenBy b) {first last : Nat} (hle : first ≤ last)
    (hl : last ≤ f.length) (hfront : Text.BrokenBy b (f.text.take first)) (hback : Text.BrokenBy b (f.text.drop last)) :
    (f.replace first last t).BrokenBy b := by
  have hdelete := h.delete hle hl hfront hback
  have htext := delete_text f hle hl
  have hlength : (f.text.take first).length = first := List.length_take_of_le (Nat.le_trans hle hl)
  have hclamp : (f.delete first last).clamp first = (f.text.take first).length := by
    rw [clamp, length, htext, List.length_append]
    omega
  refine hdelete.insert ht ?_ ?_
  · rwa [hclamp, htext, List.take_left]
  · rwa [hclamp, htext, List.drop_left]

theorem undo (h : f.BrokenBy b) : f.undo.1.BrokenBy b := by
  unfold Frame.undo
  split
  · exact ⟨h.text, by simp, h.lineBreak⟩
  · next previous older hhistory =>
    have hmem : ∀ t ∈ previous :: older, t ∈ f.history := fun t ht =>
      (List.dropWhile_suffix _).subset (hhistory ▸ ht)
    exact ⟨h.history _ (hmem _ List.mem_cons_self), fun t ht => h.history t (hmem t (List.mem_cons_of_mem _ ht)),
      h.lineBreak⟩

theorem linesText (h : f.BrokenBy b) (first last : Nat) : Text.BrokenBy b (f.linesText first last) :=
  Text.brokenBy_slice (Text.brokenBy_lineStart h.text _).1 (Text.brokenBy_lineStart h.text _).1

theorem insert_lineStart (h : f.BrokenBy b) {t : Text} (ht : t.BrokenBy b) (n : Nat) :
    (f.insert (f.lineStart n) t).BrokenBy b := by
  obtain ⟨hfront, hback⟩ := Text.brokenBy_lineStart h.text n
  refine h.insert ht ?_ ?_
  · rwa [clamp_lineStart]
  · rwa [clamp_lineStart]

theorem putLines (h : f.BrokenBy b) {t : Text} (ht : t.BrokenBy b) (n : Nat) : (f.putLines n t).BrokenBy b := by
  have hadded : (t ++ f.eol).BrokenBy b := h.eol_eq ▸ ht.append (.break_text b)
  have hstripped : (f.eol ++ (t.dropEnding? f.eol).getD t).BrokenBy b :=
    h.eol_eq ▸ (Text.BrokenBy.break_text b).append (Text.brokenBy_dropEnding? ht)
  unfold Frame.putLines
  split
  · exact h
  · split
    · have hclamp : f.clamp 0 = 0 := Nat.zero_min _
      refine h.insert ht ?_ ?_
      · rw [hclamp]
        exact .nil
      · rw [hclamp]
        exact h.text
    · dsimp only
      split
      · have hclamp : f.clamp f.length = f.text.length := Nat.min_self _
        refine h.insert hstripped ?_ ?_
        · rw [hclamp, List.take_length]
          exact h.text
        · rw [hclamp, List.drop_length]
          exact .nil
      · split
        · exact h.insert_lineStart hadded n
        · exact h.insert_lineStart ht n

theorem cut_deletionSpan (h : f.BrokenBy b) (first last : Nat) :
    Text.BrokenBy b (f.text.take (f.deletionSpan first last).1) ∧
      Text.BrokenBy b (f.text.drop (f.deletionSpan first last).2) := by
  constructor
  · rw [deletionSpan_fst]
    split
    · exact (Text.brokenBy_lineEnd h.text _).1
    · exact (Text.brokenBy_lineStart h.text _).1
  · rw [deletionSpan_snd]
    exact (Text.brokenBy_lineStart h.text _).2

section lines
variable (h : f.BrokenBy b) {first last : Nat} (hf : first ≤ last)
include h hf

theorem cutLines : (f.cutLines first last).BrokenBy b := by
  obtain ⟨hfront, hback⟩ := h.cut_deletionSpan first last
  rw [cutLines_eq]
  exact (h.clearMarksWithin _ _).delete (f.deletionSpan_le hf) (f.deletionSpan_snd_le first last) hfront hback

theorem deleteLines : (f.deleteLines first last).BrokenBy b := (h.cutLines hf).goToLine _

omit hf in
theorem putAndFollow {t : Text} (ht : t.BrokenBy b) (n : Nat) : (f.putAndFollow n t).BrokenBy b :=
  (h.putLines ht n).goToLine _

omit hf in
theorem copyLines (first last destination : Nat) : (f.copyLines first last destination).BrokenBy b :=
  h.putAndFollow (h.linesText first last) destination

theorem moveLines (destination : Nat) : (f.moveLines first last destination).BrokenBy b := by
  obtain ⟨hfront, hback⟩ := h.cut_deletionSpan first last
  have hcut := h.delete (f.deletionSpan_le hf) (f.deletionSpan_snd_le first last) hfront hback
  rcases hspan : f.deletionSpan first last with ⟨start, stop⟩
  rw [hspan] at hcut
  simp only [Frame.moveLines, hspan]
  exact (hcut.putLines (h.linesText first last) _).goToLine _

omit hf in
theorem insertLine {t : Text} (ht : t.BrokenBy b) (n : Nat) : (f.insertLine n t).BrokenBy b :=
  (h.putLines (h.eol_eq ▸ ht.append (.break_text b)) n).goToLine n

theorem changeLines {t : Text} (ht : t.BrokenBy b) : (f.changeLines first last t).BrokenBy b :=
  (h.cutLines hf).insertLine ht _

/-- Whole lines, but for the break of the last one, are replaced. -/
theorem replace_lines {t : Text} (ht : t.BrokenBy b) :
    (f.replace (f.lineStart first) (f.lineEnd last) t).BrokenBy b := by
  have hle : f.lineStart first ≤ f.lineEnd last := by
    have hmono := f.lineStart_mono hf
    simp only [lineEnd, Text.lineEnd]
    exact Nat.le_trans hmono (Nat.le_add_right _ _)
  exact h.replace ht hle (f.text.lineEnd_le last) (Text.brokenBy_lineStart h.text _).1
    (Text.brokenBy_lineEnd h.text _).2

theorem joinLines (asIs : Bool) : (f.joinLines first last asIs).BrokenBy b := by
  have hplain : (joinTexts asIs (f.line first) (f.lineTexts (first + 1) last)).IsPlain :=
    isPlain_joinTexts (Text.isPlain_lineBody _) (isPlain_lineTexts f (first + 1) last)
  exact (h.replace_lines hf (.of_isPlain hplain)).goToLine first

theorem replaceLines {lines : List Text} (hlines : ∀ t ∈ lines, t.IsPlain) :
    (f.replaceLines first last lines).BrokenBy b :=
  (h.replace_lines hf (h.eol_eq ▸ Text.brokenBy_join hlines)).goToLine first

end lines

theorem indentLine (h : f.BrokenBy b) {indent : Text} (hi : indent.IsPlain) (line : Nat) :
    (f.indentLine indent line).BrokenBy b := by
  unfold Frame.indentLine
  split
  · exact h
  · exact h.insert_lineStart (.of_isPlain hi) line

theorem outdentLine (h : f.BrokenBy b) (columns tabWidth line : Nat) :
    (f.outdentLine columns tabWidth line).BrokenBy b := by
  have hwidth := outdentLength_le columns tabWidth 0 (f.line line)
  have hend : f.lineStart line + outdentLength columns tabWidth 0 (f.line line) ≤ f.length :=
    Nat.le_trans (Nat.add_le_add_left hwidth _) (f.text.lineEnd_le line)
  exact h.delete (Nat.le_add_right _ _) hend (Text.brokenBy_lineStart h.text line).1
    (Text.brokenBy_inside h.text line hwidth).2

theorem eachLine (h : f.BrokenBy b) {change : Frame → Nat → Frame}
    (hchange : ∀ f line, f.BrokenBy b → (change f line).BrokenBy b) (first last : Nat) :
    (f.eachLine change first last).BrokenBy b := by
  have hfold : ∀ (lines : List Nat) (f : Frame), f.BrokenBy b → (lines.foldl change f).BrokenBy b := by
    intro lines
    induction lines with
    | nil => exact fun _ h => h
    | cons line rest ih => exact fun f h => ih _ (hchange f line h)
  exact (hfold _ _ h.openGroup).closeGroup.goToLine last

theorem sortLines (h : f.BrokenBy b) (options : SortOptions) {first last : Nat} (hf : first ≤ last) :
    (f.sortLines options first last).BrokenBy b :=
  h.replaceLines hf (isPlain_sortedTexts f options first last)

end BrokenBy

end Frame
end ExEditor
