import ExEditor.Proofs.Frame.Uniform
import ExEditor.Proofs.Store.Table
import ExEditor.Proofs.Text.LineList

/-! Sorting puts lines in the order of their keys and leaves those of one key in the order they had. What it
makes of lines is told by these two things alone: which lines may stand before which, and what is left of each
key. -/
namespace ExEditor

theorem Text.splitFirst?_eq_some {p : Char → Bool} {t front back : Text}
    (h : t.splitFirst? p = some (front, back)) : ∃ c, p c ∧ t = front ++ c :: back := by
  induction t generalizing front with
  | nil => cases h
  | cons c t ih =>
    rw [splitFirst?] at h
    split at h
    · next hc =>
      cases h
      exact ⟨c, hc, rfl⟩
    · obtain ⟨⟨front', back'⟩, hsplit, heq⟩ := Option.map_eq_some_iff.mp h
      cases heq
      obtain ⟨d, hd, rfl⟩ := ih hsplit
      exact ⟨d, hd, rfl⟩

namespace SortOptions
variable {options : SortOptions} {lines after : List Text} {a b c k : Text}

section reading

/-- The digits and commas of a text. -/
def columnText (t : Text) : Text := t.filter fun c => c.isDigit || c = ','

/-- The window of columns that digits and commas write. Columns are written from 1 on. -/
inductive WritesWindow (columns : Text) : Nat → Option Nat → Prop
  | absent (h : columns = []) : WritesWindow columns 0 none
  | start {n : Nat} (h : columns.readWord? = some n) : WritesWindow columns (n - 1) none
  | both {start length : Text} {n k : Nat} (hsplit : columns = start ++ ',' :: length)
    (hstart : start.readWord? = some n) (hlength : length.readWord? = some k) :
    WritesWindow columns (n - 1) (some k)

/-- The options that a text writes: two letters, and the digits and commas of a window, among blanks. -/
structure WrittenBy (t : Text) (options : SortOptions) : Prop where
  plain : ∀ c ∈ t, Unicode.isBlank c ∨ c = 'u' ∨ c = 'r' ∨ c.isDigit ∨ c = ','
  unique : options.unique ↔ 'u' ∈ t
  reverse : options.reverse ↔ 'r' ∈ t
  window : WritesWindow (columnText t) options.start options.length

theorem readLetters_ok {t columns columns' : Text} {options' : SortOptions}
    (h : readLetters options columns t = .ok (options', columns')) :
    (∀ c ∈ t, c = 'u' ∨ c = 'r' ∨ c.isDigit ∨ c = ',') ∧
      options' = { options with
        unique := options.unique || decide ('u' ∈ t), reverse := options.reverse || decide ('r' ∈ t) } ∧
      columns' = columns ++ columnText t := by
  induction t generalizing options columns with
  | nil =>
    cases h
    simp [columnText]
  | cons c t ih =>
    unfold readLetters at h
    split at h
    · next hu =>
      obtain ⟨hplain, rfl, rfl⟩ := ih h
      subst hu
      exact ⟨by simpa using hplain, by simp, by simp [columnText]⟩
    split at h
    · next hr =>
      obtain ⟨hplain, rfl, rfl⟩ := ih h
      subst hr
      exact ⟨by simpa using hplain, by simp, by simp [columnText]⟩
    split at h
    · next hu hr hcolumn =>
      obtain ⟨hplain, rfl, rfl⟩ := ih h
      have hu' : ¬ 'u' = c := fun heq => hu heq.symm
      have hr' : ¬ 'r' = c := fun heq => hr heq.symm
      refine ⟨?_, by simp [hu', hr'], by simp [columnText, hcolumn]⟩
      simp only [List.mem_cons, forall_eq_or_imp]
      exact ⟨.inr (.inr (by simpa using hcolumn)), hplain⟩
    · cases h

theorem readColumn_ok {columns written : Text} {n : Nat} (h : readColumn columns written = .ok n) :
    written.readWord? = some n := by
  unfold readColumn at h
  split at h
  · next hread =>
    cases h
    exact hread
  · cases h

theorem not_blank_of_column {c : Char} (h : (c.isDigit || decide (c = ',')) = true) : Unicode.isBlank c = false := by
  rcases Bool.or_eq_true_iff.mp h with hdigit | hcomma
  · obtain ⟨hlow, hhigh⟩ : 48 ≤ c.toNat ∧ c.toNat ≤ 57 := Char.isDigit_iff_toNat.mp hdigit
    simp only [Unicode.isBlank, Unicode.whiteSpace, Unicode.Ranges.has, ge_iff_le, Bool.and_eq_false_imp,
      decide_eq_true_eq]
    grind
  · obtain rfl := of_decide_eq_true hcomma
    decide

/-- No character of a window is a blank. -/
theorem columnText_filter (t : Text) : columnText (t.filter (! Unicode.isBlank ·)) = columnText t := by
  rw [columnText, columnText, List.filter_filter]
  refine List.filter_congr fun c _ => ?_
  by_cases hc : (c.isDigit || decide (c = ',')) = true
  · simp [hc, not_blank_of_column hc]
  · simp [hc]

/-- What is read of a window leaves the letters alone. -/
theorem writesWindow_of_read {t : Text} (h : read t = .ok options) :
    ∃ letters columns, readLetters {} [] (t.filter (! Unicode.isBlank ·)) = .ok (letters, columns) ∧
      options.unique = letters.unique ∧ options.reverse = letters.reverse ∧
      (letters.start = 0 → letters.length = none → WritesWindow columns options.start options.length) := by
  unfold read at h
  cases hletters : readLetters {} [] (t.filter (! Unicode.isBlank ·)) with
  | error failure =>
    rw [hletters] at h
    cases h
  | ok found =>
    obtain ⟨letters, columns⟩ := found
    simp only [hletters, bind, Except.bind, pure, Except.pure] at h
    refine ⟨letters, columns, rfl, ?_⟩
    split at h
    · next hnone =>
      cases h
      exact ⟨rfl, rfl, fun hs hl => by rw [hs, hl]; exact .absent hnone⟩
    cases hsplit : columns.splitFirst? (· = ',') with
    | none =>
      simp only [hsplit] at h
      cases hstart : readColumn columns columns with
      | error failure =>
        rw [hstart] at h
        cases h
      | ok n =>
        rw [hstart] at h
        cases h
        exact ⟨rfl, rfl, fun _ hl => by rw [hl]; exact .start (readColumn_ok hstart)⟩
    | some halves =>
      obtain ⟨start, length⟩ := halves
      obtain ⟨c, hc, hcolumns⟩ := Text.splitFirst?_eq_some hsplit
      obtain rfl := of_decide_eq_true hc
      simp only [hsplit] at h
      cases hstart : readColumn columns start with
      | error failure =>
        rw [hstart] at h
        cases h
      | ok n =>
        cases hlength : readColumn columns length with
        | error failure =>
          simp only [hstart, hlength] at h
          cases h
        | ok k =>
          simp only [hstart, hlength] at h
          cases h
          exact ⟨rfl, rfl, fun _ _ => .both hcolumns (readColumn_ok hstart) (readColumn_ok hlength)⟩

/-- What is accepted writes the options that are read from it. -/
theorem writtenBy_of_read {t : Text} (h : read t = .ok options) : options.WrittenBy t := by
  obtain ⟨letters, columns, hletters, hunique, hreverse, hwindow⟩ := writesWindow_of_read h
  obtain ⟨hplain, rfl, rfl⟩ := readLetters_ok hletters
  have hmem : ∀ {c : Char}, ¬ Unicode.isBlank c → (c ∈ t.filter (! Unicode.isBlank ·) ↔ c ∈ t) := by
    intro c hc
    simp [List.mem_filter, hc]
  refine ⟨fun c hc => ?_, ?_, ?_, ?_⟩
  · by_cases hblank : Unicode.isBlank c
    · exact .inl hblank
    · exact .inr (hplain c ((hmem hblank).mpr hc))
  · rw [hunique, ← hmem (by decide)]
    simp
  · rw [hreverse, ← hmem (by decide)]
    simp
  · rw [List.nil_append, columnText_filter] at hwindow
    exact hwindow rfl rfl

end reading
section order

/-- The key of a line is made of the characters in the columns from the first one on, as many as there are to be. -/
theorem getElem?_key (options : SortOptions) (t : Text) (n : Nat) :
    (options.key t)[n]? = if ∀ k ∈ options.length, n < k then t[options.start + n]? else none := by
  unfold key
  cases options.length with
  | none => simp
  | some k => simp [List.getElem?_take]

/-- Whether a line may stand before another: its key does not come behind that of the other, by the code points
of the characters. -/
def Precedes (options : SortOptions) (a b : Text) : Prop :=
  if options.reverse then ¬ options.key a < options.key b else ¬ options.key b < options.key a

theorem inOrder_iff : options.inOrder a b ↔ options.Precedes a b := by
  unfold inOrder Precedes
  split <;> rw [Bool.not_eq_true', ← Text.before_iff, Bool.not_eq_true]

theorem Precedes.of_key_eq (h : options.Precedes a b) (hk : options.key c = options.key b) : options.Precedes a c := by
  rwa [Precedes, hk]

theorem precedes_of_key_eq (h : options.key a = options.key b) : options.Precedes a b := by
  rw [Precedes, h]
  split <;> exact List.lt_irrefl _

theorem Precedes.trans (h : options.Precedes a b) (h' : options.Precedes b c) : options.Precedes a c := by
  unfold Precedes at *
  split at h
  · rw [if_pos ‹_›] at h' ⊢
    exact List.not_lt.mpr (List.le_trans (List.not_lt.mp h') (List.not_lt.mp h))
  · rw [if_neg ‹_›] at h' ⊢
    exact List.not_lt.mpr (List.le_trans (List.not_lt.mp h) (List.not_lt.mp h'))

theorem precedes_total (a b : Text) : options.Precedes a b ∨ options.Precedes b a := by
  unfold Precedes
  by_cases h : options.key a < options.key b
  · have hback : ¬ options.key b < options.key a := fun hlt => List.lt_irrefl _ (List.lt_trans h hlt)
    split
    · exact .inr hback
    · exact .inl hback
  · split
    · exact .inl h
    · exact .inr h

/-- Lines that may stand before one another have one key. -/
theorem Precedes.antisymm (h : options.Precedes a b) (h' : options.Precedes b a) : options.key a = options.key b := by
  by_contra hne
  unfold Precedes at *
  rcases Std.lt_trichotomy (options.key a) (options.key b) with hlt | heq | hgt
  · split at h <;> simp_all
  · exact hne heq
  · split at h <;> simp_all

/-- The lines of a key, in the order in which they stand. -/
def ofKey (options : SortOptions) (k : Text) (lines : List Text) : List Text := lines.filter (options.key · = k)

theorem ofKey_cons_self (options : SortOptions) (a : Text) (lines : List Text) :
    options.ofKey (options.key a) (a :: lines) = a :: options.ofKey (options.key a) lines := by
  simp [ofKey]

theorem ofKey_cons_ne (h : options.key a ≠ k) (lines : List Text) :
    options.ofKey k (a :: lines) = options.ofKey k lines := by
  simp [ofKey, h]

theorem ofKey_eq_nil (h : ∀ a ∈ lines, options.key a ≠ k) : options.ofKey k lines = [] := by
  simpa [ofKey] using h

/-- What sorting makes of lines. Those that are left stand in the order of their keys. Of each key all lines are
left, in the order they had, or the first of them if keys are to be unique. -/
structure Sorts (options : SortOptions) (unique : Bool) (lines after : List Text) : Prop where
  ordered : after.Pairwise options.Precedes
  left : ∀ k, options.ofKey k after = if unique then (options.ofKey k lines).take 1 else options.ofKey k lines

/-- Nothing is lost in sorting unless keys are to be unique. -/
theorem Sorts.perm (h : options.Sorts false lines after) : after.Perm lines := by
  refine List.perm_iff_count.mpr fun a => ?_
  have hcount := congrArg (List.count a) (h.left (options.key a))
  simpa [ofKey, List.count_filter] using hcount

/-- Lines are determined by their order and by what is left of each key. -/
theorem eq_of_ofKey {lines' : List Text} (h : lines.Pairwise options.Precedes) (h' : lines'.Pairwise options.Precedes)
    (hk : ∀ k, options.ofKey k lines = options.ofKey k lines') : lines = lines' := by
  induction lines generalizing lines' with
  | nil =>
    cases lines' with
    | nil => rfl
    | cons b rest' =>
      have hb := hk (options.key b)
      rw [ofKey_cons_self] at hb
      cases hb
  | cons a rest ih =>
    cases lines' with
    | nil =>
      have ha := hk (options.key a)
      rw [ofKey_cons_self] at ha
      cases ha
    | cons b rest' =>
      have hmem : ∀ {x : Text} {xs ys : List Text},
          options.ofKey (options.key x) (x :: xs) = options.ofKey (options.key x) ys →
          x ∈ ys := by
        intro x xs ys heq
        have hx : x ∈ options.ofKey (options.key x) ys := by
          rw [← heq, ofKey_cons_self]
          exact List.mem_cons_self
        exact List.mem_of_mem_filter hx
      have hab : options.key a = options.key b := by
        rcases List.mem_cons.mp (hmem (hk (options.key a))) with rfl | hin
        · rfl
        rcases List.mem_cons.mp (hmem (hk (options.key b)).symm) with rfl | hin'
        · rfl
        exact (List.rel_of_pairwise_cons h hin').antisymm (List.rel_of_pairwise_cons h' hin)
      have hhead := hk (options.key a)
      rw [ofKey_cons_self, hab, ofKey_cons_self] at hhead
      obtain ⟨rfl, -⟩ := List.cons.inj hhead
      refine congrArg (a :: ·) (ih h.of_cons h'.of_cons fun k => ?_)
      by_cases hka : options.key a = k
      · subst hka
        have htail := hk (options.key a)
        rw [ofKey_cons_self, ofKey_cons_self] at htail
        exact (List.cons.inj htail).2
      · have htail := hk k
        rwa [ofKey_cons_ne hka, ofKey_cons_ne hka] at htail

theorem Sorts.unique {after' : List Text} {u : Bool} (h : options.Sorts u lines after)
    (h' : options.Sorts u lines after') :
    after = after' :=
  eq_of_ofKey h.ordered h'.ordered fun k => (h.left k).trans (h'.left k).symm

theorem inOrder_trans (a b c : Text) (h : options.inOrder a b) (h' : options.inOrder b c) : options.inOrder a c :=
  inOrder_iff.mpr ((inOrder_iff.mp h).trans (inOrder_iff.mp h'))

theorem inOrder_total (a b : Text) : options.inOrder a b || options.inOrder b a := by
  rw [Bool.or_eq_true, inOrder_iff, inOrder_iff]
  exact precedes_total a b

theorem sorted_ordered (options : SortOptions) (lines : List Text) : (options.sorted lines).Pairwise options.Precedes :=
  (List.pairwise_mergeSort inOrder_trans inOrder_total lines).imp inOrder_iff.mp

/-- The lines of a key are in order as they stand, so that sorting leaves them so, and it loses none. -/
theorem ofKey_sorted (options : SortOptions) (lines : List Text) (k : Text) :
    options.ofKey k (options.sorted lines) = options.ofKey k lines := by
  have hordered : (options.ofKey k lines).Pairwise (options.inOrder · ·) := by
    refine List.pairwise_filter.mpr (List.pairwise_of_forall fun a b ha hb => inOrder_iff.mpr (precedes_of_key_eq ?_))
    rw [of_decide_eq_true ha, of_decide_eq_true hb]
  have hsub : (options.ofKey k lines).Sublist (options.ofKey k (options.sorted lines)) := by
    have hkept := (List.sublist_mergeSort inOrder_trans inOrder_total hordered List.filter_sublist).filter
      (options.key · = k)
    simpa only [ofKey, sorted, List.filter_filter, Bool.and_self] using hkept
  exact (hsub.eq_of_length ((List.mergeSort_perm lines options.inOrder).filter _).length_eq.symm).symm

theorem sorts_sorted (options : SortOptions) (lines : List Text) : options.Sorts false lines (options.sorted lines) :=
  ⟨options.sorted_ordered lines, options.ofKey_sorted lines⟩

/-- Where lines are in order, those of one key stand together, so that the first of each is left. -/
theorem ofKey_dropRepeatsOf (h : (a :: lines).Pairwise options.Precedes) (k : Text) :
    options.ofKey k (a :: options.dropRepeatsOf a lines) = (options.ofKey k (a :: lines)).take 1 := by
  induction lines generalizing a with
  | nil =>
    rw [dropRepeatsOf]
    by_cases hk : options.key a = k
    · subst hk
      rw [ofKey_cons_self]
      rfl
    · rw [ofKey_cons_ne hk]
      rfl
  | cons b rest ih =>
    rw [dropRepeatsOf]
    split
    · next hab =>
      have hrest := ih (h.sublist ((List.sublist_cons_self b rest).cons_cons a))
      rw [hrest]
      by_cases hk : options.key a = k
      · subst hk
        rw [ofKey_cons_self, ofKey_cons_self]
        rfl
      · rw [ofKey_cons_ne hk, ofKey_cons_ne hk, ofKey_cons_ne (hab ▸ hk)]
    · next hab =>
      have hrest := ih h.of_cons
      by_cases hk : options.key a = k
      · subst hk
        -- The key of what stands behind cannot come back to that of the first line.
        have hnone : options.ofKey (options.key a) (b :: rest) = [] := by
          refine ofKey_eq_nil fun c hc heq => ?_
          have hb := List.rel_of_pairwise_cons h List.mem_cons_self
          rcases List.mem_cons.mp hc with rfl | hin
          · exact hab heq.symm
          · exact hab (hb.antisymm ((List.rel_of_pairwise_cons h.of_cons hin).of_key_eq heq.symm))
        rw [ofKey_cons_self, ofKey_cons_self, hrest, hnone]
        rfl
      · rw [ofKey_cons_ne hk, ofKey_cons_ne hk, hrest]

theorem sorts_arrange (options : SortOptions) (lines : List Text) :
    options.Sorts options.unique lines (options.arrange lines) := by
  unfold arrange
  split
  · next hunique =>
    refine ⟨(options.sorted_ordered lines).sublist (options.dropRepeats_sublist _), fun k => ?_⟩
    rw [if_pos hunique, ← options.ofKey_sorted lines]
    have hordered := options.sorted_ordered lines
    cases hs : options.sorted lines with
    | nil => rfl
    | cons a rest => exact ofKey_dropRepeatsOf (hs ▸ hordered) k
  · next hunique =>
    rw [Bool.not_eq_true] at hunique
    exact hunique ▸ options.sorts_sorted lines

end order

section block
variable {left right : Nat}

/-- What a block selects of a line. -/
def piece (left right : Nat) (line : Text) : Text := (line.take right).drop left

/-- A line with another piece in place of what a block selects of it. -/
def putPiece (left right : Nat) (line piece : Text) : Text := line.take left ++ piece ++ line.drop right

theorem arrangeBlock_eq (options : SortOptions) (left right : Nat) (lines : List Text) :
    options.arrangeBlock left right lines =
      List.zipWith (putPiece left right) lines (options.sorted (lines.map (piece left right))) := rfl

theorem length_arrangeBlock (options : SortOptions) (left right : Nat) (lines : List Text) :
    (options.arrangeBlock left right lines).length = lines.length := by
  rw [arrangeBlock_eq, List.length_zipWith, (options.sorts_sorted _).perm.length_eq, List.length_map, Nat.min_self]

theorem length_arrange_le (options : SortOptions) (lines : List Text) :
    (options.arrange lines).length ≤ lines.length := by
  have hsorted : (lines.mergeSort options.inOrder).length = lines.length := List.length_mergeSort lines
  rw [← hsorted]
  unfold arrange
  split
  · exact (options.dropRepeats_sublist _).length_le
  · exact Nat.le_refl _

end block
end SortOptions

namespace Frame
open LineList

/-- Whether a block with something in it is selected. -/
def HasBlock (f : Frame) : Prop := f.selection.kind = .block ∧ f.selection.isEmpty = false

theorem lineTexts_eq (f : Frame) {first last : Nat} (hl : last < f.text.lineCount) :
    f.lineTexts first last = range f.text.lines first last := by
  have hsegments := f.text.lineCount_le_segments
  have hlines : f.text.lines.length = f.text.lineCount := by
    rw [Text.lines, List.length_map, List.length_take, Nat.min_eq_left hsegments]
  refine List.ext_getElem ?_ fun n hn hn' => ?_
  · simp only [lineTexts, lineRange, range, List.length_map, List.length_range', List.length_drop, List.length_take,
      hlines]
    omega
  · simp only [lineTexts, lineRange, List.length_map, List.length_range'] at hn
    have hseg : first + n < f.text.segments.length := by omega
    simp [lineTexts, lineRange, range, Text.lines, List.getElem?_eq_getElem hseg]

section sorted
variable (f : Frame)

theorem sortedTexts_plain (h : ¬ f.HasBlock) (options : SortOptions) (first last : Nat) :
    f.sortedTexts options first last = options.arrange (f.lineTexts first last) :=
  if_neg fun hblock => h ⟨hblock.1, by simpa using hblock.2⟩

theorem sortedTexts_block (h : f.HasBlock) {left right : Nat} (hc : f.blockColumns = (left, right))
    (options : SortOptions) (first last : Nat) :
    f.sortedTexts options first last = options.arrangeBlock left right (f.lineTexts first last) := by
  have hblock : f.selection.kind = .block ∧ ¬ f.selection.isEmpty := ⟨h.1, by simp [h.2]⟩
  simp only [sortedTexts, hc, if_pos hblock]

theorem length_sortedTexts_le (options : SortOptions) (first last : Nat) :
    (f.sortedTexts options first last).length ≤ (f.lineTexts first last).length := by
  by_cases h : f.HasBlock
  · rw [f.sortedTexts_block h rfl, options.length_arrangeBlock]
  · rw [f.sortedTexts_plain h]
    exact options.length_arrange_le _

end sorted

/-- Lines put in place of lines: what stands in front of the first and behind the last stays. -/
theorem replaceLines_text (f : Frame) {first last : Nat} (hf : first ≤ last) (lines : List Text) :
    (f.replaceLines first last lines).text =
      f.text.take (f.lineStart first) ++ (Text.join f.eol lines ++ f.text.drop (f.lineEnd last)) := by
  have hspan : f.lineStart first ≤ f.lineEnd last :=
    Nat.le_trans (f.lineStart_mono hf) (Nat.le_add_right _ _)
  exact f.replace_text hspan (f.text.lineEnd_le last) _

end Frame
end ExEditor
