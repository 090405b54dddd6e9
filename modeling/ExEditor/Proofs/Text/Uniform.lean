import ExEditor.Frame.Basic
import ExEditor.Proofs.Text.Feeds
import ExEditor.Proofs.Text.Joined

/-! Texts all of whose line breaks are the same. They are closed under all that edits do to a text: pieces of it, cut
at places that no break is cut in two at, are such texts again, and so is what is put together from them. -/
namespace ExEditor

theorem LineBreak.isRow (b : LineBreak) {body : Text} (h : body.IsPlain) : (body ++ b.text).IsRow := by
  cases b with
  | feed => exact ⟨body, h, .inl rfl⟩
  | returnFeed => exact ⟨body, h, .inr rfl⟩

namespace Text

/-- A text all of whose line breaks are the given one. -/
inductive BrokenBy (b : LineBreak) : Text → Prop
  | nil : BrokenBy b []
  | char {c : Char} {t : Text} (hc : isBreak c = false) (h : BrokenBy b t) : BrokenBy b (c :: t)
  | newLine {t : Text} (h : BrokenBy b t) : BrokenBy b (b.text ++ t)

variable {b : LineBreak} {t u : Text}

namespace BrokenBy

theorem of_isPlain (h : IsPlain t) : BrokenBy b t := by
  induction t with
  | nil => exact .nil
  | cons c t ih =>
    simp only [IsPlain, List.mem_cons, forall_eq_or_imp] at h
    exact .char h.1 (ih h.2)

theorem break_text (b : LineBreak) : BrokenBy b b.text := by
  have h := BrokenBy.newLine (b := b) .nil
  rwa [List.append_nil] at h

theorem append (ht : BrokenBy b t) (hu : BrokenBy b u) : BrokenBy b (t ++ u) := by
  induction ht with
  | nil => exact hu
  | char hc _ ih => exact .char hc ih
  | newLine _ ih =>
    rw [List.append_assoc]
    exact .newLine ih

theorem flatten {texts : List Text} (h : ∀ t ∈ texts, BrokenBy b t) : BrokenBy b texts.flatten := by
  induction texts with
  | nil => exact .nil
  | cons t texts ih =>
    simp only [List.mem_cons, forall_eq_or_imp] at h
    exact h.1.append (ih h.2)

/-- All lines but the last one end in the break. -/
theorem segment_eq (h : BrokenBy b t) : ∀ s ∈ t.segments.dropLast, s = lineBody s ++ b.text := by
  induction h with
  | nil => simp [Text.segments]
  | @char c t hc h ih =>
    obtain ⟨s, rest, hs⟩ := List.exists_cons_of_ne_nil t.segments_ne_nil
    have hcons : Text.segments (c :: t) = (c :: s) :: rest :=
      segments_plain_append (show IsPlain [c] by simpa [IsPlain] using hc) hs
    rw [hs] at ih
    rw [hcons]
    cases rest with
    | nil => simp
    | cons next rest =>
      simp only [List.dropLast_cons_cons, List.mem_cons, forall_eq_or_imp] at ih ⊢
      have hbody : lineBody (c :: s) = c :: lineBody s := by simp [lineBody, hc]
      refine ⟨?_, ih.2⟩
      rw [hbody, List.cons_append, ← ih.1]
  | @newLine t h ih =>
    have hrow : IsRow b.text := by simpa using b.isRow isPlain_nil
    have hbody : lineBody b.text = [] := by cases b <;> rfl
    rw [segments_row hrow, List.dropLast_cons_of_ne_nil t.segments_ne_nil]
    simp only [List.mem_cons, forall_eq_or_imp]
    exact ⟨by simp [hbody], ih⟩

/-- Both pieces of a text are broken as it is, unless a break is cut in two. -/
theorem pieces (h : BrokenBy b t) {front back : Text} (ht : t = front ++ back) (hcut : ¬ Meets front back) :
    BrokenBy b front ∧ BrokenBy b back := by
  induction h generalizing front with
  | nil =>
    obtain ⟨rfl, rfl⟩ := List.append_eq_nil_iff.mp ht.symm
    exact ⟨.nil, .nil⟩
  | @char c t hc h ih =>
    cases front with
    | nil =>
      rw [List.nil_append] at ht
      exact ⟨.nil, ht ▸ .char hc h⟩
    | cons d front =>
      obtain ⟨rfl, rfl⟩ := List.cons.inj ht
      have hinner : ¬ Meets front back := by
        by_cases hnil : front = []
        · simp [hnil, Meets]
        · rwa [← meets_cons hnil]
      obtain ⟨hfront, hback⟩ := ih rfl hinner
      exact ⟨.char hc hfront, hback⟩
  | @newLine t h ih =>
    by_cases hnil : front = []
    · rw [hnil, List.nil_append] at ht
      exact ⟨hnil ▸ .nil, ht ▸ .newLine h⟩
    · -- A break stands in front. It is not cut in two, so all of it stands in the first piece.
      obtain ⟨front, rfl⟩ : ∃ rest, front = b.text ++ rest := by
        cases b with
        | feed =>
          obtain ⟨c, rest, rfl⟩ := List.exists_cons_of_ne_nil hnil
          obtain ⟨rfl, -⟩ := List.cons.inj ht
          exact ⟨rest, rfl⟩
        | returnFeed =>
          obtain ⟨c, rest, rfl⟩ := List.exists_cons_of_ne_nil hnil
          obtain ⟨rfl, htail⟩ := List.cons.inj ht
          cases rest with
          | nil => exact absurd ⟨rfl, by rw [← show _ = back from htail]; rfl⟩ hcut
          | cons d rest =>
            obtain ⟨rfl, -⟩ := List.cons.inj htail
            exact ⟨rest, rfl⟩
      rw [List.append_assoc] at ht
      have hinner : ¬ Meets front back := by
        by_cases hnil : front = []
        · simp [hnil, Meets]
        · rwa [Meets, List.getLast?_append_of_ne_nil _ hnil] at hcut
      obtain ⟨hfront, hback⟩ := ih (List.append_cancel_left ht) hinner
      exact ⟨.newLine hfront, hback⟩

end BrokenBy

/-- What follows the last break has none. -/
theorem isPlain_of_getLast?_segments (t : Text) : ∀ s ∈ t.segments.getLast?, IsPlain s := by
  fun_induction segments t with
  | case1 => simp [isPlain_nil]
  | case2 t ih => rwa [List.getLast?_cons_of_ne_nil (segments_ne_nil t)]
  | case3 c t _ hc ih => rwa [List.getLast?_cons_of_ne_nil (segments_ne_nil t)]
  | case4 c t _ _ h _ => exact absurd h (segments_ne_nil t)
  | case5 c t _ hc s rest h ih =>
    rw [h] at ih
    cases rest with
    | nil => simpa [IsPlain, hc] using ih
    | cons next rest => simpa [List.getLast?_cons_cons] using ih

/-- A text is broken by a break exactly if its lines end in it, apart from the last one. -/
theorem brokenBy_iff_segments : BrokenBy b t ↔ ∀ s ∈ t.segments.dropLast, s = lineBody s ++ b.text := by
  refine ⟨BrokenBy.segment_eq, fun h => ?_⟩
  have hsplit : t.segments.dropLast.flatten ++ t.segments.getLast t.segments_ne_nil = t := by
    rw [← List.flatten_concat, List.dropLast_concat_getLast, segments_flatten]
  rw [← hsplit]
  have hlast := t.isPlain_of_getLast?_segments _ (List.getLast?_eq_some_getLast t.segments_ne_nil)
  refine (BrokenBy.flatten fun s hs => ?_).append (.of_isPlain hlast)
  rw [h s hs]
  exact (BrokenBy.of_isPlain (isPlain_lineBody s)).append (.break_text b)

instance (b : LineBreak) (t : Text) : Decidable (BrokenBy b t) := decidable_of_iff _ brokenBy_iff_segments.symm

/-- No half of a break is left over. -/
theorem BrokenBy.not_meets (h : BrokenBy b t) (u : Text) : ¬ Meets t u := by
  induction h with
  | nil => simp [Meets]
  | @char c t hc _ ih =>
    by_cases hnil : t = []
    · subst hnil
      rintro ⟨hreturn, -⟩
      obtain rfl : c = '\r' := by simpa using hreturn
      cases hc
    · rwa [meets_cons hnil]
  | @newLine t _ ih =>
    by_cases hnil : t = []
    · subst hnil
      cases b <;> simp [Meets, LineBreak.text]
    · rwa [Meets, List.getLast?_append_of_ne_nil _ hnil]

theorem BrokenBy.not_mem_return (h : BrokenBy .feed t) : '\r' ∉ t := by
  induction h with
  | nil => exact List.not_mem_nil
  | char hc _ ih =>
    refine List.not_mem_cons_of_ne_of_not_mem ?_ ih
    rintro rfl
    cases hc
  | newLine _ ih => simpa [LineBreak.text] using ih

section cuts
variable (h : BrokenBy b t)
include h

theorem brokenBy_lineStart (n : Nat) :
    BrokenBy b (t.take (t.lineStart n)) ∧ BrokenBy b (t.drop (t.lineStart n)) := by
  rcases Nat.lt_or_ge n t.segments.length with hlt | hge
  · exact h.pieces (List.take_append_drop _ t).symm (not_meets_lineStart hlt)
  · have hnone : t.segments.drop n = [] := List.drop_eq_nil_of_le hge
    rw [take_lineStart, List.take_of_length_le hge, segments_flatten, drop_lineStart, hnone]
    exact ⟨h, .nil⟩

/-- On a line, at its front and at its end no break is cut in two. -/
theorem brokenBy_inside (n : Nat) {k : Nat} (hk : k ≤ (t.line n).length) :
    BrokenBy b (t.take (t.lineStart n + k)) ∧ BrokenBy b (t.drop (t.lineStart n + k)) := by
  obtain ⟨hfront, hback⟩ := brokenBy_lineStart h n
  have hsplit := t.line_append n
  have htake : (t.drop (t.lineStart n)).take k = (t.line n).take k := by
    rw [drop_lineStart_eq, ← hsplit, List.take_append_of_le_length hk]
  have hplain : IsPlain ((t.line n).take k) := fun c hc => isPlain_lineBody _ c (List.mem_of_mem_take hc)
  have hinner : BrokenBy b ((t.drop (t.lineStart n)).take k) := htake ▸ .of_isPlain hplain
  rw [List.take_add, ← List.drop_drop]
  exact ⟨hfront.append hinner, (hback.pieces (List.take_append_drop k _).symm (hinner.not_meets _)).2⟩

theorem brokenBy_lineEnd (n : Nat) : BrokenBy b (t.take (t.lineEnd n)) ∧ BrokenBy b (t.drop (t.lineEnd n)) :=
  brokenBy_inside h n (Nat.le_refl _)

theorem brokenBy_dropEnding? : BrokenBy b ((t.dropEnding? b.text).getD t) := by
  unfold dropEnding?
  split
  · next hends =>
    obtain ⟨front, rfl⟩ : b.text <:+ t := List.isSuffixOf_iff_suffix.mp hends
    have hcut : ¬ Meets front b.text := by
      cases b with
      | feed =>
        rintro ⟨hreturn, -⟩
        exact h.not_mem_return (List.mem_append_left _ (List.mem_of_getLast? hreturn))
      | returnFeed => exact fun hmeets => absurd hmeets.2 (by decide)
    rw [Option.getD_some, List.length_append, Nat.add_sub_cancel, List.take_left]
    exact (h.pieces rfl hcut).1
  · exact h

end cuts

theorem brokenBy_slice {first last : Nat} (hfirst : BrokenBy b (t.take first)) (hlast : BrokenBy b (t.take last)) :
    BrokenBy b (t.slice first last) := by
  unfold slice
  rcases Nat.le_total first last with hle | hle
  · have htake : (t.take last).take first = t.take first := by rw [List.take_take, Nat.min_eq_left hle]
    have hsplit := (List.take_append_drop first (t.take last)).symm
    rw [htake] at hsplit
    exact (hlast.pieces hsplit (hfirst.not_meets _)).2
  · rw [List.drop_eq_nil_of_le (by simp; omega)]
    exact .nil

/-- Plain texts that are joined by the break. -/
theorem brokenBy_join {texts : List Text} (h : ∀ t ∈ texts, IsPlain t) : BrokenBy b (Text.join b.text texts) := by
  induction texts with
  | nil => exact .nil
  | cons t rest ih =>
    simp only [List.mem_cons, forall_eq_or_imp] at h
    cases rest with
    | nil => exact .of_isPlain h.1
    | cons next rest => exact ((BrokenBy.of_isPlain h.1).append (.break_text b)).append (ih h.2)

end Text
end ExEditor
