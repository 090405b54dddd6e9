import ExEditor.Proofs.Frame.InsideLines
import ExEditor.Proofs.Text.LineList
import ExEditor.Proofs.Text.Offsets

/-! Indenting and outdenting lines, whatever breaks they have. A line is changed at its front alone, so that all others
stay what they are; and what outdenting takes away is what fits into the columns it is given. -/
namespace ExEditor

namespace LineList
variable {α : Type} {g g' : α → α} {lines : List α} {first last : Nat}

end LineList

namespace Text
variable {t u : Text} {front back : List Text}

theorem Meets.cons (h : Meets t u) (c : Char) : Meets (c :: t) u := by
  have hne : t ≠ [] := by
    rintro rfl
    cases h.1
  exact (meets_cons hne u).mpr h

/-- Behind whole lines those of what is added begin. -/
theorem segments_append (h : t.segments = front ++ [[]]) (hm : ¬ Meets t u) :
    segments (t ++ u) = front ++ u.segments := by
  fun_induction segments t generalizing front with
  | case1 =>
    cases front with
    | nil => rfl
    | cons s front => simp at h
  | case2 t ih =>
    cases front with
    | nil => simp at h
    | cons s front =>
      obtain ⟨rfl, hrest⟩ := List.cons.inj h
      rw [List.cons_append, List.cons_append, segments_pair, ih hrest fun hmeets => hm ((hmeets.cons _).cons _)]
      rfl
  | case3 c t hp hc ih =>
    cases front with
    | nil => simp at h
    | cons s front =>
      obtain ⟨rfl, hrest⟩ := List.cons.inj h
      have hpair : ∀ t', c = '\r' → t ++ u = '\n' :: t' → False := by
        intro t' hr heq
        rcases List.append_eq_cons_iff.mp heq with ⟨rfl, hu⟩ | ⟨t'', ht, -⟩
        · exact hm ⟨by rw [hr]; rfl, by rw [hu]; rfl⟩
        · exact hp t'' hr ht
      rw [List.cons_append, segments.eq_3 c _ hpair, if_pos hc, ih hrest fun hmeets => hm (hmeets.cons c)]
      rfl
  | case4 c t _ _ hs _ => exact absurd hs (segments_ne_nil t)
  | case5 c t hp hc s rest hs ih =>
    cases front with
    | nil => simp at h
    | cons s' front =>
      obtain ⟨rfl, rfl⟩ := List.cons.inj h
      have hpair : ∀ t', c = '\r' → t ++ u = '\n' :: t' → False := by
        rintro t' rfl _
        exact hc rfl
      have hs : segments t = (s :: front) ++ [[]] := hs
      have hinner := ih hs fun hmeets => hm (hmeets.cons c)
      rw [List.cons_append, segments.eq_3 c _ hpair, if_neg hc, hinner]
      rfl

section between
variable {s : Text} (h : t.segments = front ++ s :: back)
include h

theorem lt_segments_between : front.length < t.segments.length := by simp [h]

theorem take_between : t.take (t.lineStart front.length) = front.flatten := by
  rw [take_lineStart, h, List.take_left' rfl]

theorem drop_between : t.drop (t.lineStart front.length) = s ++ back.flatten := by
  rw [drop_lineStart, h, List.drop_left' rfl, List.flatten_cons]

theorem eq_between : t = front.flatten ++ (s ++ back.flatten) := by
  rw [← take_between h, ← drop_between h, List.take_append_drop]

theorem not_meets_between : ¬ Meets front.flatten (s ++ back.flatten) := by
  rw [← take_between h, ← drop_between h]
  exact not_meets_lineStart (lt_segments_between h)

theorem segments_front : segments front.flatten = front ++ [[]] := by
  have hlt := lt_segments_between h
  rw [segments_length] at hlt
  have hfront := segments_take_lineStart (Nat.le_of_lt_succ hlt)
  rwa [take_between h, h, List.take_left' rfl] at hfront

/-- What stands from a line on is the lines from there on. -/
theorem segments_behind : segments (s ++ back.flatten) = s :: back := by
  have hall := segments_append (segments_front h) (not_meets_between h)
  rw [← eq_between h, h] at hall
  exact (List.append_cancel_left hall).symm

end between

/-- A line whose front is replaced by a text without breaks, unless this closes up a return and a feed, changes
alone. -/
theorem segments_reword {p q r : Text} (h : t.segments = front ++ (p ++ r) :: back) (hp : IsPlain p) (hq : IsPlain q)
    (hm : ¬ Meets front.flatten (q ++ r ++ back.flatten)) :
    segments (front.flatten ++ (q ++ r ++ back.flatten)) = front ++ (q ++ r) :: back := by
  obtain ⟨s, rest, hs⟩ := List.exists_cons_of_ne_nil (segments_ne_nil (r ++ back.flatten))
  have hold := segments_plain_append hp hs
  rw [← List.append_assoc, segments_behind h] at hold
  obtain ⟨hsame, rfl⟩ := List.cons.inj hold
  obtain rfl := List.append_cancel_left hsame
  rw [segments_append (segments_front h) hm, List.append_assoc q, segments_plain_append hq hs]

end Text

namespace Frame
variable {f : Frame} {front back : List Text}

section lines

theorem line_between {s : Text} (h : f.text.segments = front ++ s :: back) : f.line front.length = Text.lineBody s := by
  rw [line, Text.line_eq, h, List.getD_eq_getElem?_getD, List.getElem?_append_right (Nat.le_refl _), Nat.sub_self]
  rfl

/-- Nothing but a feed closes up with a return. -/
theorem not_meets_of_lineBody {s : Text} (h : Text.lineBody s ≠ []) (t u : Text) : ¬ Text.Meets t (s ++ u) := by
  rintro ⟨-, hhead⟩
  cases s with
  | nil => exact h rfl
  | cons c s =>
    obtain rfl : c = '\n' := by simpa using hhead
    exact h rfl

end lines

section columns
variable {columns tabWidth used : Nat} {c : Char} {t : Text}

/-- The columns that a blank or a tab takes up. -/
def charWidth (tabWidth : Nat) (c : Char) : Nat := if c = ' ' then 1 else tabWidth

/-- The columns that blanks and tabs take up. -/
def width (tabWidth : Nat) : Text → Nat
  | [] => 0
  | c :: t => charWidth tabWidth c + width tabWidth t

end columns

section shift
variable {first last columns tabWidth : Nat} (hf : first ≤ last) (hl : last < f.text.segments.length)
include hf hl

end shift

end Frame
end ExEditor
