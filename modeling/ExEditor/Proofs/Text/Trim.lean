import ExEditor.Text.Basic

/-! Dropping characters at the two ends of a text. -/
namespace ExEditor
namespace Text
variable {p q w : Char → Bool}

theorem dropEndWhile_cons (p : Char → Bool) (c : Char) (t : Text) :
    dropEndWhile p (c :: t) = if dropEndWhile p t = [] ∧ p c then [] else c :: dropEndWhile p t := by
  rw [dropEndWhile]
  cases h : dropEndWhile p t <;> cases p c <;> simp

/-- Nothing is dropped of a text, with more behind it, that ends in a character that is kept. -/
theorem dropEndWhile_append {t : Text} (h : ∀ c ∈ t.getLast?, ¬ p c) (t' : Text) :
    dropEndWhile p (t ++ t') = t ++ dropEndWhile p t' := by
  induction t with
  | nil => rfl
  | cons c t ih =>
    cases t with
    | nil =>
      have hc : ¬ p c := h c (by simp)
      simp [dropEndWhile_cons, hc]
    | cons d t =>
      have htail := ih (by simpa [List.getLast?_cons] using h)
      rw [List.cons_append, dropEndWhile_cons, htail]
      simp

theorem head?_dropEndWhile (p : Char → Bool) (t : Text) : ∀ c ∈ (dropEndWhile p t).head?, c ∈ t.head? := by
  cases t with
  | nil => simp [dropEndWhile]
  | cons c t =>
    rw [dropEndWhile_cons]
    split <;> simp

theorem getLast?_dropEndWhile (p : Char → Bool) (t : Text) : ∀ c ∈ (dropEndWhile p t).getLast?, ¬ p c := by
  induction t with
  | nil => exact nofun
  | cons d t ih =>
    rw [dropEndWhile_cons]
    split
    · exact nofun
    · next h =>
      intro c hc
      cases ht : dropEndWhile p t with
      | nil =>
        obtain rfl : d = c := by simpa [ht] using hc
        exact fun hp => h ⟨ht, hp⟩
      | cons e u =>
        rw [ht, List.getLast?_cons_cons] at hc
        exact ih c (ht ▸ hc)

/-- What is dropped at the end satisfies what is asked. -/
theorem exists_dropEndWhile (p : Char → Bool) (t : Text) : ∃ u, t = dropEndWhile p t ++ u ∧ ∀ c ∈ u, p c := by
  induction t with
  | nil => exact ⟨[], rfl, nofun⟩
  | cons c t ih =>
    obtain ⟨u, hu, hall⟩ := ih
    rw [dropEndWhile_cons]
    split
    · next h =>
      rw [h.1, List.nil_append] at hu
      exact ⟨c :: t, rfl, List.forall_mem_cons.mpr ⟨h.2, hu ▸ hall⟩⟩
    · exact ⟨u, congrArg (c :: ·) hu, hall⟩

theorem trim_isInfix (t : Text) : t.trim <:+: t := by
  obtain ⟨u, hu, -⟩ := exists_dropEndWhile Unicode.isBlank t.trimStart
  exact (show t.trim <:+: t.trimStart from ⟨[], u, hu.symm⟩).trans (List.dropWhile_suffix _).isInfix

/-- What is dropped at one end does not depend on what is dropped at the other. -/
theorem dropWhile_dropEndWhile (p q : Char → Bool) (t : Text) :
    (dropEndWhile q t).dropWhile p = dropEndWhile q (t.dropWhile p) := by
  induction t with
  | nil => rfl
  | cons c t ih =>
    by_cases hp : p c
    · rw [dropEndWhile_cons, List.dropWhile_cons_of_pos hp, ← ih]
      split
      · next h => simp [h.1]
      · rw [List.dropWhile_cons_of_pos hp]
    · rw [List.dropWhile_cons_of_neg hp, dropEndWhile_cons]
      split
      · rfl
      · rw [List.dropWhile_cons_of_neg hp]

/-- Dropping more at the end makes up for having dropped less. -/
theorem dropEndWhile_of_less (h : ∀ c, q c → p c) (t : Text) :
    dropEndWhile p (dropEndWhile q t) = dropEndWhile p t := by
  induction t with
  | nil => rfl
  | cons c t ih =>
    rw [dropEndWhile_cons q, dropEndWhile_cons p, ← ih]
    split
    · next hq => simp [hq.1, h c hq.2, dropEndWhile]
    · rw [dropEndWhile_cons p]

/-- There is nothing more to drop where more has been dropped. -/
theorem dropEndWhile_of_more (h : ∀ c, q c → p c) (t : Text) :
    dropEndWhile q (dropEndWhile p t) = dropEndWhile p t := by
  induction t with
  | nil => rfl
  | cons c t ih =>
    rw [dropEndWhile_cons p]
    split
    · rfl
    · next hp => rw [dropEndWhile_cons q, ih, if_neg fun hq => hp ⟨hq.1, h c hq.2⟩]

theorem head?_trimStart (t : Text) : ∀ c ∈ t.trimStart.head?, ¬ Unicode.isBlank c := by
  have hhead := List.head?_dropWhile_not Unicode.isBlank t
  intro c hc
  simp_all [trimStart]

@[simp] theorem trimStart_trimStart (t : Text) : t.trimStart.trimStart = t.trimStart := by
  have hhead := t.head?_trimStart
  cases h : t.trimStart with
  | nil => rfl
  | cons c rest => exact List.dropWhile_cons_of_neg (hhead c (by simp [h]))

@[simp] theorem trim_trimStart (t : Text) : t.trimStart.trim = t.trim := by
  rw [trim, trim, trimStart_trimStart]

@[simp] theorem trim_trim (t : Text) : t.trim.trim = t.trim := by
  have hswap : Text.trimStart (trimEnd t.trimStart) = trimEnd (Text.trimStart t.trimStart) :=
    dropWhile_dropEndWhile _ _ _
  rw [trim, trim, hswap, trimStart_trimStart, trimEnd, trimEnd, dropEndWhile_of_more fun _ h => h]

/-- What is taken from the front does not reach what is dropped at the end. -/
theorem takeWhile_dropEndWhile (h : ∀ c, w c → ¬ p c) (t : Text) :
    (dropEndWhile p t).takeWhile w = t.takeWhile w := by
  induction t with
  | nil => rfl
  | cons c t ih =>
    by_cases hw : w c
    · rw [dropEndWhile_cons, if_neg fun hp => h c hw hp.2, List.takeWhile_cons_of_pos hw,
        List.takeWhile_cons_of_pos hw, ih]
    · rw [List.takeWhile_cons_of_neg hw, dropEndWhile_cons]
      split
      · rfl
      · rw [List.takeWhile_cons_of_neg hw]

/-- What is taken from the front ends where something else follows. -/
theorem takeWhile_append {t rest : Text} (ht : ∀ c ∈ t, w c) (hrest : ∀ c ∈ rest.head?, ¬ w c) :
    (t ++ rest).takeWhile w = t := by
  have hnone : rest.takeWhile w = [] := by
    cases rest with
    | nil => rfl
    | cons c t => exact List.takeWhile_cons_of_neg (hrest c (by simp))
  rw [List.takeWhile_append_of_pos ht, hnone, List.append_nil]

end Text
end ExEditor
