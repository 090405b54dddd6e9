import ExEditor.Proofs.Text.Trim
import ExEditor.Session.Nested

/-! A line that sources a script, as it is compared with the lines of scripts, is read as one that sources a
script. -/
namespace ExEditor
namespace Command

theorem isWordChar_toNat {c : Char} (h : isWordChar c) : 65 ≤ c.toNat ∧ c.toNat < 123 := by
  change (decide (c.val ≥ 'A'.val ∧ c.val ≤ 'Z'.val) || (c.val ≥ 'a'.val && c.val ≤ 'z'.val)) = true at h
  simp only [Bool.or_eq_true, Bool.and_eq_true, decide_eq_true_eq, UInt32.le_iff_toNat_le, ge_iff_le] at h
  change (65 ≤ c.toNat ∧ c.toNat ≤ 90) ∨ (97 ≤ c.toNat ∧ c.toNat ≤ 122) at h
  omega

theorem isBlank_of_break (c : Char) (h : c = '\n' || c = '\r') : Unicode.isBlank c := by
  simp only [Bool.or_eq_true, decide_eq_true_eq] at h
  rcases h with rfl | rfl <;> decide

/-- Letters are no white space. -/
theorem isWordChar_not_blank {c : Char} (h : isWordChar c) : ¬ Unicode.isBlank c := by
  obtain ⟨hlow, hhigh⟩ := isWordChar_toNat h
  have hnone : ∀ n < 123, 65 ≤ n → Unicode.whiteSpace.has n = false := by decide
  simp [Unicode.isBlank, hnone _ hhigh hlow]

/-- Letters do not belong to ranges. -/
theorem isWordChar_not_range {c : Char} (h : isWordChar c) : Address.isRangeChar c = false := by
  obtain ⟨hlow, hhigh⟩ := isWordChar_toNat h
  have hnone : ∀ n < 123, 65 ≤ n → Address.isRangeChar (Char.ofNat n) = false := by decide +kernel
  rw [← Char.ofNat_toNat c]
  exact hnone _ hhigh hlow

theorem scanRange_append (inside : Address.Inside) (blank : Bool) (t : Text) :
    (Address.scanRange inside blank t).1 ++ (Address.scanRange inside blank t).2 = t := by
  induction t generalizing inside blank with
  | nil => rfl
  | cons c t ih =>
    have hstep : ∀ (stops : Bool) (inside : Address.Inside) (blank : Bool),
        let scanned := if stops then ([], c :: t) else
          (c :: (Address.scanRange inside blank t).1, (Address.scanRange inside blank t).2)
        scanned.1 ++ scanned.2 = c :: t := fun stops inside blank => by
      cases stops
      · exact congrArg (c :: ·) (ih inside blank)
      · rfl
    exact hstep _ _ _

/-- A line that begins with a letter has no range. -/
theorem scanRange_word {c : Char} (h : isWordChar c) (t : Text) :
    Address.scanRange .address true (c :: t) = ([], c :: t) := by
  simp [Address.scanRange, isWordChar_not_range h]

theorem bareLine_head {line t : Text} {c : Char} (h : bareLine line = c :: t) : ¬ Unicode.isBlank c := by
  have hcut : ∀ t : Text, Text.dropEndWhile (fun c => c = '\n' || c = '\r') (Text.trimStart t) =
      Text.trimStart (Text.dropEndWhile (fun c => c = '\n' || c = '\r') t) := fun t =>
    (Text.dropWhile_dropEndWhile _ _ t).symm
  rw [bareLine, hcut, Text.trimStart] at h
  have hhead := List.head?_dropWhile_not Unicode.isBlank
    (Text.dropEndWhile (fun c => c = '\n' || c = '\r') (line.trimStart.dropWhile (· = ':')))
  simpa [h] using hhead

theorem trim_ne_nil {c : Char} (h : ¬ Unicode.isBlank c) (t : Text) : Text.trim (c :: t) ≠ [] := by
  rw [Text.trim, Text.trimStart, List.dropWhile_cons_of_neg h, Text.trimEnd, Text.dropEndWhile_cons,
    if_neg fun hc => h hc.2]
  exact List.cons_ne_nil _ _

theorem readSign_ne {t : Text} {verb : Verb} {rest : Text} (h : readSign? t = some (verb, rest)) :
    verb ≠ .source := by
  rintro rfl
  unfold readSign? at h
  split at h <;> try cases h
  split at h <;> cases h

/-- A line that sources a script begins with the word for it. -/
theorem parse_source {line : Text} {c : Command} (h : parse line = .ok (some c)) (hverb : c.verb = .source)
    (hrange : c.range = []) :
    ∃ first t rest, bareLine line = first :: t ∧ isWordChar first ∧
      readWord? (first :: t) = some (.source, rest) := by
  unfold parse at h
  dsimp only at h
  have happend := scanRange_append .address true (bareLine line)
  split at h
  · cases h
  split at h
  · cases h
    cases hverb
  · next hrest =>
    split at h
    · cases h
    · next verb bang rest hread =>
      generalize Address.scanRange .address true (bareLine line) = scanned at h happend hrest hread
      obtain ⟨range, begun⟩ := scanned
      cases h
      dsimp only at hrange hverb hread happend hrest
      obtain rfl : verb = .source := by
        cases verb <;> simp_all
      obtain rfl : range = [] := by
        cases range with
        | nil => rfl
        | cons c t => exact absurd hrange (trim_ne_nil (bareLine_head happend.symm) t)
      cases begun with
      | nil => exact absurd rfl hrest
      | cons first t =>
        unfold readVerb? at hread
        by_cases hfirst : isWordChar first
        · simp only [List.head?_cons, Option.any_some, hfirst, ↓reduceIte, Option.map_eq_some_iff] at hread
          obtain ⟨⟨verb, after⟩, hword, hparts⟩ := hread
          refine ⟨first, t, after, happend.symm, hfirst, ?_⟩
          dsimp only at hparts
          split at hparts <;> cases hparts <;> exact hword
        · simp only [List.head?_cons, Option.any_some, hfirst, Bool.false_eq_true, ↓reduceIte,
            Option.map_eq_some_iff] at hread
          obtain ⟨⟨verb, after⟩, hsign, hparts⟩ := hread
          cases hparts
          exact absurd rfl (readSign_ne hsign)

theorem readWord_trimEnd {t : Text} {rest : Text} (h : readWord? t = some (.source, rest)) :
    ∃ rest, readWord? (Text.trimEnd t) = some (.source, rest) := by
  have hword : (Text.trimEnd t).takeWhile isWordChar = t.takeWhile isWordChar :=
    Text.takeWhile_dropEndWhile (fun _ => isWordChar_not_blank) t
  unfold readWord? at h ⊢
  dsimp only at h ⊢
  rw [hword]
  split at h
  · next verb hverb =>
    cases h
    exact ⟨_, rfl⟩
  · split at h <;> cases h

/-- A line that begins with the word for it, without blanks behind, sources a script. -/
theorem parse_of_word {first : Char} {t rest : Text} (hfirst : isWordChar first)
    (htrim : Text.trimEnd (first :: t) = first :: t) (hword : readWord? (first :: t) = some (.source, rest)) :
    ∃ c, parse (first :: t) = .ok (some c) ∧ c.verb = .source := by
  have hblank := isWordChar_not_blank hfirst
  have hcolon : first ≠ ':' := by
    rintro rfl
    revert hfirst
    decide
  have hbare : bareLine (first :: t) = first :: t := by
    unfold bareLine Text.trimStart
    rw [List.dropWhile_cons_of_neg hblank, List.dropWhile_cons_of_neg (by simpa using hcolon),
      List.dropWhile_cons_of_neg hblank, ← htrim]
    exact Text.dropEndWhile_of_more isBlank_of_break _
  obtain ⟨bang, after, hread⟩ : ∃ bang after, readVerb? (first :: t) = some (.source, bang, after) := by
    unfold readVerb?
    simp only [List.head?_cons, Option.any_some, hfirst, ↓reduceIte, hword, Option.map_some]
    split <;> exact ⟨_, _, rfl⟩
  refine ⟨⟨[], .source, after.trimStart, bang⟩, ?_, rfl⟩
  unfold parse
  have hshown : Text.isBlank (first :: t) = false := by
    simp [Text.isBlank, hblank]
  simp only [hbare, hshown, scanRange_word hfirst, hread, Bool.false_eq_true, ↓reduceIte, reduceCtorEq]
  rfl

/-- The line that scripts are compared with is the line without what is not read of it. -/
theorem bareInvocation_eq (line : Text) : Editor.bareInvocation line = Text.trimEnd (bareLine line) := by
  unfold Editor.bareInvocation bareLine Text.trim Text.trimStart Text.trimEnd
  rw [Text.dropEndWhile_of_less isBlank_of_break, Text.dropWhile_dropEndWhile, Text.dropWhile_dropEndWhile,
    Text.dropEndWhile_of_more fun _ h => h]

/-- A line that sources a script is compared as a line that does so. -/
theorem parse_bareInvocation {line : Text} {c : Command} (h : parse line = .ok (some c))
    (hverb : c.verb = .source) (hrange : c.range = []) :
    ∃ c', parse (Editor.bareInvocation line) = .ok (some c') ∧ c'.verb = .source := by
  obtain ⟨first, t, rest, hbare, hfirst, hword⟩ := parse_source h hverb hrange
  have hcut : Text.trimEnd (first :: t) = first :: Text.trimEnd t := by
    rw [Text.trimEnd, Text.dropEndWhile_cons, if_neg fun hc => isWordChar_not_blank hfirst hc.2]
    rfl
  obtain ⟨rest, hword⟩ := readWord_trimEnd hword
  rw [bareInvocation_eq, hbare]
  rw [hcut] at hword ⊢
  refine parse_of_word hfirst ?_ hword
  rw [← hcut]
  exact Text.dropEndWhile_of_more (fun _ h => h) _

end Command
end ExEditor
