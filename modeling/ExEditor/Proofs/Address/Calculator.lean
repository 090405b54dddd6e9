import ExEditor.Proofs.Address.Expression
import Mathlib.Data.List.TakeWhile

/-! The calculator reads nothing but the texts of expressions that can be computed, and finds their exact values. In
any other case it says that the text is malformed, or that a mark in it is not set. -/
namespace ExEditor
namespace Calculator

/-! ### Nothing else is read -/

section sound
variable {f : Frame} {n : Nat} {e : Expression} {v w : Int} {a t u rest : Text}

theorem bind_eq_ok_iff {α β : Type} {x : Except Failure α} {g : α → Except Failure β} {b : β} :
    x.bind g = .ok b ↔ ∃ a, x = .ok a ∧ g a = .ok b := by
  cases x <;> simp [Except.bind]

theorem Writes.blanks {blanks : Text} (hb : blanks.isBlank) (h : Writes .operand e u) :
    Writes .operand e (blanks ++ u) := by
  induction blanks with
  | nil => exact h
  | cons c blanks ih =>
    simp only [Text.isBlank, List.all_cons, Bool.and_eq_true] at hb
    exact .blank hb.1 (ih hb.2)

/-- The text continues what is written of an expression that can be computed to a value, up to blanks in front of the
rest. -/
def Continues (f : Frame) (level : Level) (v : Int) (written t rest : Text) : Prop :=
  ∃ e u w, t = u ++ w ∧ w.trimStart = rest ∧ Writes level e (written ++ u) ∧ e.Computable f ∧ e.value f = v

/-- What the calculator reads with some room are texts of expressions. -/
structure Sound (f : Frame) (n : Nat) : Prop where
  operand : ∀ {t v rest}, primary f n t = .ok (v, rest) →
    ∃ e u, t = u ++ rest ∧ Writes .operand e u ∧ e.Computable f ∧ e.value f = v
  product : ∀ {t v rest}, product f n t = .ok (v, rest) → Continues f .product v [] t rest
  factors : ∀ {e a t v rest}, Writes .product e a → e.Computable f →
    factors f n (e.value f) t = .ok (v, rest) → Continues f .product v a t rest
  sum : ∀ {t v rest}, sum f n t = .ok (v, rest) → Continues f .sum v [] t rest
  terms : ∀ {e a t v rest}, Writes .sum e a → e.Computable f →
    terms f n (e.value f) t = .ok (v, rest) → Continues f .sum v a t rest

theorem numeral_sound {c : Char} (hc : c.isDigit) (h : numeral (c :: t) = .ok (v, rest)) :
    ∃ e u, c :: t = u ++ rest ∧ Writes .operand e u ∧ e.Computable f ∧ e.value f = v := by
  unfold numeral at h
  dsimp only at h
  split at h
  · next n hn =>
    obtain ⟨rfl, hword⟩ := word?_eq_some_iff.mp hn
    cases h
    have hnumeral : Text.isNumeral ((c :: t).takeWhile Char.isDigit) := by
      simp [Text.isNumeral, hc]
    exact ⟨_, _, List.takeWhile_append_dropWhile.symm, .number hnumeral, hword, rfl⟩
  · cases h

theorem markLine_sound (h : markLine f t = .ok (v, rest)) :
    ∃ name, t = name :: rest ∧ markedLine? f name = some v := by
  unfold markLine at h
  split at h
  · cases h
  · next name t =>
    split at h
    · cases h
    · next id hid =>
      split at h
      · cases h
      · next offset hoffset =>
        cases h
        exact ⟨name, rfl, by simp [markedLine?, hid, hoffset]⟩

/-- An operand behind its blanks. -/
theorem Sound.primary (h : Sound f n) (hr : primary f (n + 1) t = .ok (v, rest)) :
    ∃ e u, t.trimStart = u ++ rest ∧ Writes .operand e u ∧ e.Computable f ∧ e.value f = v := by
  rw [Calculator.primary] at hr
  cases ht : t.trimStart with
  | nil => simp [ht] at hr
  | cons c t =>
    simp only [ht] at hr
    split_ifs at hr with hdigit hhere hlast hmark hgroup
    · exact numeral_sound hdigit hr
    · cases hr
      exact ⟨.here, ['.'], by rw [hhere]; rfl, .here, trivial, rfl⟩
    · cases hr
      exact ⟨.last, ['$'], by rw [hlast]; rfl, .last, trivial, rfl⟩
    · obtain ⟨name, rfl, hline⟩ := markLine_sound hr
      exact ⟨.mark name, ['\'', name], by rw [hmark]; rfl, .mark name, by simp [Expression.Computable, hline],
        by simp [Expression.value, hline]⟩
    · obtain ⟨⟨value, inner⟩, hsum, hclose⟩ := bind_eq_ok_iff.mp hr
      obtain ⟨e, u, w, rfl, hw, hwrites, hcomputable, rfl⟩ := h.sum hsum
      obtain ⟨blanks, hb, hsplit⟩ := exists_blanks w
      dsimp only at hclose
      rw [← hw, Text.trimStart_trimStart] at hclose
      split at hclose
      · next rest' hparenthesis =>
        cases hclose
        rw [hparenthesis] at hsplit
        exact ⟨e, '(' :: (u ++ (blanks ++ [')'])), by rw [hsplit, hgroup]; simp, .group hwrites hb, hcomputable, rfl⟩
      · cases hclose

theorem Continues.done {level : Level} (h : Writes level e a) (hc : e.Computable f) :
    Continues f level (e.value f) a t t.trimStart :=
  ⟨e, [], t, rfl, rfl, by simpa using h, hc, rfl⟩

/-- What is read further continues also what was read before. -/
theorem Continues.append {level : Level} (h : Continues f level v (a ++ u) t rest) :
    Continues f level v a (u ++ t) rest := by
  obtain ⟨e, u', w, rfl, hw, hwrites, hc, hv⟩ := h
  exact ⟨e, u ++ u', w, (List.append_assoc _ _ _).symm, hw, by rwa [List.append_assoc] at hwrites, hc, hv⟩

theorem Sound.succ (h : Sound f n) : Sound f (n + 1) where
  operand {t v rest} hr := by
    obtain ⟨e, u, ht, hwrites, hc, hv⟩ := h.primary hr
    obtain ⟨blanks, hb, hsplit⟩ := exists_blanks t
    exact ⟨e, blanks ++ u, by rw [List.append_assoc, ← ht]; exact hsplit, hwrites.blanks hb, hc, hv⟩
  product {t v rest} hr := by
    rw [product_eq] at hr
    obtain ⟨⟨value, inner⟩, hprimary, hfactors⟩ := bind_eq_ok_iff.mp hr
    obtain ⟨e, u, rfl, hwrites, hc, rfl⟩ := h.operand hprimary
    exact (h.factors (.product hwrites) hc hfactors).append (a := [])
  sum {t v rest} hr := by
    rw [sum_eq] at hr
    obtain ⟨⟨value, inner⟩, hproduct, hterms⟩ := bind_eq_ok_iff.mp hr
    obtain ⟨e, u, w, rfl, rfl, hwrites, hc, rfl⟩ := h.product hproduct
    rw [terms_trimStart f n (Text.trimStart_trimStart w)] at hterms
    exact (h.terms (.sum hwrites) hc hterms).append (a := [])
  factors {e a t v rest} hwrites hc hr := by
    rcases operator_or_not true t with ⟨o, t', ho, ht⟩ | hnone
    · rw [factors_operator f n ho ht] at hr
      obtain ⟨⟨operand, inner⟩, hprimary, hr⟩ := bind_eq_ok_iff.mp hr
      obtain ⟨value, hmultiply, hfactors⟩ := bind_eq_ok_iff.mp hr
      obtain ⟨e', u, rfl, hwrites', hc', rfl⟩ := h.operand hprimary
      obtain ⟨hallows, rfl⟩ := (multiply_eq_ok_iff ho).mp hmultiply
      obtain ⟨blanks, hb, hsplit⟩ := exists_blanks t
      have hmore := h.factors (.factor ho hwrites hb hwrites') ⟨hc, hc', hallows⟩ hfactors
      rw [hsplit, ht]
      simpa using hmore.append
    · rw [factors_done f n fun c hmem => ⟨hnone c hmem .star rfl, hnone c hmem .slash rfl⟩] at hr
      cases hr
      exact .done hwrites hc
  terms {e a t v rest} hwrites hc hr := by
    rcases operator_or_not false t with ⟨o, t', ho, ht⟩ | hnone
    · rw [terms_operator f n ho ht] at hr
      obtain ⟨⟨operand, inner⟩, hoperand, hr⟩ := bind_eq_ok_iff.mp hr
      obtain ⟨value, hadd, hterms⟩ := bind_eq_ok_iff.mp hr
      obtain ⟨hallows, rfl⟩ := (add_eq_ok_iff ho).mp hadd
      obtain ⟨blanks, hb, hsplit⟩ := exists_blanks t
      rw [hsplit, ht]
      unfold signedOperand at hoperand
      split at hoperand
      · obtain ⟨e', u, w, rfl, rfl, hwrites', hc', rfl⟩ := h.product hoperand
        rw [terms_trimStart f n (Text.trimStart_trimStart w)] at hterms
        have hmore := h.terms (.term ho hwrites hb hwrites') ⟨hc, hc', hallows⟩ hterms
        simpa using hmore.append
      · cases hoperand
        rw [terms_trimStart f n (Text.trimStart_trimStart t')] at hterms
        have hone : IsWord 1 := by decide
        have hmore := h.terms (.step ho hwrites hb) ⟨hc, hone, hallows⟩ hterms
        simpa using hmore.append
    · rw [terms_done f n fun c hmem => ⟨hnone c hmem .plus rfl, hnone c hmem .minus rfl⟩] at hr
      cases hr
      exact .done hwrites hc

theorem sound (f : Frame) (n : Nat) : Sound f n := by
  induction n with
  | zero => exact ⟨nofun, nofun, nofun, nofun, nofun⟩
  | succ n ih => exact ih.succ

end sound

/-! ### Why a text is not computed -/

section blames
variable {f : Frame} {n : Nat} {t u rest : Text} {failure : Failure}

theorem bind_eq_error_iff {α β : Type} {x : Except Failure α} {g : α → Except Failure β} :
    x.bind g = .error failure ↔ x = .error failure ∨ ∃ a, x = .ok a ∧ g a = .error failure := by
  cases x <;> simp [Except.bind]

/-- A text is malformed, or a mark that it names is not set. -/
def Blames (f : Frame) (t : Text) (failure : Failure) : Prop :=
  (∃ cause, failure = .malformed cause) ∨
    ∃ name ∈ MarkId.names, f.mark? (.named name) = none ∧ ['\'', name] <:+: t ∧
      failure = .unresolved (.markNotSet name)

theorem Blames.mono (h : Blames f u failure) (hu : u <:+: t) : Blames f t failure := by
  rcases h with hmalformed | ⟨name, hname, hmark, hin, rfl⟩
  · exact .inl hmalformed
  · exact .inr ⟨name, hname, hmark, hin.trans hu, rfl⟩

theorem Blames.trimStart (h : Blames f t.trimStart failure) : Blames f t failure :=
  h.mono (List.dropWhile_suffix _).isInfix

theorem fitting_blames {k : Int} (h : fitting k = .error failure) : Blames f t failure := by
  unfold fitting at h
  split at h <;> cases h
  exact .inl ⟨_, rfl⟩

theorem multiply_blames {a b : Int} {c : Char} (h : multiply a c b = .error failure) : Blames f t failure := by
  unfold multiply at h
  split_ifs at h
  · exact fitting_blames h
  · cases h
    exact .inl ⟨_, rfl⟩
  · exact fitting_blames h

theorem add_blames {a b : Int} {c : Char} (h : add a c b = .error failure) : Blames f t failure := by
  unfold add at h
  split at h
  · exact fitting_blames h
  · rcases bind_eq_error_iff.mp h with h | ⟨term, -, h⟩ <;> exact fitting_blames h

theorem numeral_blames (h : numeral t = .error failure) : Blames f t failure := by
  unfold numeral at h
  dsimp only at h
  split at h <;> cases h
  exact .inl ⟨_, rfl⟩

theorem markLine_blames (h : markLine f t = .error failure) : Blames f ('\'' :: t) failure := by
  unfold markLine at h
  split at h
  · cases h
    exact .inl ⟨_, rfl⟩
  · next name t =>
    split at h
    · cases h
      exact .inl ⟨_, rfl⟩
    · next id hid =>
      split at h
      · next hmark =>
        cases h
        obtain ⟨hname, rfl⟩ : name ∈ MarkId.names ∧ MarkId.named name = id := by
          simpa [MarkId.named?] using hid
        exact .inr ⟨name, hname, hmark, ⟨[], t, rfl⟩, rfl⟩
      · cases h

theorem Continues.isInfix {level : Level} {v : Int} {a : Text} (h : Continues f level v a t rest) : rest <:+: t := by
  obtain ⟨e, u, w, rfl, rfl, -⟩ := h
  exact ((List.dropWhile_suffix _).trans (List.suffix_append u w)).isInfix

theorem operand_isInfix {v : Int} (h : primary f n t = .ok (v, rest)) : rest <:+: t := by
  obtain ⟨e, u, rfl, -⟩ := (sound f n).operand h
  exact (List.suffix_append u rest).isInfix

/-- The failures of the calculator with some room. -/
structure Blaming (f : Frame) (n : Nat) : Prop where
  operand : ∀ {t failure}, primary f n t = .error failure → Blames f t failure
  product : ∀ {t failure}, product f n t = .error failure → Blames f t failure
  factors : ∀ {v t failure}, factors f n v t = .error failure → Blames f t failure
  sum : ∀ {t failure}, sum f n t = .error failure → Blames f t failure
  terms : ∀ {v t failure}, terms f n v t = .error failure → Blames f t failure

theorem Blaming.primary (h : Blaming f n) (hr : primary f (n + 1) t = .error failure) :
    Blames f t.trimStart failure := by
  rw [Calculator.primary] at hr
  cases ht : t.trimStart with
  | nil =>
    rw [ht] at hr
    cases hr
    exact .inl ⟨_, rfl⟩
  | cons c t =>
    simp only [ht] at hr
    split_ifs at hr with hdigit hhere hlast hmark hgroup
    · exact numeral_blames hr
    · rw [hmark]
      exact markLine_blames hr
    · rcases bind_eq_error_iff.mp hr with hsum | ⟨⟨value, inner⟩, -, hclose⟩
      · exact (h.sum hsum).mono (List.suffix_cons c t).isInfix
      · dsimp only at hclose
        split at hclose <;> cases hclose
        exact .inl ⟨_, rfl⟩
    · cases hr
      exact .inl ⟨_, rfl⟩

theorem Blaming.signedOperand (h : Blaming f n) (hr : signedOperand f n t = .error failure) : Blames f t failure := by
  unfold Calculator.signedOperand at hr
  split at hr
  · exact h.product hr
  · cases hr

theorem signedOperand_isInfix {v : Int} (h : signedOperand f n t = .ok (v, rest)) : rest <:+: t := by
  unfold signedOperand at h
  split at h
  · exact ((sound f n).product h).isInfix
  · cases h
    exact (List.dropWhile_suffix _).isInfix

theorem Blaming.succ (h : Blaming f n) : Blaming f (n + 1) where
  operand hr := (h.primary hr).trimStart
  product {t failure} hr := by
    rw [product_eq] at hr
    rcases bind_eq_error_iff.mp hr with hr | ⟨⟨value, inner⟩, hoperand, hr⟩
    · exact h.operand hr
    · exact (h.factors hr).mono (operand_isInfix hoperand)
  sum {t failure} hr := by
    rw [sum_eq] at hr
    rcases bind_eq_error_iff.mp hr with hr | ⟨⟨value, inner⟩, hproduct, hr⟩
    · exact h.product hr
    · exact (h.terms hr).mono ((sound f n).product hproduct).isInfix
  factors {v t failure} hr := by
    refine Blames.trimStart ?_
    rcases operator_or_not true t with ⟨o, t', ho, ht⟩ | hnone
    · rw [factors_operator f n ho ht] at hr
      rw [ht]
      refine Blames.mono ?_ (List.suffix_cons o.char t').isInfix
      rcases bind_eq_error_iff.mp hr with hr | ⟨⟨operand, inner⟩, hoperand, hr⟩
      · exact h.operand hr
      rcases bind_eq_error_iff.mp hr with hr | ⟨value, -, hr⟩
      · exact multiply_blames hr
      · exact (h.factors hr).mono (operand_isInfix hoperand)
    · rw [factors_done f n fun c hmem => ⟨hnone c hmem .star rfl, hnone c hmem .slash rfl⟩] at hr
      cases hr
  terms {v t failure} hr := by
    refine Blames.trimStart ?_
    rcases operator_or_not false t with ⟨o, t', ho, ht⟩ | hnone
    · rw [terms_operator f n ho ht] at hr
      rw [ht]
      refine Blames.mono ?_ (List.suffix_cons o.char t').isInfix
      rcases bind_eq_error_iff.mp hr with hr | ⟨⟨operand, inner⟩, hoperand, hr⟩
      · exact h.signedOperand hr
      rcases bind_eq_error_iff.mp hr with hr | ⟨value, -, hr⟩
      · exact add_blames hr
      · exact (h.terms hr).mono (signedOperand_isInfix hoperand)
    · rw [terms_done f n fun c hmem => ⟨hnone c hmem .plus rfl, hnone c hmem .minus rfl⟩] at hr
      cases hr

theorem blaming (f : Frame) (n : Nat) : Blaming f n := by
  induction n with
  | zero =>
    have hroom : ∀ {t failure}, (Except.error (.malformed .incompleteAddress) : Reading) = .error failure →
        Blames f t failure := fun h => by
      cases h
      exact .inl ⟨_, rfl⟩
    exact ⟨hroom, hroom, hroom, hroom, hroom⟩
  | succ n ih => exact ih.succ

end blames

/-! ### The calculator as a whole -/

section evaluate
variable (f : Frame) {t : Text} {v : Int}

/-- A sign at the front starts from the current line. -/
theorem sum_withStart (n : Nat) {c : Char} (hc : c = '+' ∨ c = '-') (t : Text) :
    sum f (n + 3) ('.' :: c :: t) = terms f (n + 2) (f.cursorLine + 1) (c :: t) := by
  have hblank : ¬ Unicode.isBlank c := by rcases hc with rfl | rfl <;> decide
  have hdone : factors f (n + 1) (f.cursorLine + 1) (c :: t) = .ok (f.cursorLine + 1, c :: t) := by
    rw [factors_done, trimStart_cons hblank]
    rw [trimStart_cons hblank]
    intro d hd
    obtain rfl : c = d := by simpa using hd
    rcases hc with rfl | rfl <;> decide
  have hprimary : primary f (n + 1) ('.' :: c :: t) = .ok ((f.cursorLine : Int) + 1, c :: t) := rfl
  rw [sum_eq, product_eq, hprimary]
  simp only [Except.bind, hdone]

/-- The value read from the whole of a text, which nothing but blanks may follow. -/
def wholly (t : Text) (r : Int × Text) : Except Failure Int :=
  match r.2.trimStart with
  | [] => .ok r.1
  | c :: _ => .error (.malformed (.trailingInAddress c t))

/-- The calculator reads a sum, with room enough for the text. -/
theorem evaluate_eq (h : t.trim ≠ []) :
    ∃ n, 3 * (withStart t.trim).length + 2 ≤ n ∧
      evaluate f t = (sum f n (withStart t.trim)).bind (wholly t.trim) := by
  obtain ⟨c, u, ht⟩ := List.exists_cons_of_ne_nil h
  unfold evaluate
  simp only [ht]
  by_cases hc : c = '+' ∨ c = '-'
  · have hstart : withStart (c :: u) = '.' :: c :: u := by simp [withStart, hc]
    refine ⟨3 * (c :: u).length + 5, by simp [hstart]; omega, ?_⟩
    rw [hstart, sum_withStart f _ hc, if_pos hc]
    rfl
  · have hstart : withStart (c :: u) = c :: u := by simp [withStart, hc]
    refine ⟨3 * (c :: u).length + 4, by rw [hstart]; omega, ?_⟩
    rw [hstart, if_neg hc]
    rfl

theorem getLast?_withStart (t : Text) : t ≠ [] → (withStart t).getLast? = t.getLast? := by
  intro h
  obtain ⟨c, u, rfl⟩ := List.exists_cons_of_ne_nil h
  unfold withStart
  split
  · exact List.getLast?_cons_cons
  · rfl

/-- Nothing is left behind an expression that goes up to the end of a trimmed text but for blanks. -/
theorem eq_nil_of_trim {u w : Text} (h : withStart t.trim = u ++ w) (ht : t.trim ≠ []) (hw : w.trimStart = []) :
    w = [] := by
  by_contra hne
  have hlast : w.getLast? = (t.trim).getLast? := by
    rw [← getLast?_withStart _ ht, h, List.getLast?_append_of_ne_nil _ hne]
  have hblank : Unicode.isBlank (w.getLast hne) := by
    exact List.dropWhile_eq_nil_iff.mp hw _ (List.getLast_mem hne)
  rw [List.getLast?_eq_some_getLast hne] at hlast
  exact Text.getLast?_dropEndWhile _ _ _ hlast.symm hblank

theorem isInfix_of_withStart {name : Char} (h : ['\'', name] <:+: withStart t) : ['\'', name] <:+: t := by
  unfold withStart at h
  split at h
  · rcases List.infix_cons_iff.mp h with hprefix | hin
    · simp at hprefix
    · exact hin
  · exact h

theorem evaluate_sound (h : evaluate f t = .ok v) :
    ∃ e, Writes .sum e (withStart t.trim) ∧ e.Computable f ∧ e.value f = v := by
  by_cases hempty : t.trim = []
  · simp [evaluate, hempty] at h
  obtain ⟨n, -, hevaluate⟩ := evaluate_eq f hempty
  rw [hevaluate] at h
  obtain ⟨⟨value, rest⟩, hsum, hend⟩ := bind_eq_ok_iff.mp h
  obtain ⟨e, u, w, ht, rfl, hwrites, hcomputable, rfl⟩ := (sound f n).sum hsum
  unfold wholly at hend
  dsimp only at hend
  rw [Text.trimStart_trimStart] at hend
  split at hend
  · next hw =>
    cases hend
    obtain rfl := eq_nil_of_trim ht hempty hw
    rw [List.append_nil] at ht
    exact ⟨e, ht ▸ hwrites, hcomputable, rfl⟩
  · cases hend

theorem evaluate_written {e : Expression} (h : Writes .sum e (withStart t.trim)) (hc : e.Computable f) :
    evaluate f t = .ok (e.value f) := by
  have hempty : t.trim ≠ [] := by
    intro hempty
    rw [hempty] at h
    exact h.ne_nil rfl
  obtain ⟨n, hn, hevaluate⟩ := evaluate_eq f hempty
  obtain ⟨m, hm, hsum⟩ := h.passes hc n [] hn nofun
  obtain ⟨k, rfl⟩ : ∃ k, m = k + 1 := ⟨m - 1, by omega⟩
  have hdone : terms f (k + 1) (e.value f) [] = .ok (e.value f, []) := rfl
  rw [List.append_nil, hdone] at hsum
  rw [hevaluate, hsum]
  rfl

theorem evaluate_blames {failure : Failure} (h : evaluate f t = .error failure) : Blames f t failure := by
  by_cases hempty : t.trim = []
  · simp only [evaluate, hempty] at h
    cases h
    exact .inl ⟨_, rfl⟩
  obtain ⟨n, -, hevaluate⟩ := evaluate_eq f hempty
  rw [hevaluate] at h
  rcases bind_eq_error_iff.mp h with h | ⟨⟨value, rest⟩, -, hend⟩
  · rcases (blaming f n).sum h with hmalformed | ⟨name, hname, hmark, hin, rfl⟩
    · exact .inl hmalformed
    · exact .inr ⟨name, hname, hmark, (isInfix_of_withStart hin).trans t.trim_isInfix, rfl⟩
  · unfold wholly at hend
    split at hend <;> cases hend
    exact .inl ⟨_, rfl⟩

/-- The calculator computes the exact value of a text exactly if the text, after a sign at its front that starts from
the current line, is written for a sum that can be computed. In any other case it fails, and only a mark that is not
set keeps an address unresolved. -/
theorem evaluate_computes (f : Frame) (t : Text) :
    (∀ v, evaluate f t = .ok v ↔ ∃ e, Writes .sum e (withStart t.trim) ∧ e.Computable f ∧ e.value f = v) ∧
    ∀ failure, evaluate f t = .error failure → Blames f t failure := by
  refine ⟨fun v => ⟨evaluate_sound f, ?_⟩, fun failure => evaluate_blames f⟩
  rintro ⟨e, hwrites, hcomputable, rfl⟩
  exact evaluate_written f hwrites hcomputable

/-- A sign at the front, a quotient of a product in parentheses, and a sign that nothing follows; and a mark that is
not set. -/
theorem evaluate_computes_signed :
    let f : Frame := { Frame.ofText "a\nb\nc\nd\ne\nf\n".toList with cursor := 4, marks := [(.named 'a', 8)] }
    evaluate f " - (2 * 'a) /3+ ".toList = .ok 1 ∧
      (∃ e, Writes .sum e ".- (2 * 'a) /3+".toList ∧ e.Computable f ∧ e.value f = 1) ∧
      evaluate f "1+'b".toList = .error (.unresolved (.markNotSet 'b')) ∧
      Blames f "1+'b".toList (.unresolved (.markNotSet 'b')) := by
  intro f
  have hvalue : evaluate f " - (2 * 'a) /3+ ".toList = .ok 1 := by decide +kernel
  have hfailure : evaluate f "1+'b".toList = .error (.unresolved (.markNotSet 'b')) := by decide +kernel
  exact ⟨hvalue, ((evaluate_computes f _).1 1).mp hvalue, hfailure, (evaluate_computes f _).2 _ hfailure⟩

end evaluate
end Calculator
end ExEditor
