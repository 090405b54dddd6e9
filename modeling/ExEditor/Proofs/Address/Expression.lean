import ExEditor.Address.Calculator
import ExEditor.Proofs.Address.Written
import ExEditor.Proofs.Text.Trim

/-! Expressions of the calculator: what they are, how they are written, and what they are worth. The calculator
reads every text that an expression which can be computed is written as. -/
namespace ExEditor
namespace Calculator

/-- A number that fits into 64 signed bits. -/
def IsWord (n : Int) : Prop := minWord ≤ n ∧ n ≤ maxWord

instance (n : Int) : Decidable (IsWord n) := inferInstanceAs (Decidable (_ ∧ _))

/-- What joins two operands. -/
inductive Operator
  | star
  | slash
  | plus
  | minus
  deriving DecidableEq, Repr

namespace Operator

def char : Operator → Char
  | star => '*'
  | slash => '/'
  | plus => '+'
  | minus => '-'

/-- Whether it joins factors of a product, and not terms of a sum. -/
def joinsFactors : Operator → Bool
  | star => true
  | slash => true
  | plus => false
  | minus => false

/-- The exact result. A quotient is rounded toward zero. -/
def apply : Operator → Int → Int → Int
  | star, a, b => a * b
  | slash, a, b => a.tdiv b
  | plus, a, b => a + b
  | minus, a, b => a - b

/-- The result can be computed: nothing is divided by zero, and the result fits, as does a term with its sign. -/
def Allows (o : Operator) (a b : Int) : Prop :=
  (o = slash → b ≠ 0) ∧ (o = minus → IsWord (-b)) ∧ IsWord (o.apply a b)

instance (o : Operator) (a b : Int) : Decidable (o.Allows a b) := inferInstanceAs (Decidable (_ ∧ _))

end Operator

/-- An expression, apart from the blanks and parentheses that it is written with. -/
inductive Expression
  | number (n : Nat)
  | here
  | last
  | mark (name : Char)
  | binary (o : Operator) (left right : Expression)
  deriving DecidableEq, Repr

/-- The line of a mark, counted from 1, if the name is one and the mark is set. -/
def markedLine? (f : Frame) (name : Char) : Option Int :=
  ((MarkId.named? name).bind f.mark?).map fun offset => f.lineAt offset + 1

namespace Expression

/-- The exact value. -/
def value (f : Frame) : Expression → Int
  | number n => n
  | here => f.cursorLine + 1
  | last => f.lastLine
  | mark name => (markedLine? f name).getD 0
  | binary o l r => o.apply (l.value f) (r.value f)

/-- All its marks are set, and all that is computed on the way fits and divides by no zero. -/
def Computable (f : Frame) : Expression → Prop
  | number n => IsWord n
  | here => True
  | last => True
  | mark name => (markedLine? f name).isSome
  | binary o l r => l.Computable f ∧ r.Computable f ∧ o.Allows (l.value f) (r.value f)

end Expression

/-- How much of an expression a text is: one operand, a product, or a sum. -/
inductive Level
  | operand
  | product
  | sum

/-- The texts that an expression may be written as. Operators associate to the left, those that join factors bind
more tightly, and blanks may stand around them. The operand behind a sign may be missing and is then 1. -/
inductive Writes : Level → Expression → Text → Prop
  | number {digits : Text} (h : digits.isNumeral) : Writes .operand (.number digits.numeralValue) digits
  | here : Writes .operand .here ['.']
  | last : Writes .operand .last ['$']
  | mark (name : Char) : Writes .operand (.mark name) ['\'', name]
  | group {e t blanks} (h : Writes .sum e t) (hb : Text.isBlank blanks) :
      Writes .operand e ('(' :: (t ++ (blanks ++ [')'])))
  | blank {e c t} (hc : Unicode.isBlank c) (h : Writes .operand e t) : Writes .operand e (c :: t)
  | product {e t} (h : Writes .operand e t) : Writes .product e t
  | factor {o l r a b blanks} (ho : o.joinsFactors) (hl : Writes .product l a) (hb : Text.isBlank blanks)
      (hr : Writes .operand r b) : Writes .product (.binary o l r) (a ++ (blanks ++ o.char :: b))
  | sum {e t} (h : Writes .product e t) : Writes .sum e t
  | term {o l r a b blanks} (ho : o.joinsFactors = false) (hl : Writes .sum l a) (hb : Text.isBlank blanks)
      (hr : Writes .product r b) : Writes .sum (.binary o l r) (a ++ (blanks ++ o.char :: b))
  | step {o l a blanks} (ho : o.joinsFactors = false) (hl : Writes .sum l a) (hb : Text.isBlank blanks) :
      Writes .sum (.binary o l (.number 1)) (a ++ (blanks ++ [o.char]))

/-- A text whose first operand is written: a sign at its front starts from the current line. -/
def withStart (t : Text) : Text := if t.head?.any fun c => c = '+' || c = '-' then '.' :: t else t

/-! ### Blanks -/

theorem trimStart_append {blanks : Text} (h : blanks.isBlank) (t : Text) :
    Text.trimStart (blanks ++ t) = t.trimStart :=
  List.dropWhile_append_of_pos fun c hc => List.all_eq_true.mp h c hc

theorem trimStart_cons {c : Char} (h : ¬ Unicode.isBlank c) (t : Text) : Text.trimStart (c :: t) = c :: t :=
  List.dropWhile_cons_of_neg h

theorem trimStart_blank {c : Char} (h : Unicode.isBlank c) (t : Text) : Text.trimStart (c :: t) = t.trimStart :=
  List.dropWhile_cons_of_pos h

/-- What is trimmed are blanks. -/
theorem exists_blanks (t : Text) : ∃ blanks : Text, blanks.isBlank ∧ t = blanks ++ t.trimStart :=
  ⟨t.takeWhile Unicode.isBlank, List.all_takeWhile, List.takeWhile_append_dropWhile.symm⟩

theorem isOperandStart_cases {c : Char} (h : Address.isOperandStart c) :
    c.isDigit ∨ c = '.' ∨ c = '$' ∨ c = '\'' ∨ c = '(' := by
  simpa [Address.isOperandStart, or_assoc] using h

theorem isOperandStart_not_blank {c : Char} (h : Address.isOperandStart c) : ¬ Unicode.isBlank c := by
  rcases isOperandStart_cases h with hdigit | rfl | rfl | rfl | rfl
  · exact (Address.isPlain_keeps (by simp [Address.isPlain, hdigit])).2.2.2.1
  all_goals decide

theorem Operator.char_not_blank (o : Operator) : ¬ Unicode.isBlank o.char := by cases o <;> decide

/-- Behind its blanks a text goes on with an operator of a kind or not. -/
theorem operator_or_not (joinsFactors : Bool) (t : Text) :
    (∃ (o : Operator) (rest : Text), o.joinsFactors = joinsFactors ∧ t.trimStart = o.char :: rest) ∨
      ∀ c ∈ t.trimStart.head?, ∀ o : Operator, o.joinsFactors = joinsFactors → c ≠ o.char := by
  cases ht : t.trimStart with
  | nil => exact .inr nofun
  | cons c rest =>
    by_cases h : ∃ o : Operator, o.joinsFactors = joinsFactors ∧ c = o.char
    · obtain ⟨o, ho, rfl⟩ := h
      exact .inl ⟨o, rest, ho, rfl⟩
    · refine .inr fun d hd o ho hchar => h ⟨o, ho, ?_⟩
      obtain rfl : c = d := by simpa using hd
      exact hchar

/-! ### Steps of the calculator -/

section steps
variable (f : Frame) (n : Nat) {c : Char} {t t' rest : Text} {value : Int} {o : Operator}

theorem primary_trimStart (h : t.trimStart = t'.trimStart) : primary f n t = primary f n t' := by
  cases n with
  | zero => rfl
  | succ n => simp only [primary, h]

theorem terms_trimStart (h : t.trimStart = t'.trimStart) : terms f n value t = terms f n value t' := by
  cases n with
  | zero => rfl
  | succ n => simp only [terms, h]

theorem factors_done (h : ∀ c ∈ t.trimStart.head?, c ≠ '*' ∧ c ≠ '/') :
    factors f (n + 1) value t = .ok (value, t.trimStart) := by
  rw [factors]
  cases ht : t.trimStart with
  | nil => rfl
  | cons c rest =>
    obtain ⟨htimes, hover⟩ := h c (by simp [ht])
    simp [htimes, hover]

theorem terms_done (h : ∀ c ∈ t.trimStart.head?, c ≠ '+' ∧ c ≠ '-') :
    terms f (n + 1) value t = .ok (value, t.trimStart) := by
  rw [terms]
  cases ht : t.trimStart with
  | nil => rfl
  | cons c rest =>
    obtain ⟨hplus, hminus⟩ := h c (by simp [ht])
    simp [hplus, hminus]

theorem factors_operator (ho : o.joinsFactors) (h : t.trimStart = o.char :: rest) :
    factors f (n + 1) value t = (primary f n rest).bind fun r =>
      (multiply value o.char r.1).bind fun value => factors f n value r.2 := by
  have hchar : o.char = '*' ∨ o.char = '/' := by cases o <;> simp_all [Operator.joinsFactors, Operator.char]
  rw [factors, h]
  simp only [hchar, ↓reduceIte]
  rfl

/-- An operand behind a sign, or 1 if none is there. -/
def signedOperand (f : Frame) (n : Nat) (t : Text) : Reading :=
  if t.trimStart.head?.any Address.isOperandStart then product f n t else .ok (1, t.trimStart)

theorem terms_operator (ho : o.joinsFactors = false) (h : t.trimStart = o.char :: rest) :
    terms f (n + 1) value t = (signedOperand f n rest).bind fun r =>
      (add value o.char r.1).bind fun value => terms f n value r.2 := by
  have hchar : o.char = '+' ∨ o.char = '-' := by cases o <;> simp_all [Operator.joinsFactors, Operator.char]
  rw [terms, h, signedOperand]
  simp only [hchar, ↓reduceIte]
  split <;> rfl

theorem product_eq : product f (n + 1) t = (primary f n t).bind fun r => factors f n r.1 r.2 := rfl

theorem sum_eq : sum f (n + 1) t = (product f n t).bind fun r => terms f n r.1 r.2 := rfl

end steps

theorem fitting_eq_ok_iff {n m : Int} : fitting n = .ok m ↔ IsWord n ∧ n = m := by
  unfold fitting
  by_cases h : IsWord n
  · simp [word?_eq_some_iff.mpr ⟨rfl, h⟩, h]
  · cases hw : word? n with
    | none => simp [h]
    | some k => exact absurd (word?_eq_some_iff.mp hw).2 h

theorem multiply_eq_ok_iff {o : Operator} (ho : o.joinsFactors) {a b v : Int} :
    multiply a o.char b = .ok v ↔ o.Allows a b ∧ o.apply a b = v := by
  cases o with
  | star => simp [multiply, Operator.char, Operator.Allows, Operator.apply, fitting_eq_ok_iff]
  | slash =>
    by_cases hb : b = 0
    · simp [multiply, Operator.char, Operator.Allows, hb]
    · simp [multiply, Operator.char, Operator.Allows, Operator.apply, fitting_eq_ok_iff, hb]
  | plus => cases ho
  | minus => cases ho

theorem add_eq_ok_iff {o : Operator} (ho : o.joinsFactors = false) {a b v : Int} :
    add a o.char b = .ok v ↔ o.Allows a b ∧ o.apply a b = v := by
  cases o with
  | star => cases ho
  | slash => cases ho
  | plus => simp [add, Operator.char, Operator.Allows, Operator.apply, fitting_eq_ok_iff]
  | minus =>
    by_cases hb : IsWord (-b)
    · have hterm : fitting (-b) = .ok (-b) := fitting_eq_ok_iff.mpr ⟨hb, rfl⟩
      simp [add, Operator.char, Operator.Allows, Operator.apply, fitting_eq_ok_iff, hterm, hb, Except.bind,
        Int.sub_eq_add_neg]
    · have hterm : ∀ k, fitting (-b) ≠ .ok k := fun k hk => hb (fitting_eq_ok_iff.mp hk).1
      cases hk : fitting (-b) with
      | error failure => simp [add, Operator.char, Operator.Allows, hk, hb, Except.bind]
      | ok k => exact absurd hk (hterm k)

/-! ### Every text of an expression is read -/

section reads
variable {f : Frame} {e : Expression} {level : Level} {t : Text}

theorem Writes.ne_nil (h : Writes level e t) : t ≠ [] := by
  induction h with
  | number h =>
    rintro rfl
    cases h
  | product _ ih => exact ih
  | sum _ ih => exact ih
  | _ => simp

/-- Behind its blanks an expression begins with an operand. -/
theorem Writes.head (h : Writes level e t) (rest : Text) :
    (Text.trimStart (t ++ rest)).head?.any Address.isOperandStart := by
  induction h generalizing rest with
  | @number digits h =>
    cases digits with
    | nil => cases h
    | cons c t =>
      have hstart : Address.isOperandStart c := by
        simp only [Text.isNumeral, List.all_cons, Bool.and_eq_true] at h
        simp [Address.isOperandStart, h.2.1]
      rw [List.cons_append, trimStart_cons (isOperandStart_not_blank hstart)]
      exact hstart
  | here => rfl
  | last => rfl
  | mark name => rfl
  | group _ _ _ => rfl
  | blank hc _ ih => rw [List.cons_append, trimStart_blank hc]; exact ih rest
  | product _ ih => exact ih rest
  | sum _ ih => exact ih rest
  | factor _ _ _ _ ih _ => rw [List.append_assoc]; exact ih _
  | term _ _ _ _ ih _ => rw [List.append_assoc]; exact ih _
  | step _ _ _ ih => rw [List.append_assoc]; exact ih _

/-- What may follow an expression so that it ends there. -/
def Closes : Level → Text → Prop
  | .operand, rest => ∀ c ∈ rest.head?, ¬ c.isDigit
  | .product, rest => ∀ c ∈ rest.head?, ¬ c.isDigit
  | .sum, rest => ∀ c ∈ rest.trimStart.head?, ¬ Address.isOperandStart c ∧ c ≠ '*' ∧ c ≠ '/'

theorem Closes.no_digit {rest : Text} (h : Closes .sum rest) : ∀ c ∈ rest.head?, ¬ c.isDigit := by
  intro c hc hdigit
  cases rest with
  | nil => cases hc
  | cons d rest =>
    obtain rfl : d = c := by simpa using hc
    have hstart : Address.isOperandStart d := by simp [Address.isOperandStart, hdigit]
    have hhead : Text.trimStart (d :: rest) = d :: rest := trimStart_cons (isOperandStart_not_blank hstart) rest
    exact (h d (by simp [hhead])).1 hstart

/-- Blanks and an operator close what stands in front of them. -/
theorem closes_operator {blanks : Text} (hb : blanks.isBlank) (o : Operator) (rest : Text) :
    ∀ c ∈ (blanks ++ o.char :: rest).head?, ¬ c.isDigit := by
  intro c hc hdigit
  have hblank : ¬ Unicode.isBlank c := isOperandStart_not_blank (by simp [Address.isOperandStart, hdigit])
  cases blanks with
  | nil =>
    obtain rfl : o.char = c := by simpa using hc
    cases o <;> cases hdigit
  | cons d blanks =>
    obtain rfl : d = c := by simpa using hc
    exact hblank (List.all_eq_true.mp hb d (by simp))

theorem closes_sign {blanks : Text} (hb : blanks.isBlank) {o : Operator} (ho : o.joinsFactors = false) (rest : Text) :
    Closes .sum (blanks ++ o.char :: rest) := by
  intro c hc
  rw [trimStart_append hb, trimStart_cons o.char_not_blank] at hc
  obtain rfl : o.char = c := by simpa using hc
  cases o with
  | star => cases ho
  | slash => cases ho
  | plus => exact ⟨by decide, by decide, by decide⟩
  | minus => exact ⟨by decide, by decide, by decide⟩

/-- How the calculator goes over the text of an expression, given enough room: it comes out with the value behind the
text, or, for a product or a sum, in the midst of the factors or terms that may follow. -/
def Passes (f : Frame) : Level → Int → Text → Prop
  | .operand, v, t => ∀ n rest, 3 * t.length ≤ n → Closes .operand rest → primary f n (t ++ rest) = .ok (v, rest)
  | .product, v, t => ∀ n rest, 3 * t.length + 1 ≤ n → Closes .product rest →
      ∃ m, n ≤ m + t.length ∧ product f n (t ++ rest) = factors f m v rest
  | .sum, v, t => ∀ n rest, 3 * t.length + 2 ≤ n → Closes .sum rest →
      ∃ m, n ≤ m + t.length + 1 ∧ sum f n (t ++ rest) = terms f m v rest

/-- Where neither factors nor terms follow a product, it ends. -/
theorem Passes.product_eq {v : Int} (h : Passes f .product v t) {n : Nat} {rest : Text}
    (hn : 3 * t.length + 1 ≤ n) (hrest : Closes .sum rest) : product f n (t ++ rest) = .ok (v, rest.trimStart) := by
  obtain ⟨m, hm, hproduct⟩ := h n rest hn hrest.no_digit
  obtain ⟨k, rfl⟩ : ∃ k, m = k + 1 := ⟨m - 1, by omega⟩
  rw [hproduct, factors_done f k fun c hc => (hrest c hc).2]

theorem passes_number {digits : Text} (h : digits.isNumeral) (hword : IsWord digits.numeralValue) :
    Passes f .operand digits.numeralValue digits := by
  intro n rest hn hrest
  cases digits with
  | nil => cases h
  | cons c t =>
    obtain ⟨k, rfl⟩ : ∃ k, n = k + 1 := ⟨n - 1, by simp only [List.length_cons] at hn; omega⟩
    have hall : ∀ d ∈ c :: t, d.isDigit := by
      simp only [Text.isNumeral, Bool.and_eq_true] at h
      exact List.all_eq_true.mp h.2
    have hc := hall c (by simp)
    have hblank : ¬ Unicode.isBlank c := isOperandStart_not_blank (by simp [Address.isOperandStart, hc])
    have htake : (c :: (t ++ rest)).takeWhile Char.isDigit = c :: t := Text.takeWhile_append hall hrest
    have hdrop : (c :: (t ++ rest)).dropWhile Char.isDigit = rest := by
      have hsplit := List.takeWhile_append_dropWhile (p := Char.isDigit) (l := c :: (t ++ rest))
      rw [htake] at hsplit
      exact List.append_cancel_left hsplit
    rw [List.cons_append, primary, trimStart_cons hblank]
    simp only [hc, ↓reduceIte, numeral, htake, hdrop, word?_eq_some_iff.mpr ⟨rfl, hword⟩]

theorem passes_mark {name : Char} {v : Int} (h : markedLine? f name = some v) : Passes f .operand v ['\'', name] := by
  intro n rest hn _
  obtain ⟨k, rfl⟩ : ∃ k, n = k + 1 := ⟨n - 1, by simp only [List.length_cons] at hn; omega⟩
  obtain ⟨offset, hmark, rfl⟩ := Option.map_eq_some_iff.mp h
  obtain ⟨id, hid, hoffset⟩ := Option.bind_eq_some_iff.mp hmark
  have hline : markLine f (name :: rest) = .ok (f.lineAt offset + 1, rest) := by
    simp only [markLine, hid, hoffset]
  exact hline

theorem passes_group {blanks : Text} {v : Int} (hb : blanks.isBlank) (h : Passes f .sum v t) :
    Passes f .operand v ('(' :: (t ++ (blanks ++ [')']))) := by
  intro n rest hn _
  simp only [List.length_cons, List.length_append, List.length_nil] at hn
  obtain ⟨k, rfl⟩ : ∃ k, n = k + 1 := ⟨n - 1, by omega⟩
  have htrim : Text.trimStart (blanks ++ ')' :: rest) = ')' :: rest := by
    rw [trimStart_append hb, trimStart_cons (by decide)]
  have hhead : ∀ c ∈ (Text.trimStart (blanks ++ ')' :: rest)).head?, c = ')' := by simp [htrim]
  have hclose : Closes .sum (blanks ++ ')' :: rest) := by
    intro c hc
    rw [hhead c hc]
    decide
  obtain ⟨m, hm, hsum⟩ := h k (blanks ++ ')' :: rest) (by omega) hclose
  obtain ⟨m, rfl⟩ : ∃ m', m = m' + 1 := ⟨m - 1, by omega⟩
  have hdone : terms f (m + 1) v (blanks ++ ')' :: rest) = .ok (v, Text.trimStart (blanks ++ ')' :: rest)) :=
    terms_done f m fun c hc => by rw [hhead c hc]; decide
  rw [hdone, htrim] at hsum
  have htext : '(' :: (t ++ (blanks ++ [')'])) ++ rest = '(' :: (t ++ (blanks ++ ')' :: rest)) := by simp
  rw [htext, primary, trimStart_cons (by decide)]
  change ((sum f k (t ++ (blanks ++ ')' :: rest))).bind fun r => _) = _
  rw [hsum]
  rfl

theorem passes_factor {o : Operator} {a b blanks : Text} {v w : Int} (ho : o.joinsFactors)
    (ha : Passes f .product v a) (hb : Text.isBlank blanks) (hr : Passes f .operand w b) (hallows : o.Allows v w) :
    Passes f .product (o.apply v w) (a ++ (blanks ++ o.char :: b)) := by
  intro n rest hn hrest
  simp only [List.length_cons, List.length_append] at hn ⊢
  have htext : a ++ (blanks ++ o.char :: b) ++ rest = a ++ (blanks ++ o.char :: (b ++ rest)) := by simp
  obtain ⟨m, hm, hproduct⟩ := ha n (blanks ++ o.char :: (b ++ rest)) (by omega) (closes_operator hb o _)
  obtain ⟨m, rfl⟩ : ∃ m', m = m' + 1 := ⟨m - 1, by omega⟩
  refine ⟨m, by omega, ?_⟩
  have hoperator : Text.trimStart (blanks ++ o.char :: (b ++ rest)) = o.char :: (b ++ rest) := by
    rw [trimStart_append hb, trimStart_cons o.char_not_blank]
  rw [htext, hproduct, factors_operator f m ho hoperator, hr m rest (by omega) hrest]
  simp only [Except.bind, (multiply_eq_ok_iff ho).mpr ⟨hallows, rfl⟩]

/-- A term of a sum, or a sign without one. -/
theorem passes_signed {o : Operator} {a b blanks : Text} {v w : Int} (ho : o.joinsFactors = false)
    (ha : Passes f .sum v a) (hb : Text.isBlank blanks) (hallows : o.Allows v w)
    (hr : ∀ n rest, 3 * b.length + 1 ≤ n → Closes .sum rest →
      signedOperand f n (b ++ rest) = .ok (w, rest.trimStart)) :
    Passes f .sum (o.apply v w) (a ++ (blanks ++ o.char :: b)) := by
  intro n rest hn hrest
  simp only [List.length_cons, List.length_append] at hn ⊢
  have htext : a ++ (blanks ++ o.char :: b) ++ rest = a ++ (blanks ++ o.char :: (b ++ rest)) := by simp
  obtain ⟨m, hm, hsum⟩ := ha n (blanks ++ o.char :: (b ++ rest)) (by omega) (closes_sign hb ho _)
  obtain ⟨m, rfl⟩ : ∃ m', m = m' + 1 := ⟨m - 1, by omega⟩
  refine ⟨m, by omega, ?_⟩
  have hoperator : Text.trimStart (blanks ++ o.char :: (b ++ rest)) = o.char :: (b ++ rest) := by
    rw [trimStart_append hb, trimStart_cons o.char_not_blank]
  rw [htext, hsum, terms_operator f m ho hoperator, hr m rest (by omega) hrest]
  simp only [Except.bind, (add_eq_ok_iff ho).mpr ⟨hallows, rfl⟩]
  exact terms_trimStart f m (Text.trimStart_trimStart rest)

/-- The calculator goes over every text of an expression that can be computed. -/
theorem Writes.passes (h : Writes level e t) (hc : e.Computable f) : Passes f level (e.value f) t := by
  induction h with
  | number h => exact passes_number h hc
  | here | last =>
    intro n rest hn _
    obtain ⟨k, rfl⟩ : ∃ k, n = k + 1 := ⟨n - 1, by simp only [List.length_cons] at hn; omega⟩
    rfl
  | mark name =>
    obtain ⟨v, hv⟩ := Option.isSome_iff_exists.mp hc
    have hvalue : (Expression.mark name).value f = v := by simp [Expression.value, hv]
    rw [hvalue]
    exact passes_mark hv
  | group _ hb ih => exact passes_group hb (ih hc)
  | @blank e c t hblank _ ih =>
    intro n rest hn hrest
    rw [List.cons_append, primary_trimStart f n (trimStart_blank hblank _)]
    exact ih hc n rest (by simp only [List.length_cons] at hn; omega) hrest
  | @product e t h ih =>
    intro n rest hn hrest
    have hpos := List.length_pos_iff.mpr h.ne_nil
    obtain ⟨k, rfl⟩ : ∃ k, n = k + 1 := ⟨n - 1, by omega⟩
    refine ⟨k, by omega, ?_⟩
    rw [product_eq, ih hc k rest (by omega) hrest]
    rfl
  | factor ho _ hb _ ihl ihr => exact passes_factor ho (ihl hc.1) hb (ihr hc.2.1) hc.2.2
  | @sum e t h ih =>
    intro n rest hn hrest
    obtain ⟨k, rfl⟩ : ∃ k, n = k + 1 := ⟨n - 1, by omega⟩
    refine ⟨k, by omega, ?_⟩
    rw [sum_eq, (ih hc).product_eq (by omega) hrest]
    exact terms_trimStart f k (Text.trimStart_trimStart rest)
  | @term o l r a b blanks ho _ hb h ihl ihr =>
    refine passes_signed ho (ihl hc.1) hb hc.2.2 fun n rest hn hrest => ?_
    rw [signedOperand, if_pos (h.head rest)]
    exact (ihr hc.2.1).product_eq hn hrest
  | @step o l a blanks ho _ hb ih =>
    refine passes_signed (b := []) (w := 1) ho (ih hc.1) hb hc.2.2 fun n rest hn hrest => ?_
    have hnone : ¬ rest.trimStart.head?.any Address.isOperandStart := by
      cases hhead : rest.trimStart.head? with
      | none => simp
      | some c => simpa using (hrest c hhead).1
    rw [List.nil_append, signedOperand, if_neg hnone]

end reads

end Calculator
end ExEditor
