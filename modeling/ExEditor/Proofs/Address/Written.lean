import ExEditor.Address.Scan
import Mathlib.Data.List.Basic

/-! Ranges as they are written: parts between separators, each an expression for the calculator with a search
behind it. Both scans of a range decide anew at every slash whether it divides or searches, and both come to
the same: the scan of a command line stops exactly behind the range, and the other one cuts it into its parts. -/
namespace ExEditor
namespace Address

/-- Characters that stand for themselves in an expression: digits, the current and the last line, and
operators. -/
def isPlain (c : Char) : Bool := c.isDigit || ".$+-*".toList.contains c

theorem isPlain_toNat {c : Char} (h : isPlain c) : c.toNat < 58 := by
  have hdigit : c.isDigit → c.toNat < 58 := fun h => by
    simp only [Char.isDigit, Bool.and_eq_true, decide_eq_true_eq] at h
    exact Nat.lt_succ_of_le (UInt32.le_iff_toNat_le.mp h.2)
  have hsign : c ∈ ".$+-*".toList → c.toNat < 58 := by
    intro h
    have hall : ".$+-*".toList.all (·.toNat < 58) := by decide
    exact of_decide_eq_true (List.all_eq_true.mp hall c h)
  simp only [isPlain, Bool.or_eq_true, List.contains_iff_mem] at h
  exact h.elim hdigit hsign

/-- An expression from some place in it on, between the numbers of parentheses that are open before and behind
it. A mark has any character for its name, and a slash divides by what begins directly behind it. -/
inductive Calculation : Nat → Text → Nat → Prop
  | done {depth} : Calculation depth [] depth
  | plain {c depth t depth'} (hc : isPlain c) (h : Calculation depth t depth') :
      Calculation depth (c :: t) depth'
  | mark (name : Char) {depth t depth'} (h : Calculation depth t depth') :
      Calculation depth ('\'' :: name :: t) depth'
  | opening {depth t depth'} (h : Calculation (depth + 1) t depth') : Calculation depth ('(' :: t) depth'
  | closing {depth t depth'} (h : Calculation (depth - 1) t depth') : Calculation depth (')' :: t) depth'
  | division {c depth t depth'} (hc : isOperandStart c) (h : Calculation depth (c :: t) depth') :
      Calculation depth ('/' :: c :: t) depth'

/-- A pattern that may stand between delimiters. A backslash takes the next character with it, whatever that is,
and no other character is the delimiter. -/
inductive Enclosed (delimiter : Char) : Text → Prop
  | done : Enclosed delimiter []
  | escape (c : Char) {t} (h : Enclosed delimiter t) : Enclosed delimiter ('\\' :: c :: t)
  | plain {c t} (hc : c ≠ '\\') (hdelimiter : c ≠ delimiter) (h : Enclosed delimiter t) :
      Enclosed delimiter (c :: t)

/-- Characters of the terms of an offset. -/
def isOffsetChar (c : Char) : Bool := c.isDigit || c = '+' || c = '-'

/-- A search with both of its delimiters, and the terms of its offset. -/
structure WrittenSearch where
  backward : Bool
  pattern : Text
  offset : Text
  enclosed : Enclosed (if backward then '?' else '/') pattern
  signed : offset.all isOffsetChar

/-- A part of a range: an expression, which may be empty, and a search, which may be missing. -/
structure WrittenPart where
  expression : Text
  /-- Parentheses that the expression leaves open. -/
  opened : Nat
  search : Option WrittenSearch
  calculates : Calculation 0 expression opened
  /-- There is something to divide. -/
  head_ne : expression.head? ≠ some '/'
  /-- A slash behind an expression divides if an operand follows. -/
  searches : ∀ s ∈ search, s.backward = false → expression ≠ [] → ¬ s.pattern.head?.any isOperandStart

/-- What stands between two parts. -/
inductive Separator
  | comma
  | semicolon

def Separator.char : Separator → Char
  | comma => ','
  | semicolon => ';'

/-- A range: its parts with the separators behind them, and the last part. -/
structure WrittenRange where
  separated : List (WrittenPart × Separator)
  last : WrittenPart

namespace WrittenSearch

def delimiter (s : WrittenSearch) : Char := if s.backward then '?' else '/'

def text (s : WrittenSearch) : Text := s.delimiter :: (s.pattern ++ s.delimiter :: s.offset)

end WrittenSearch

def WrittenPart.text (p : WrittenPart) : Text := p.expression ++ (p.search.map (·.text)).getD []

namespace WrittenRange

def text (r : WrittenRange) : Text := r.separated.flatMap (fun p => p.1.text ++ [p.2.char]) ++ r.last.text

/-- The parts with the separators that follow them. -/
def parts (r : WrittenRange) : List (Text × Option Char) :=
  r.separated.map (fun p => (p.1.text, some p.2.char)) ++ [(r.last.text, none)]

/-- No parenthesis is open at the end of a part. -/
def IsClosed (r : WrittenRange) : Prop := ∀ p ∈ r.separated.map Prod.fst ++ [r.last], p.opened = 0

end WrittenRange

/-! ### Both scans go the same way -/

/-- Where the scans of a range stand: inside of what, in how many parentheses, and whether the part is blank so
far. -/
structure Place where
  inside : Inside
  depth : Nat
  blank : Bool

/-- Characters at which a scan stays in the part that it is in. -/
def Place.Keeps (c : Char) (p : Place) : Prop :=
  match p.inside with
  | .address => isRangeChar c ∧ c ≠ ',' ∧ c ≠ ';' ∧ ¬ Unicode.isBlank c
  | _ => p.blank = false

/-- The parentheses that are open after one more character. -/
def Place.nested (c : Char) (p : Place) : Nat :=
  match p.inside with
  | .address => if c = '(' then p.depth + 1 else if c = ')' then p.depth - 1 else p.depth
  | _ => p.depth

/-- The scans go through a text inside of a part from one place to another, whatever follows. -/
inductive Passes : Place → Text → Place → Prop
  | done {p : Place} : Passes p [] p
  | step {p p' : Place} {inside : Inside} {c : Char} {t : Text} (hkeeps : p.Keeps c)
      (hnext : ∀ rest, p.inside.next p.blank c (t ++ rest) = inside)
      (h : Passes ⟨inside, p.nested c, false⟩ t p') : Passes p (c :: t) p'

theorem Passes.trans {p p' p'' : Place} {t t' : Text} (h : Passes p t p') (h' : Passes p' t' p'') :
    Passes p (t ++ t') p'' := by
  induction h with
  | done => exact h'
  | step hkeeps hnext _ ih =>
    refine .step hkeeps (fun rest => ?_) (ih h')
    have := hnext (t' ++ rest)
    rwa [← List.append_assoc] at this

/-- The scan of a command line takes such a character into the range. -/
theorem scanRange_keeps {c : Char} {p : Place} (h : p.Keeps c) (t : Text) :
    scanRange p.inside p.blank (c :: t) =
      (c :: (scanRange (p.inside.next p.blank c t) false t).1,
        (scanRange (p.inside.next p.blank c t) false t).2) := by
  obtain ⟨inside, depth, blank⟩ := p
  cases inside with
  | address =>
    obtain ⟨hrange, hcomma, hsemicolon, hblank⟩ := h
    simp [scanRange, hrange, hcomma, hsemicolon, hblank]
  | _ => simp [scanRange]

/-- The other scan takes it into the present part. -/
theorem splitParts_keeps {c : Char} {p : Place} (h : p.Keeps c) {t part : Text} {separator : Option Char}
    {rest : List (Text × Option Char)}
    (ht : splitParts (p.inside.next p.blank c t) (p.nested c) false t = (part, separator) :: rest) :
    splitParts p.inside p.depth p.blank (c :: t) = (c :: part, separator) :: rest := by
  obtain ⟨inside, depth, blank⟩ := p
  cases inside with
  | address =>
    obtain ⟨-, hcomma, hsemicolon, hblank⟩ := h
    simp only [Place.nested] at ht
    simp [splitParts, hcomma, hsemicolon, hblank, ht]
  | _ =>
    obtain rfl : blank = false := h
    simp only [Place.nested] at ht
    simp [splitParts, ht]

theorem Passes.scanRange {p p' : Place} {t : Text} (h : Passes p t p') (rest : Text) :
    scanRange p.inside p.blank (t ++ rest) =
      (t ++ (Address.scanRange p'.inside p'.blank rest).1, (Address.scanRange p'.inside p'.blank rest).2) := by
  induction h with
  | done => rfl
  | step hkeeps hnext _ ih => rw [List.cons_append, scanRange_keeps hkeeps, hnext, ih]; rfl

theorem Passes.splitParts {p p' : Place} {t : Text} (h : Passes p t p') {rest part : Text}
    {separator : Option Char} {more : List (Text × Option Char)}
    (hrest : splitParts p'.inside p'.depth p'.blank rest = (part, separator) :: more) :
    Address.splitParts p.inside p.depth p.blank (t ++ rest) = (t ++ part, separator) :: more := by
  induction h with
  | done => exact hrest
  | step hkeeps hnext _ ih =>
    rw [List.cons_append]
    refine splitParts_keeps hkeeps ?_
    rw [hnext]
    exact ih hrest

/-! ### What the scans pass -/

theorem isPlain_keeps {c : Char} (h : isPlain c) :
    isRangeChar c ∧ c ≠ ',' ∧ c ≠ ';' ∧ ¬ Unicode.isBlank c ∧ c ≠ '\'' ∧ c ≠ '(' ∧ c ≠ ')' ∧ c ≠ '/' ∧ c ≠ '?' := by
  have hall : ∀ n < 58, isPlain (Char.ofNat n) →
      isRangeChar (Char.ofNat n) ∧ Char.ofNat n ≠ ',' ∧ Char.ofNat n ≠ ';' ∧
      ¬ Unicode.isBlank (Char.ofNat n) ∧ Char.ofNat n ≠ '\'' ∧ Char.ofNat n ≠ '(' ∧ Char.ofNat n ≠ ')' ∧
      Char.ofNat n ≠ '/' ∧ Char.ofNat n ≠ '?' := by decide +kernel
  have hc := hall c.toNat (isPlain_toNat h)
  rw [Char.ofNat_toNat] at hc
  exact hc h

/-- A character that begins no search leaves the address an address. -/
theorem Inside.next_address {blank : Bool} {c : Char} {t : Text} (hmark : c ≠ '\'')
    (h : startsSearch blank (c :: t) = false) : Inside.next blank c t .address = .address := by
  simp [Inside.next, hmark, h]

theorem Inside.next_search {blank : Bool} {c : Char} {t : Text} (h : startsSearch blank (c :: t)) :
    Inside.next blank c t .address = .pattern c := by
  have hmark : c ≠ '\'' := by
    rintro rfl
    cases h
  simp [Inside.next, hmark, h]

theorem startsSearch_of_ne {blank : Bool} {c : Char} (t : Text) (hslash : c ≠ '/') (hquestion : c ≠ '?') :
    startsSearch blank (c :: t) = false := by
  simp [startsSearch, hslash, hquestion]

variable {blank : Bool} {c : Char} {depth depth' : Nat} {t : Text} {p : Place}

/-- A character of an address that neither names a mark nor begins a search. -/
theorem Passes.char (hrange : isRangeChar c) (hblank : ¬ Unicode.isBlank c)
    (hother : c ≠ ',' ∧ c ≠ ';' ∧ c ≠ '\'') (hstart : ∀ rest, startsSearch blank (c :: (t ++ rest)) = false)
    (h : Passes ⟨.address, Place.nested c ⟨.address, depth, blank⟩, false⟩ t p) :
    Passes ⟨.address, depth, blank⟩ (c :: t) p := by
  obtain ⟨hcomma, hsemicolon, hmark⟩ := hother
  exact .step ⟨hrange, hcomma, hsemicolon, hblank⟩ (fun rest => Inside.next_address hmark (hstart rest)) h

theorem Passes.mark (name : Char) (h : Passes ⟨.address, depth, false⟩ t p) :
    Passes ⟨.address, depth, blank⟩ ('\'' :: name :: t) p := by
  have hname : Passes ⟨.markName, depth, false⟩ (name :: t) p := .step rfl (fun _ => rfl) h
  exact .step ⟨by decide, by decide, by decide, by decide⟩ (fun _ => rfl) hname

/-- The scans pass an expression. At the start of a part it must not be empty, and not begin with a slash. -/
theorem Calculation.passes (h : Calculation depth t depth')
    (hhead : blank = true → ∃ c ∈ t.head?, c ≠ '/') :
    Passes ⟨.address, depth, blank⟩ t ⟨.address, depth', false⟩ := by
  induction h generalizing blank with
  | done =>
    cases blank with
    | false => exact .done
    | true => simpa using hhead rfl
  | @plain c depth _ _ hc _ ih =>
    obtain ⟨hrange, hcomma, hsemicolon, hblank, hmark, hopening, hclosing, hslash, hquestion⟩ := isPlain_keeps hc
    refine .char hrange hblank ⟨hcomma, hsemicolon, hmark⟩ (fun _ => startsSearch_of_ne _ hslash hquestion) ?_
    have hdepth : Place.nested c ⟨.address, depth, blank⟩ = depth := by
      simp [Place.nested, hopening, hclosing]
    rw [hdepth]
    exact ih nofun
  | mark name _ ih => exact .mark name (ih nofun)
  | opening _ ih =>
    have hstart := fun t => @startsSearch_of_ne blank '(' t (by decide) (by decide)
    exact .char (by decide) (by decide) (by decide) (fun _ => hstart _) (ih nofun)
  | closing _ ih =>
    have hstart := fun t => @startsSearch_of_ne blank ')' t (by decide) (by decide)
    exact .char (by decide) (by decide) (by decide) (fun _ => hstart _) (ih nofun)
  | division hc _ ih =>
    cases blank with
    | false => exact .char (by decide) (by decide) (by decide) (fun _ => by simp [startsSearch, hc]) (ih nofun)
    | true => simpa using hhead rfl

theorem Calculation.eq_of_nil (h : Calculation depth [] depth') : depth' = depth := by
  cases h
  rfl

/-- They pass a pattern together with the delimiter behind it. -/
theorem Enclosed.passes {delimiter : Char} (hescape : delimiter ≠ '\\') (h : Enclosed delimiter t) :
    Passes ⟨.pattern delimiter, depth, false⟩ (t ++ [delimiter]) ⟨.address, depth, false⟩ := by
  induction h with
  | done => exact .step rfl (fun _ => by simp [Inside.next, hescape]) .done
  | escape c _ ih =>
    have hescaped : Passes ⟨.escape delimiter, depth, false⟩ (c :: _) _ := .step rfl (fun _ => rfl) ih
    exact .step rfl (fun _ => rfl) hescaped
  | plain hc hdelimiter _ ih => exact .step rfl (fun _ => by simp [Inside.next, hc, hdelimiter]) ih

theorem isPlain_of_offset (h : isOffsetChar c) : isPlain c := by
  simp only [isOffsetChar, Bool.or_eq_true, decide_eq_true_eq] at h
  obtain (hdigit | rfl) | rfl := h
  · simp [isPlain, hdigit]
  · decide
  · decide

theorem calculation_of_offset (h : t.all isOffsetChar) : Calculation depth t depth := by
  induction t with
  | nil => exact .done
  | cons c t ih =>
    obtain ⟨hc, ht⟩ := Bool.and_eq_true_iff.mp h
    exact .plain (isPlain_of_offset hc) (ih ht)

namespace WrittenSearch

theorem delimiter_cases (s : WrittenSearch) : s.delimiter = '?' ∨ s.delimiter = '/' ∧ s.backward = false := by
  cases h : s.backward <;> simp [delimiter, h]

theorem passes (s : WrittenSearch)
    (h : blank = false → s.backward = false → ¬ s.pattern.head?.any isOperandStart) :
    Passes ⟨.address, depth, blank⟩ s.text ⟨.address, depth, false⟩ := by
  have hkeeps : Place.Keeps s.delimiter ⟨.address, depth, blank⟩ := by
    obtain hd | ⟨hd, -⟩ := s.delimiter_cases <;> rw [hd] <;>
      exact ⟨by decide, by decide, by decide, by decide⟩
  have hstart : ∀ rest, startsSearch blank (s.delimiter :: (s.pattern ++ [s.delimiter] ++ s.offset ++ rest)) := by
    intro rest
    obtain hd | ⟨hd, hforward⟩ := s.delimiter_cases
    · rw [hd]
      rfl
    · cases blank with
      | true => simp [startsSearch, hd]
      | false =>
        have hhead := h rfl hforward
        cases hp : s.pattern with
        | nil => simp [startsSearch, hd, isOperandStart]
        | cons c t => simpa [startsSearch, hd, hp] using hhead
  have hdepth : Place.nested s.delimiter ⟨.address, depth, blank⟩ = depth := by
    obtain hd | ⟨hd, -⟩ := s.delimiter_cases <;> rw [hd] <;> rfl
  have hpattern : Passes ⟨.pattern s.delimiter, depth, false⟩ (s.pattern ++ [s.delimiter])
      ⟨.address, depth, false⟩ :=
    Enclosed.passes (by obtain hd | ⟨hd, -⟩ := s.delimiter_cases <;> rw [hd] <;> decide) s.enclosed
  have hoffset : Passes ⟨.address, depth, false⟩ s.offset ⟨.address, depth, false⟩ :=
    (calculation_of_offset s.signed).passes nofun
  have htext : s.text = s.delimiter :: (s.pattern ++ [s.delimiter] ++ s.offset) := by
    simp [text]
  rw [htext]
  refine .step hkeeps (fun rest => Inside.next_search (hstart rest)) ?_
  rw [hdepth]
  exact hpattern.trans hoffset

end WrittenSearch

theorem WrittenPart.passes (p : WrittenPart) :
    ∃ blank, Passes ⟨.address, 0, true⟩ p.text ⟨.address, p.opened, blank⟩ := by
  by_cases hempty : p.expression = []
  · have hopened : p.opened = 0 := (hempty ▸ p.calculates).eq_of_nil
    rw [hopened]
    cases hs : p.search with
    | none =>
      have htext : p.text = [] := by simp [text, hempty, hs]
      exact ⟨true, htext ▸ .done⟩
    | some s =>
      have htext : p.text = s.text := by simp [text, hempty, hs]
      exact ⟨false, htext ▸ s.passes nofun⟩
  · have hexpression : Passes ⟨.address, 0, true⟩ p.expression ⟨.address, p.opened, false⟩ :=
      p.calculates.passes fun _ => by
        obtain ⟨c, t, hc⟩ := List.exists_cons_of_ne_nil hempty
        have hhead := p.head_ne
        simp_all
    cases hs : p.search with
    | none =>
      have htext : p.text = p.expression := by simp [text, hs]
      exact ⟨false, htext ▸ hexpression⟩
    | some s =>
      have htext : p.text = p.expression ++ s.text := by simp [text, hs]
      have hsearch : Passes ⟨.address, p.opened, false⟩ s.text ⟨.address, p.opened, false⟩ :=
        s.passes fun _ hforward => p.searches s hs hforward hempty
      exact ⟨false, htext ▸ hexpression.trans hsearch⟩

/-! ### Ranges -/

namespace Separator

theorem scanRange (s : Separator) (blank : Bool) (t : Text) :
    scanRange .address blank (s.char :: t) =
      (s.char :: (Address.scanRange .address true t).1, (Address.scanRange .address true t).2) := by
  cases s <;> rfl

theorem splitParts (s : Separator) (blank : Bool) (t : Text) :
    splitParts .address 0 blank (s.char :: t) = ([], some s.char) :: Address.splitParts .address 0 true t := by
  cases s <;> rfl

end Separator

namespace WrittenRange

/-- A range begins with a character of ranges, and not with a blank. -/
theorem head_text (r : WrittenRange) : ∀ c ∈ r.text.head?, isRangeChar c ∧ ¬ Unicode.isBlank c := by
  have hpart : ∀ p : WrittenPart, ∀ c ∈ p.text.head?, isRangeChar c ∧ ¬ Unicode.isBlank c := by
    intro p c hc
    obtain ⟨blank, hpasses⟩ := p.passes
    cases htext : p.text with
    | nil => simp [htext] at hc
    | cons first t =>
      obtain rfl : first = c := by simpa [htext] using hc
      rw [htext] at hpasses
      cases hpasses with
      | step hkeeps _ _ => exact ⟨hkeeps.1, hkeeps.2.2.2⟩
  obtain ⟨separated, last⟩ := r
  cases separated with
  | nil => exact hpart last
  | cons p separated =>
    intro c hc
    cases htext : p.1.text with
    | nil =>
      obtain rfl : p.2.char = c := by simpa [text, htext] using hc
      cases p.2 <;> decide
    | cons first t => exact hpart p.1 c (by simpa [text, htext] using hc)

/-- The scan of a command line stops exactly behind the range, if what follows does not belong to ranges. -/
theorem scanRange_text (r : WrittenRange) {rest : Text} (hrest : ∀ c ∈ rest.head?, isRangeChar c = false) :
    scanRange .address true (r.text ++ rest) = (r.text, rest) := by
  have hstop : ∀ blank, scanRange .address blank rest = ([], rest) := fun blank => by
    cases rest with
    | nil => rfl
    | cons c t => simp [scanRange, hrest c (by simp)]
  obtain ⟨separated, last⟩ := r
  induction separated with
  | nil =>
    obtain ⟨blank, hlast⟩ := last.passes
    simp [text, hlast.scanRange, hstop]
  | cons p separated ih =>
    obtain ⟨blank, hpart⟩ := p.1.passes
    simp only [text, List.flatMap_cons, List.append_assoc, List.cons_append, List.nil_append] at ih ⊢
    rw [hpart.scanRange, Separator.scanRange, ih]

/-- The other scan cuts the range at its separators. -/
theorem splitParts_text (r : WrittenRange) (hclosed : r.IsClosed) : splitParts .address 0 true r.text = r.parts := by
  obtain ⟨separated, last⟩ := r
  induction separated with
  | nil =>
    obtain ⟨blank, hlast⟩ := last.passes
    have hnone : splitParts .address last.opened blank [] = [([], none)] := rfl
    simpa [text, parts] using hlast.splitParts hnone
  | cons p separated ih =>
    obtain ⟨blank, hpart⟩ := p.1.passes
    have hopened : p.1.opened = 0 := hclosed _ (by simp)
    have hbehind := ih fun q hq => hclosed q (List.mem_cons_of_mem _ hq)
    rw [hopened] at hpart
    have hcut := hpart.splitParts (p.2.splitParts blank (text ⟨separated, last⟩))
    rw [hbehind] at hcut
    simpa [text, parts] using hcut

end WrittenRange

end Address
end ExEditor
