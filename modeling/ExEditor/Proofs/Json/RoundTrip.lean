import ExEditor.Json.Reader
import ExEditor.Json.Writer

/-! What is written as JSON is read back. Of numbers nothing is said, as no document here holds one. -/
namespace ExEditor
namespace Json

/-- A value without numbers, in which arrays and objects are nested at most so deeply. -/
inductive Fits : (depth : Nat) → Json → Prop
  | null {depth : Nat} : Fits depth null
  | bool {depth : Nat} (b : Bool) : Fits depth (bool b)
  | string {depth : Nat} (t : Text) : Fits depth (string t)
  | array {depth : Nat} {items : List Json} (h : ∀ j ∈ items, Fits depth j) : Fits (depth + 1) (array items)
  | object {depth : Nat} {fields : List (Text × Json)} (h : ∀ f ∈ fields, Fits depth f.2) :
    Fits (depth + 1) (object fields)

section strings

theorem hex4?_control {n : Nat} (h : n < 32) :
    hex4? '0' '0' (hexDigit (n / 16)) (hexDigit (n % 16)) = some n := by
  have hall : ∀ n : Fin 32, hex4? '0' '0' (hexDigit (n / 16)) (hexDigit (n % 16)) = some n.val := by decide
  exact hall ⟨n, h⟩

/-- A character that is written by an escape with one letter. -/
theorem readString_escaped {c e : Char} (hu : e ≠ 'u') (he : escape? e = some c) (t : Text) :
    readString ('\\' :: e :: t) = (readString t).map fun p => (c :: p.1, p.2) := by
  rw [readString]
  · rw [he]
    cases readString t <;> rfl
  · intro _ _ _ _ _ h
    exact absurd h hu

theorem readString_control {c : Char} (h : c.toNat < 32) (t : Text) :
    readString ('\\' :: 'u' :: '0' :: '0' :: hexDigit (c.toNat / 16) :: hexDigit (c.toNat % 16) :: t) =
      (readString t).map fun p => (c :: p.1, p.2) := by
  have hpair : ¬ (0xD800 ≤ c.toNat ∧ c.toNat ≤ 0xDBFF) := by omega
  have hunit : ofUnits? c.toNat none = some c := by rw [ofUnits?, if_neg (by omega), Char.ofNat_toNat]
  simp only [readString, hex4?_control h, bind, Option.bind, hpair, hunit, ↓reduceIte]
  cases readString t <;> rfl

theorem readString_plain {c : Char} (hquote : c ≠ '"') (hslash : c ≠ '\\') (h : ¬ c.toNat < 32) (t : Text) :
    readString (c :: t) = (readString t).map fun p => (c :: p.1, p.2) := by
  rw [readString]
  · rw [if_neg (by simp [h, hslash])]
    cases readString t <;> rfl
  · exact hquote
  · intro _ _ _ _ _ hc
    exact absurd hc hslash
  · intro _ _ hc
    exact absurd hc hslash

theorem readString_writeChar (c : Char) (t : Text) :
    readString (writeChar c ++ t) = (readString t).map fun p => (c :: p.1, p.2) := by
  unfold writeChar
  split
  · next h => exact readString_escaped (by decide) (by rw [h]; rfl) t
  split
  · next h => exact readString_escaped (by decide) (by rw [h]; rfl) t
  split
  · next h => exact readString_escaped (by decide) (by rw [h]; rfl) t
  split
  · next h => exact readString_escaped (by decide) (by rw [h]; rfl) t
  split
  · next h => exact readString_escaped (by decide) (by rw [h]; rfl) t
  split
  · next h => exact readString_escaped (by decide) (by rw [h]; rfl) t
  split
  · next h => exact readString_escaped (by decide) (by rw [h]; rfl) t
  split
  · next h => exact readString_control h t
  · next hquote hslash _ _ _ _ _ h => exact readString_plain hquote hslash h t

/-- Every text is read back from a string. -/
theorem readString_writeString (s t : Text) : readString (s.flatMap writeChar ++ '"' :: t) = some (s, t) := by
  induction s with
  | nil => rfl
  | cons c s ih => rw [List.flatMap_cons, List.append_assoc, readString_writeChar, ih, Option.map_some]

end strings

section blanks

theorem skip_of_not {c : Char} (h : isBlank c = false) (t : Text) : skip (c :: t) = c :: t := by
  simp [skip, h]

@[simp] theorem skip_blank (t : Text) : skip (' ' :: t) = skip t := rfl

@[simp] theorem skip_newLine (level : Nat) (t : Text) : skip (newLine level ++ t) = skip t := by
  have hblanks : ∀ n, skip (List.replicate n ' ' ++ t) = skip t := by
    intro n
    induction n with
    | zero => rfl
    | succ n ih => exact ih
  exact hblanks (2 * level)

theorem skip_skip (t : Text) : skip (skip t) = skip t := by
  induction t with
  | nil => rfl
  | cons c t ih =>
    cases h : isBlank c with
    | true => simpa [skip, h] using ih
    | false => rw [skip_of_not h, skip_of_not h]

/-- Blanks in front of a value are passed over. -/
theorem readValue_skip (n : Nat) (use : Use) (depth : Nat) (t : Text) :
    readValue n use depth t = readValue n use depth (skip t) := by
  cases n with
  | zero => simp only [readValue]
  | succ n => simp only [readValue, skip_skip]

theorem pretty_head {depth : Nat} {j : Json} (h : Fits depth j) (level : Nat) :
    ∃ c t, pretty level j = c :: t ∧ isBlank c = false ∧ c ≠ ']' := by
  cases h with
  | null => exact ⟨_, _, rfl, rfl, by decide⟩
  | bool b => cases b <;> exact ⟨_, _, rfl, rfl, by decide⟩
  | string t => exact ⟨'"', t.flatMap writeChar ++ ['"'], by simp [pretty, writeString], rfl, by decide⟩
  | @array _ items _ =>
    cases items with
    | nil => exact ⟨'[', [']'], by simp [pretty], rfl, by decide⟩
    | cons => exact ⟨_, _, by simp only [pretty, List.cons_append]; rfl, rfl, by decide⟩
  | @object _ fields _ =>
    cases fields with
    | nil => exact ⟨'\x7b', ['\x7d'], by simp [pretty], rfl, by decide⟩
    | cons => exact ⟨_, _, by simp only [pretty, List.cons_append]; rfl, rfl, by decide⟩

end blanks

/-- A value is read back from how it is laid out, whatever follows it. -/
def ReadBack (depth : Nat) (j : Json) : Prop :=
  ∀ n level rest, (pretty level j).length ≤ n →
    readValue n .all depth (pretty level j ++ rest) = some (j, rest)

/-- A value that is read back is read back from the line it is laid out on. -/
theorem ReadBack.onLine {depth : Nat} {j : Json} (h : ReadBack depth j) {n : Nat} (level : Nat) (rest : Text)
    (hn : (pretty level j).length ≤ n) {t : Text} (ht : skip t = skip (pretty level j ++ rest)) :
    readValue n .all depth t = some (j, rest) := by
  rw [readValue_skip, ht, ← readValue_skip]
  exact h n level rest hn

/-- The items of an array as laid out, from the line of the first one. -/
theorem readItems_pretty {depth : Nat} (level : Nat) {j : Json} {items : List Json}
    (h : ∀ i ∈ j :: items, ReadBack depth i) {n : Nat} (outer : Nat) (rest : Text)
    (hn : (newLine level ++ pretty level j ++ prettyItems level items).length ≤ n) :
    readItems n .all depth
        (newLine level ++ pretty level j ++ prettyItems level items ++ newLine outer ++ ']' :: rest) =
      some (j :: items, rest) := by
  induction items generalizing j n with
  | nil =>
    cases n with
    | zero => simp [newLine] at hn
    | succ n =>
      simp only [newLine, List.length_append, List.length_cons] at hn
      have hvalue := (h j List.mem_cons_self).onLine (n := n) level (newLine outer ++ ']' :: rest)
        (by omega) (skip_newLine level _)
      simp only [prettyItems, List.append_nil, List.append_assoc, readItems, Use.ofItem, hvalue, bind,
        Option.bind, skip_newLine]
      rfl
  | cons j' items ih =>
    cases n with
    | zero => simp [newLine] at hn
    | succ n =>
      simp only [prettyItems, List.length_append, List.length_cons] at hn
      have hvalue := (h j List.mem_cons_self).onLine (n := n) level
        (',' :: (newLine level ++ pretty level j' ++ prettyItems level items ++ newLine outer ++ ']' :: rest))
        (by omega) (skip_newLine level _)
      have hitems := ih (j := j') (n := n) (fun i hi => h i (List.mem_cons_of_mem _ hi))
        (by simp only [List.length_append]; omega)
      simp only [List.append_assoc] at hvalue hitems
      simp only [prettyItems, List.cons_append, List.append_assoc, readItems, Use.ofItem, hvalue, bind,
        Option.bind, skip_of_not (rfl : isBlank ',' = false), hitems]
      rfl

/-- The fields of an object as laid out, from the line of the first one. The values are all of use. -/
theorem readFields_pretty {use : Use} (hu : use ≠ .nothing) {depth : Nat} (level : Nat) {f : Text × Json}
    {fields : List (Text × Json)} (h : ∀ g ∈ f :: fields, ReadBack depth g.2 ∧ use.ofField g.1 = .all)
    {n : Nat} (outer : Nat) (rest : Text)
    (hn : (newLine level ++ writeString f.1 ++ ':' :: ' ' :: pretty level f.2
      ++ prettyFields level fields).length ≤ n) :
    readFields n use depth
        (newLine level ++ writeString f.1 ++ ':' :: ' ' :: pretty level f.2 ++ prettyFields level fields
          ++ newLine outer ++ '\x7d' :: rest) =
      some (f :: fields, rest) := by
  induction fields generalizing f n with
  | nil =>
    cases n with
    | zero => simp [newLine] at hn
    | succ n =>
      obtain ⟨hback, huse⟩ := h f List.mem_cons_self
      simp only [newLine, List.length_append, List.length_cons] at hn
      have hvalue := hback.onLine (n := n) level (newLine outer ++ '\x7d' :: rest)
        (by omega) (skip_blank _)
      simp only [prettyFields, writeString, List.append_nil, List.cons_append, List.append_assoc,
        List.nil_append, readFields, skip_newLine, skip_of_not (rfl : isBlank '"' = false), readStringFor, hu,
        ↓reduceIte, readString_writeString, bind, Option.bind, skip_of_not (rfl : isBlank ':' = false), huse,
        hvalue]
      rfl
  | cons g fields ih =>
    cases n with
    | zero => simp [newLine] at hn
    | succ n =>
      obtain ⟨hback, huse⟩ := h f List.mem_cons_self
      simp only [prettyFields, List.length_append, List.length_cons] at hn
      have hvalue := hback.onLine (n := n) level
        (',' :: (newLine level ++ writeString g.1 ++ ':' :: ' ' :: pretty level g.2 ++ prettyFields level fields
          ++ newLine outer ++ '\x7d' :: rest)) (by omega) (skip_blank _)
      have hfields := ih (f := g) (n := n) (fun i hi => h i (List.mem_cons_of_mem _ hi))
        (by simp only [List.length_append, List.length_cons]; omega)
      simp only [writeString, List.cons_append, List.append_assoc, List.nil_append] at hvalue hfields
      simp only [prettyFields, writeString, List.cons_append, List.append_assoc,
        List.nil_append, readFields, skip_newLine, skip_of_not (rfl : isBlank '"' = false), readStringFor, hu,
        ↓reduceIte, readString_writeString, bind, Option.bind, skip_of_not (rfl : isBlank ':' = false), huse,
        hvalue, skip_of_not (rfl : isBlank ',' = false), hfields]
      rfl

/-- An array is read back if its items are. -/
theorem readBack_array {depth : Nat} {items : List Json} (h : ∀ j ∈ items, Fits depth j)
    (hback : ∀ j ∈ items, ReadBack depth j) : ReadBack (depth + 1) (array items) := by
  rintro (_ | n) level rest hn
  · cases items <;> simp [pretty] at hn
  · cases items with
    | nil => rfl
    | cons j items =>
      obtain ⟨c, t, hc, hblank, hclose⟩ := pretty_head (h j List.mem_cons_self) (level + 1)
      simp only [pretty, List.cons_append, List.length_cons, List.length_append] at hn
      have hitems := readItems_pretty (level + 1) (n := n) hback level rest
        (by simp only [List.length_append]; omega)
      simp only [hc, List.cons_append, List.append_assoc] at hitems
      simp only [pretty, hc, List.cons_append, List.append_assoc, List.nil_append, readValue,
        skip_of_not (rfl : isBlank '[' = false), inner?, bind, Option.bind, skip_newLine, skip_of_not hblank,
        hitems]
      split
      · next heq => cases heq; exact absurd rfl hclose
      · rfl

/-- An object is read back if its fields are, and their values are all of use. -/
theorem readValue_object {use : Use} (hu : use ≠ .nothing) {depth : Nat} {fields : List (Text × Json)}
    (h : ∀ f ∈ fields, ReadBack depth f.2 ∧ use.ofField f.1 = .all) {n : Nat} (level : Nat) (rest : Text)
    (hn : (pretty level (object fields)).length ≤ n) :
    readValue n use (depth + 1) (pretty level (object fields) ++ rest) = some (object fields, rest) := by
  have hinner : inner? use (depth + 1) = some depth := by
    cases use with
    | all => rfl
    | nothing => exact absurd rfl hu
    | field name => rfl
  cases n with
  | zero => cases fields <;> simp [pretty] at hn
  | succ n =>
    cases fields with
    | nil =>
      simp only [pretty, List.cons_append, List.nil_append, readValue, skip_of_not (rfl : isBlank '\x7b' = false),
        hinner, bind, Option.bind, skip_of_not (rfl : isBlank '\x7d' = false)]
      rfl
    | cons f fields =>
      simp only [pretty, List.cons_append, List.length_cons, List.length_append] at hn
      have hfields := readFields_pretty hu (level + 1) (n := n) h level rest
        (by simp only [List.length_append, List.length_cons]; omega)
      simp only [writeString, List.cons_append, List.append_assoc, List.nil_append] at hfields
      simp only [pretty, writeString, List.cons_append, List.append_assoc, List.nil_append, readValue,
        skip_of_not (rfl : isBlank '\x7b' = false), hinner, bind, Option.bind, skip_newLine,
        skip_of_not (rfl : isBlank '"' = false), hfields]
      rfl

/-- A value without numbers is read back, if it is not nested too deeply. -/
theorem Fits.readBack {depth : Nat} {j : Json} (h : Fits depth j) : ReadBack depth j := by
  induction h with
  | null =>
    rintro (_ | n) level rest hn
    · simp [pretty] at hn
    · rfl
  | bool b =>
    rintro (_ | n) level rest hn
    · cases b <;> simp [pretty] at hn
    · cases b <;> rfl
  | string t =>
    rintro (_ | n) level rest hn
    · simp [pretty, writeString] at hn
    · simp only [pretty, writeString, List.cons_append, List.append_assoc, List.nil_append, readValue,
        skip_of_not (rfl : isBlank '"' = false), readStringFor, reduceCtorEq, ↓reduceIte, readString_writeString,
        Option.map_some]
  | array h ih => exact readBack_array h ih
  | object _ ih =>
    intro n level rest hn
    exact readValue_object (by decide) (fun f hf => ⟨ih f hf, rfl⟩) level rest hn

/-- A document is read back from how it is laid out, where what is of use of it is all that is in it. -/
theorem read?_pretty {use : Use} (hu : use ≠ .nothing) {fields : List (Text × Json)}
    (h : ∀ f ∈ fields, Fits (depthLimit - 1) f.2 ∧ use.ofField f.1 = .all) :
    read? use (pretty 0 (object fields)) = some (object fields) := by
  have hvalue : readValue (2 * (pretty 0 (object fields)).length + 2) use depthLimit
      (pretty 0 (object fields) ++ []) = some (object fields, []) :=
    readValue_object hu (fun f hf => ⟨(h f hf).1.readBack, (h f hf).2⟩) 0 [] (by omega)
  rw [List.append_nil] at hvalue
  unfold read?
  rw [hvalue]
  rfl

end Json
end ExEditor
