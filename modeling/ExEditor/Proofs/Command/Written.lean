import ExEditor.Command.Parse
import ExEditor.Proofs.Address.Written
import ExEditor.Proofs.Command.Parse
import ExEditor.Proofs.Text.Trim
import Mathlib.Data.List.Nodup

/-! Command lines as they are written: a range, a word or a sign for a verb, and an argument. Each is read back
as what was written. -/
namespace ExEditor

/-! ### Words for verbs -/

namespace Verb

/-- A word is long enough to be short for the name of an entry, which it begins. -/
def Abbreviates (word : Text) (entry : String × Nat × Verb) : Prop :=
  entry.2.1 ≤ word.length ∧ word <+: entry.1.toList

/-- An entry is taken for an abbreviation of both: its shortest abbreviation is shorter, or as long and its name
comes first in the alphabet. -/
def Precedes (entry other : String × Nat × Verb) : Prop :=
  entry.2.1 < other.2.1 ∨ entry.2.1 = other.2.1 ∧ entry.1 < other.1

/-- A word is the name of a verb, or no name and short for it before all others. -/
def Spells (word : Text) (verb : Verb) : Prop :=
  ∃ entry ∈ words, entry.2.2 = verb ∧ Abbreviates word entry ∧
    (entry.1.toList = word ∨
      ∀ other ∈ words, Abbreviates word other → other.1.toList ≠ word ∧ ¬ Precedes other entry)

instance (entry other : String × Nat × Verb) : Decidable (Precedes entry other) :=
  inferInstanceAs (Decidable (_ ∨ _))

theorem words_ordered : words.Pairwise Precedes := by decide

theorem words_nodup : (words.map (·.1.toList)).Nodup := by decide

theorem words_shape : ∀ entry ∈ words, 0 < entry.2.1 ∧ entry.2.1 ≤ entry.1.toList.length ∧
    entry.1.toList.all Command.isWordChar := by decide

theorem Precedes.asymm {entry other : String × Nat × Verb} (h : Precedes entry other) : ¬ Precedes other entry := by
  rintro (hless | ⟨heq, hname⟩)
  · obtain hless' | ⟨heq', -⟩ := h <;> omega
  · obtain hless' | ⟨-, hname'⟩ := h
    · omega
    · exact String.lt_asymm hname hname'

/-- In a list of entries in order, the first one that fits precedes all others that do. -/
theorem find?_eq_some_iff_first {entries : List (String × Nat × Verb)} (hentries : entries.Pairwise Precedes)
    (fits : String × Nat × Verb → Bool) (entry : String × Nat × Verb) :
    entries.find? fits = some entry ↔
      entry ∈ entries ∧ fits entry ∧ ∀ other ∈ entries, fits other → ¬ Precedes other entry := by
  induction entries with
  | nil => simp
  | cons head entries ih =>
    obtain ⟨hhead, htail⟩ := List.pairwise_cons.mp hentries
    by_cases hfits : fits head
    · rw [List.find?_cons_of_pos hfits, Option.some_inj]
      constructor
      · rintro rfl
        refine ⟨List.mem_cons_self, hfits, fun other hother _ => ?_⟩
        obtain rfl | hother := List.mem_cons.mp hother
        · exact fun h => h.asymm h
        · exact (hhead other hother).asymm
      · rintro ⟨hentry, -, hfirst⟩
        obtain rfl | hentry := List.mem_cons.mp hentry
        · rfl
        · exact absurd (hhead entry hentry) (hfirst head List.mem_cons_self hfits)
    · rw [List.find?_cons_of_neg hfits, ih htail]
      constructor
      · rintro ⟨hentry, hfit, hfirst⟩
        refine ⟨List.mem_cons_of_mem _ hentry, hfit, fun other hother hfit => ?_⟩
        obtain rfl | hother := List.mem_cons.mp hother
        · exact absurd hfit hfits
        · exact hfirst other hother hfit
      · rintro ⟨hentry, hfit, hfirst⟩
        obtain rfl | hentry := List.mem_cons.mp hentry
        · exact absurd hfit hfits
        · exact ⟨hentry, hfit, fun other hother => hfirst other (List.mem_cons_of_mem _ hother)⟩

/-- Words are looked up as the names and abbreviations that they are. -/
theorem ofWord?_eq_some_iff {word : Text} {verb : Verb} : ofWord? word = some verb ↔ Spells word verb := by
  have hfits : ∀ entry : String × Nat × Verb,
      (decide (entry.2.1 ≤ word.length) && word.isPrefixOf entry.1.toList) = true ↔ Abbreviates word entry :=
    fun entry => by simp [Abbreviates]
  rw [ofWord?]
  cases hwhole : words.find? fun entry => entry.1.toList == word with
  | some entry =>
    have hentry := List.mem_of_find?_eq_some hwhole
    have hname : entry.1.toList = word := by simpa using List.find?_some hwhole
    simp only [Option.orElse_some, Option.map_some, Option.some_inj]
    constructor
    · rintro rfl
      have hlong := (words_shape entry hentry).2.1
      rw [hname] at hlong
      exact ⟨entry, hentry, rfl, ⟨hlong, hname ▸ List.prefix_rfl⟩, .inl hname⟩
    · rintro ⟨entry', hentry', rfl, -, hname' | hfirst⟩
      · have hsame := List.inj_on_of_nodup_map words_nodup hentry hentry' (hname.trans hname'.symm)
        rw [hsame]
      · have hlong := (words_shape entry hentry).2.1
        rw [hname] at hlong
        exact absurd hname (hfirst entry hentry ⟨hlong, hname ▸ List.prefix_rfl⟩).1
  | none =>
    have hnone : ∀ entry ∈ words, entry.1.toList ≠ word := fun entry hentry => by
      simpa using List.find?_eq_none.mp hwhole entry hentry
    simp only [Option.orElse_none, Option.map_eq_some_iff, find?_eq_some_iff_first words_ordered, hfits]
    constructor
    · rintro ⟨entry, ⟨hentry, hshort, hfirst⟩, rfl⟩
      exact ⟨entry, hentry, rfl, hshort, .inr fun other hother h => ⟨hnone other hother, hfirst other hother h⟩⟩
    · rintro ⟨entry, hentry, rfl, hshort, hname | hfirst⟩
      · exact absurd hname (hnone entry hentry)
      · exact ⟨entry, ⟨hentry, hshort, fun other hother h => (hfirst other hother h).2⟩, rfl⟩

/-- Words for verbs are made of letters only, of at least one. -/
theorem Spells.letters {word : Text} {verb : Verb} (h : Spells word verb) :
    word ≠ [] ∧ ∀ c ∈ word, Command.isWordChar c := by
  obtain ⟨entry, hentry, -, ⟨hlong, hbegins⟩, -⟩ := h
  obtain ⟨hshortest, -, hletters⟩ := words_shape entry hentry
  refine ⟨?_, fun c hc => List.all_eq_true.mp hletters c (hbegins.subset hc)⟩
  rintro rfl
  exact absurd hshortest (by simpa using hlong)

end Verb

/-! ### Verbs and what follows them -/

namespace Command

theorem readVerb?_sign {c : Char} (h : ¬ isWordChar c) (t : Text) :
    readVerb? (c :: t) = (readSign? (c :: t)).map fun (verb, rest) => (verb, false, rest) := by
  simp [readVerb?, h]

section
variable {letters rest : Text} {named : Verb}

theorem head_letters (h : Verb.Spells letters named) (rest : Text) : (letters ++ rest).head?.any isWordChar := by
  obtain ⟨hne, hletters⟩ := h.letters
  cases letters with
  | nil => exact absurd rfl hne
  | cons c t => simpa using hletters c (by simp)

/-- A word is read up to where its letters end. -/
theorem readWord?_append (h : Verb.Spells letters named) (hrest : ∀ c ∈ rest.head?, ¬ isWordChar c) :
    readWord? (letters ++ rest) = some (named, rest) := by
  have hword : (letters ++ rest).takeWhile isWordChar = letters := Text.takeWhile_append h.letters.2 hrest
  have hnamed : Verb.ofWord? letters = some named := Verb.ofWord?_eq_some_iff.mpr h
  simp [readWord?, hword, hnamed]

theorem readVerb?_marked (h : Verb.Spells letters named) (rest : Text) :
    readVerb? (letters ++ '!' :: rest) = some (named, true, rest) := by
  have hend : ∀ c ∈ ('!' :: rest).head?, ¬ isWordChar c := by
    simp only [List.head?_cons, Option.mem_some_iff]
    rintro c rfl
    decide
  rw [readVerb?, if_pos (head_letters h _), readWord?_append h hend]
  rfl

theorem readVerb?_unmarked (h : Verb.Spells letters named) (hrest : ∀ c ∈ rest.head?, ¬ isWordChar c ∧ c ≠ '!') :
    readVerb? (letters ++ rest) = some (named, false, rest) := by
  rw [readVerb?, if_pos (head_letters h _), readWord?_append h fun c hc => (hrest c hc).1]
  cases rest with
  | nil => rfl
  | cons c t =>
    have hmark : c ≠ '!' := (hrest c (by simp)).2
    simp [hmark]

end

/-- A sign that may be written several times is read as often as it stands there. -/
theorem readSign?_shift {c : Char} (hc : c = '>' ∨ c = '<') (more : Nat) {rest : Text}
    (hrest : ∀ d ∈ rest.head?, d ≠ c) :
    readSign? (c :: (List.replicate more c ++ rest)) = some (.shift (c = '>') (more + 1), rest) := by
  have hmore : (List.replicate more c ++ rest).takeWhile (· = c) = List.replicate more c :=
    Text.takeWhile_append (fun d hd => by simpa using List.eq_of_mem_replicate hd) fun d hd => by
      simpa using hrest d hd
  have hread : readSign? (c :: (List.replicate more c ++ rest)) =
      some (.shift (c = '>') (((List.replicate more c ++ rest).takeWhile (· = c)).length + 1),
        (List.replicate more c ++ rest).drop ((List.replicate more c ++ rest).takeWhile (· = c)).length) := by
    obtain rfl | rfl := hc <;> rfl
  rw [hread, hmore]
  simp

/-- A verb as it is written. -/
inductive WrittenVerb
  /-- A word, and whether an exclamation mark follows it. -/
  | word (letters : Text) (named : Verb) (spells : Verb.Spells letters named) (marked : Bool)
  | repeatSubstitute (keepFlags : Bool)
  | repeatWithSearch
  | bang
  | lineNumber
  | number
  | play
  /-- A sign that is written once and some more times. -/
  | shift (forward : Bool) (more : Nat)

namespace WrittenVerb

def text : WrittenVerb → Text
  | word letters _ _ marked => letters ++ if marked then ['!'] else []
  | repeatSubstitute keepFlags => '&' :: if keepFlags then ['&'] else []
  | repeatWithSearch => ['~']
  | bang => ['!']
  | lineNumber => ['=']
  | number => ['#']
  | play => ['@']
  | shift forward more => List.replicate (more + 1) (if forward then '>' else '<')

/-- The verb that its word or sign names. -/
def named : WrittenVerb → Verb
  | word _ named _ _ => named
  | repeatSubstitute keepFlags => .repeatSubstitute keepFlags
  | repeatWithSearch => .repeatWithSearch
  | bang => .bang
  | lineNumber => .lineNumber
  | number => .number
  | play => .play
  | shift forward more => .shift forward (more + 1)

/-- Whether an exclamation mark follows a word. -/
def hasBang : WrittenVerb → Bool
  | word _ _ _ marked => marked
  | _ => false

/-- The verb that is meant: an exclamation mark turns a global command around. -/
def verb (v : WrittenVerb) : Verb :=
  match v.named with
  | .global invert => .global (invert || v.hasBang)
  | verb => verb

/-- Characters that would be read as more of the verb if they stood directly behind it. -/
def continues (c : Char) : WrittenVerb → Bool
  | word _ _ _ marked => !marked && (isWordChar c || c = '!')
  | repeatSubstitute keepFlags => !keepFlags && c = '&'
  | shift forward _ => c = if forward then '>' else '<'
  | _ => false

/-- A verb is read as it is written, up to where it ends. -/
theorem readVerb?_text (v : WrittenVerb) {arg : Text} (harg : ∀ c ∈ arg.head?, v.continues c = false) :
    readVerb? (v.text ++ arg) = some (v.named, v.hasBang, arg) := by
  cases v with
  | word letters named spells marked =>
    cases marked with
    | true =>
      have htext : (word letters named spells true).text ++ arg = letters ++ '!' :: arg := by simp [text]
      rw [htext]
      exact readVerb?_marked spells arg
    | false =>
      have htext : (word letters named spells false).text ++ arg = letters ++ arg := by simp [text]
      rw [htext]
      exact readVerb?_unmarked spells fun c hc => by simpa [continues] using harg c hc
  | repeatSubstitute keepFlags =>
    cases keepFlags with
    | true => exact (readVerb?_sign (by decide) _).trans rfl
    | false =>
      refine (readVerb?_sign (by decide) _).trans ?_
      cases arg with
      | nil => rfl
      | cons c t =>
        have hc : c ≠ '&' := by simpa [continues] using harg c (by simp)
        simp [readSign?, hc, named, hasBang]
  | shift forward more =>
    have hother : ∀ c ∈ arg.head?, c ≠ if forward then '>' else '<' := fun c hc => by
      simpa [continues] using harg c hc
    have hsign : ¬ isWordChar (if forward then '>' else '<') := by cases forward <;> decide
    have hread := readSign?_shift (by cases forward <;> decide) more hother
    refine (readVerb?_sign hsign _).trans ?_
    rw [List.append_eq, hread]
    cases forward <;> rfl
  | _ => exact (readVerb?_sign (by decide) _).trans rfl

/-- Characters that verbs are written with belong neither to ranges nor to what is dropped in front. -/
theorem text_char (v : WrittenVerb) :
    ∀ c ∈ v.text, Address.isRangeChar c = false ∧ ¬ Unicode.isBlank c ∧ c ≠ ':' := by
  intro c hc
  have hsign : ∀ c ∈ "&~!=#@<>".toList, Address.isRangeChar c = false ∧ ¬ Unicode.isBlank c ∧ c ≠ ':' := by
    have hall : "&~!=#@<>".toList.all fun c =>
        decide (Address.isRangeChar c = false ∧ ¬ Unicode.isBlank c ∧ c ≠ ':') := by decide
    exact fun c hc => of_decide_eq_true (List.all_eq_true.mp hall c hc)
  cases v with
  | word letters named spells marked =>
    obtain hletter | hmark := List.mem_append.mp hc
    · have hword := spells.letters.2 c hletter
      refine ⟨isWordChar_not_range hword, isWordChar_not_blank hword, ?_⟩
      rintro rfl
      exact absurd hword (by decide)
    · cases marked with
      | true => exact hsign c (by simp_all)
      | false => simp at hmark
  | repeatSubstitute keepFlags => cases keepFlags <;> exact hsign c (by simp_all [text])
  | shift forward more =>
    have hc := List.eq_of_mem_replicate hc
    cases forward <;> exact hsign c (by simp_all)
  | _ => exact hsign c (by simp_all [text])

theorem text_ne_nil (v : WrittenVerb) : v.text ≠ [] := by
  cases v with
  | word letters named spells marked => simp [text, spells.letters.1]
  | _ => simp [text]

end WrittenVerb

/-! ### Command lines -/

/-- Nothing is dropped in front of a line that begins neither with a blank nor with a colon. -/
theorem bareLine_of_head {line : Text} (h : ∀ c ∈ line.head?, ¬ Unicode.isBlank c ∧ c ≠ ':') :
    bareLine line = Text.dropEndWhile (fun c => c = '\n' || c = '\r') line := by
  cases line with
  | nil => rfl
  | cons c t =>
    obtain ⟨hblank, hcolon⟩ := h c (by simp)
    rw [bareLine, Text.trimStart, Text.trimStart, List.dropWhile_cons_of_neg hblank,
      List.dropWhile_cons_of_neg (by simpa using hcolon), List.dropWhile_cons_of_neg hblank]

/-- What is read of a written command line: line breaks behind it are dropped, those of the argument. -/
theorem bareLine_written (r : Address.WrittenRange) (v : WrittenVerb) (arg : Text) :
    bareLine (r.text ++ v.text ++ arg) =
      r.text ++ (v.text ++ Text.dropEndWhile (fun c => c = '\n' || c = '\r') arg) := by
  have hhead : ∀ c ∈ (r.text ++ v.text ++ arg).head?, ¬ Unicode.isBlank c ∧ c ≠ ':' := by
    intro c hc
    cases hr : r.text with
    | nil =>
      obtain ⟨first, t, htext⟩ := List.exists_cons_of_ne_nil v.text_ne_nil
      obtain rfl : first = c := by simpa [hr, htext] using hc
      exact (v.text_char first (by simp [htext])).2
    | cons first t =>
      obtain rfl : first = c := by simpa [hr] using hc
      obtain ⟨hrange, hblank⟩ := r.head_text first (by simp [hr])
      refine ⟨hblank, ?_⟩
      rintro rfl
      exact absurd hrange (by decide)
  have hlast : ∀ c ∈ (r.text ++ v.text).getLast?, ¬ (c = '\n' || c = '\r') := by
    intro c hc hbreak
    rw [List.getLast?_append_of_ne_nil _ v.text_ne_nil] at hc
    exact (v.text_char c (List.mem_of_mem_getLast? hc)).2.1 (isBlank_of_break c hbreak)
  rw [bareLine_of_head hhead, Text.dropEndWhile_append hlast, List.append_assoc]

/-- A command line is read back as the range, the verb, the exclamation mark and the argument that it is written
with. The range is cut into the parts that it is written with. -/
theorem parse_written (r : Address.WrittenRange) (v : WrittenVerb) (arg : Text)
    (harg : ∀ c ∈ arg.head?, v.continues c = false) :
    parse (r.text ++ v.text ++ arg) =
        .ok (some ⟨r.text.trim, v.verb, Text.trimStart (Text.dropEndWhile (fun c => c = '\n' || c = '\r') arg),
          v.hasBang⟩) ∧
      (r.IsClosed → Address.splitParts .address 0 true r.text = r.parts) := by
  refine ⟨?_, r.splitParts_text⟩
  generalize hkept : Text.dropEndWhile (fun c => c = '\n' || c = '\r') arg = kept
  have hbare : bareLine (r.text ++ v.text ++ arg) = r.text ++ (v.text ++ kept) := hkept ▸ bareLine_written r v arg
  obtain ⟨first, t, htext⟩ := List.exists_cons_of_ne_nil v.text_ne_nil
  have hfirst := v.text_char first (by simp [htext])
  have hscan : Address.scanRange .address true (r.text ++ (v.text ++ kept)) = (r.text, v.text ++ kept) :=
    r.scanRange_text (by simp [htext, hfirst.1])
  have hread : readVerb? (v.text ++ kept) = some (v.named, v.hasBang, kept) :=
    v.readVerb?_text fun c hc => harg c (Text.head?_dropEndWhile _ _ c (hkept ▸ hc))
  have hshown : Text.isBlank (r.text ++ (v.text ++ kept)) = false := by
    simp [Text.isBlank, htext, hfirst.2.1]
  have hne : v.text ++ kept ≠ [] := by simp [v.text_ne_nil]
  rw [parse, hbare]
  simp only [hshown, hscan, hread, hne, Bool.false_eq_true, ↓reduceIte]
  rfl

/-- The slash behind `$` divides and the next one searches, where a pattern holds a delimiter and separators. A
mark is named by a slash, and the verb begins where the argument could still be of the range. -/
theorem parse_written_mixed :
    ∃ (r : Address.WrittenRange) (v : WrittenVerb),
      r.text = "$/2/a\\/b;,/+3;'/?x?,(1+2)*.".toList ∧ r.IsClosed ∧ v.text = "m".toList ∧
      (∀ c ∈ "$/2\n".toList.head?, v.continues c = false) ∧
      parse (r.text ++ v.text ++ "$/2\n".toList) =
        .ok (some ⟨"$/2/a\\/b;,/+3;'/?x?,(1+2)*.".toList, .move, "$/2".toList, false⟩) ∧
      Address.splitParts .address 0 true r.text =
        [("$/2/a\\/b;,/+3".toList, some ';'), ("'/?x?".toList, some ','), ("(1+2)*.".toList, none)] := by
  have hpattern : Address.Enclosed '/' "a\\/b;,".toList :=
    .plain (by decide) (by decide) (.escape '/' (.plain (by decide) (by decide) (.plain (by decide) (by decide)
      (.plain (by decide) (by decide) .done))))
  have hsum : Address.Calculation 0 "(1+2)*.".toList 0 :=
    .opening (.plain (by decide) (.plain (by decide) (.plain (by decide) (.closing (.plain (by decide)
      (.plain (by decide) .done))))))
  let quotient : Address.WrittenPart :=
    { expression := "$/2".toList
      opened := 0
      search := some
        { backward := false
          pattern := "a\\/b;,".toList
          offset := "+3".toList
          enclosed := hpattern
          signed := by decide }
      calculates := .plain (by decide) (.division (by decide) (.plain (by decide) .done))
      head_ne := by decide
      searches := by simp [Address.isOperandStart] }
  let marked : Address.WrittenPart :=
    { expression := "'/".toList
      opened := 0
      search := some
        { backward := true
          pattern := "x".toList
          offset := []
          enclosed := .plain (by decide) (by decide) .done
          signed := by decide }
      calculates := .mark '/' .done
      head_ne := by decide
      searches := by simp }
  let sum : Address.WrittenPart :=
    { expression := "(1+2)*.".toList
      opened := 0
      search := none
      calculates := hsum
      head_ne := by decide
      searches := by simp }
  let r : Address.WrittenRange := ⟨[(quotient, .semicolon), (marked, .comma)], sum⟩
  let v : WrittenVerb := .word "m".toList .move (Verb.ofWord?_eq_some_iff.mp (by decide)) false
  have harg : ∀ c ∈ "$/2\n".toList.head?, v.continues c = false := by
    intro c hc
    obtain rfl : '$' = c := Option.some_inj.mp hc
    rfl
  have hclosed : r.IsClosed := by simp [Address.WrittenRange.IsClosed, r, quotient, marked, sum]
  have hwritten := parse_written r v "$/2\n".toList harg
  exact ⟨r, v, rfl, hclosed, rfl, harg, hwritten.1, hwritten.2 hclosed⟩

end Command
end ExEditor
