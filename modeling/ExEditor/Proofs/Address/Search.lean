import ExEditor.Address.Resolve
import ExEditor.Proofs.Address.Written
import ExEditor.Proofs.Frame.Rows
import ExEditor.Proofs.Pattern.Lines

/-! Searches as addresses. A part of the text is searched as a text of its own, which ends in an empty line if a
break does. Apart from the matches of that line a search finds the first line in its order that has a match. -/
namespace ExEditor

namespace Matcher
variable {m : Matcher} {t : Text} {c : Nat}

/-- The lines of a text, each with whether a search of the text has a match on it. -/
def linesOf (m : Matcher) (t : Text) : List (Nat × Bool) :=
  (List.range (t.breakCount + 1)).map fun n => (n, m.sees t n)

/-- The lines from one on. If it is behind the last, what is left is empty and counts as part of the last. -/
def linesFrom (m : Matcher) (t : Text) (c : Nat) : List (Nat × Bool) :=
  if c ≤ t.breakCount then (List.range' c (t.breakCount + 1 - c)).map fun n => (n, m.sees t n)
  else [(t.breakCount, m.isMatch [])]

/-- The lines in front of one, and the empty line that their last break leaves in its place. -/
def linesUpTo (m : Matcher) (t : Text) (c : Nat) : List (Nat × Bool) :=
  if c ≤ t.breakCount then ((List.range c).map fun n => (n, m.sees t n)) ++ [(c, m.isMatch [])]
  else m.linesOf t

/-- The first line that has a match. -/
def firstSeen (lines : List (Nat × Bool)) : Option Nat := (lines.find? (·.2)).map (·.1)

theorem firstSeen_map (lines : List Nat) (p : Nat → Bool) :
    firstSeen (lines.map fun n => (n, p n)) = lines.find? p := by
  rw [firstSeen, List.find?_map, Option.map_map]
  exact Option.map_id'

theorem firstSeen_append (lines lines' : List (Nat × Bool)) :
    firstSeen (lines ++ lines') = (firstSeen lines).or (firstSeen lines') := by
  rw [firstSeen, List.find?_append, Option.map_or]
  rfl

theorem firstSeen_shift (lines : List (Nat × Bool)) (base : Nat) :
    firstSeen (lines.map fun entry => (base + entry.1, entry.2)) = (firstSeen lines).map (base + ·) := by
  rw [firstSeen, List.find?_map, Option.map_map, firstSeen, Option.map_map]
  rfl

theorem sees_nil (m : Matcher) (n : Nat) : m.sees [] n = m.isMatch [] := by
  have hline : Text.line [] n = [] := by cases n <;> rfl
  have hpair : Text.endsInPair [] n = false := by simp [Text.endsInPair]
  rw [sees, hline, hpair, Bool.false_and, Bool.or_false]

theorem linesFrom_eq (hc : c ≤ t.breakCount + 1) :
    m.linesFrom t c = (m.linesOf (t.fromLine c)).map fun entry => (min c t.breakCount + entry.1, entry.2) := by
  unfold linesFrom linesOf
  split
  · next hle =>
    have hcount := Text.breakCount_fromLine hle
    rw [Nat.min_eq_left hle, List.range'_eq_map_range, List.map_map, List.map_map,
      show t.breakCount + 1 - c = (t.fromLine c).breakCount + 1 by omega]
    refine List.map_congr_left fun n _ => ?_
    simp only [Function.comp_apply, sees, Text.line_fromLine, Text.endsInPair_fromLine]
  · next hgt =>
    rw [Text.fromLine_eq_nil (by omega), Nat.min_eq_right (by omega)]
    simp [Text.breakCount, sees_nil]

theorem linesUpTo_eq (m : Matcher) (t : Text) (c : Nat) : m.linesUpTo t c = m.linesOf (t.take (t.lineStart c)) := by
  unfold linesUpTo
  split
  · next hle =>
    rw [linesOf, Text.breakCount_take_lineStart hle, List.range_succ, List.map_append, List.map_singleton]
    congr 1
    · refine List.map_congr_left fun n hn => ?_
      have hlt := List.mem_range.mp hn
      rw [sees, sees, Text.line_take_lineStart hle hlt, Text.endsInPair_take_lineStart hle hlt]
    · rw [sees, Text.line_take_lineStart_self hle, Text.endsInPair_take_lineStart_self hle, Bool.false_and,
        Bool.or_false]
  · next hgt =>
    rw [Text.lineStart, Text.fromLine_eq_nil (by omega), List.length_nil, Nat.sub_zero, List.take_length]

end Matcher

namespace Text
variable {t : Text} {c offset : Nat}

/-- Where an offset in the lines from one on lies in the text. -/
theorem lineAt_part (hc : c ≤ t.breakCount + 1) (ho : offset ≤ (t.fromLine c).length) :
    t.lineAt (t.lineStart c + offset) = min c t.breakCount + (t.fromLine c).lineAt offset := by
  rcases Nat.le_or_eq_of_le_succ hc with hle | rfl
  · rw [Nat.min_eq_left hle, lineAt_fromLine hle]
  · have hnil := fromLine_eq_nil (Nat.lt_succ_self t.breakCount)
    rw [hnil, List.length_nil, Nat.le_zero] at ho
    rw [lineStart, hnil, ho, Nat.min_eq_right (Nat.le_succ _)]
    simp [lineAt, lineAt_length]

end Text

namespace Frame
variable {f : Frame} {m : Matcher} {c : Nat}

theorem slice_lineStart_length (f : Frame) (c : Nat) : f.slice (f.lineStart c) f.length = f.text.fromLine c := by
  rw [slice, Text.slice, length, List.take_length, lineStart, Text.drop_lineStart, ← Text.fromLine_eq]

theorem slice_zero_lineStart (f : Frame) (c : Nat) : f.slice 0 (f.lineStart c) = f.text.take (f.text.lineStart c) := by
  rw [slice, Text.slice, List.drop_zero, lineStart]

/-- The line of a match in the lines from one on. -/
theorem lineAt_hit_from (hc : c ≤ f.text.breakCount + 1) {hit : Match}
    (h : hit.Within 0 (f.text.fromLine c).length) :
    f.lineAt (f.lineStart c + hit.start) =
      min c f.text.breakCount + (f.text.fromLine c).lineAt hit.start := by
  have hle : hit.start ≤ (f.text.fromLine c).length := Nat.le_trans h.start_le h.stop_le
  have hlength := Text.length_fromLine f.text c
  have hstart := f.text.lineStart_le c
  rw [lineAt_eq (by rw [lineStart, length]; omega), lineStart, Text.lineAt_part hc hle]

/-- The line of a match in the lines in front of one. -/
theorem lineAt_hit_upTo (hc : c ≤ f.text.breakCount + 1) {hit : Match}
    (h : hit.Within 0 (f.text.take (f.text.lineStart c)).length) :
    f.lineAt (0 + hit.start) = Text.lineAt (f.text.take (f.text.lineStart c)) hit.start := by
  have hle : hit.start ≤ (f.text.take (f.text.lineStart c)).length := Nat.le_trans h.start_le h.stop_le
  rw [List.length_take_of_le (f.text.lineStart_le c)] at hle
  rw [Nat.zero_add, lineAt_eq (Nat.le_trans hle (f.text.lineStart_le c))]
  rcases Nat.le_or_eq_of_le_succ hc with hc | rfl
  · exact Text.lineAt_take_lineStart hc hle
  · rw [Text.lineStart, Text.fromLine_eq_nil (Nat.lt_succ_self _), List.length_nil, Nat.sub_zero, List.take_length]

section find
variable (hlines : m.MatchesInLines) (hlocal : m.staysInLine) (hc : c ≤ f.text.breakCount + 1)
include hlines hlocal hc

theorem findIn_from : (f.findIn m (f.lineStart c) f.length).map (fun span => f.lineAt span.1) =
    Matcher.firstSeen (m.linesFrom f.text c) := by
  have hin : ¬ f.length < f.lineStart c := Nat.not_lt.mpr (f.text.lineStart_le c)
  rw [findIn, if_neg hin, slice_lineStart_length, Option.map_map, Matcher.linesFrom_eq hc, Matcher.firstSeen_shift,
    Matcher.linesOf, Matcher.firstSeen_map, ← Matcher.find_line hlines hlocal, Option.map_map]
  refine Option.map_congr fun hit hhit => ?_
  exact lineAt_hit_from hc ((m.find_inOrder _).within hit (by simpa using hhit))

theorem findIn_upTo : (f.findIn m 0 (f.lineStart c)).map (fun span => f.lineAt span.1) =
    Matcher.firstSeen (m.linesUpTo f.text c) := by
  rw [findIn, if_neg (Nat.not_lt_zero _), slice_zero_lineStart, Option.map_map, Matcher.linesUpTo_eq,
    Matcher.linesOf, Matcher.firstSeen_map, ← Matcher.find_line hlines hlocal]
  refine Option.map_congr fun hit hhit => ?_
  exact lineAt_hit_upTo hc ((m.find_inOrder _).within hit (by simpa using hhit))

theorem findLastIn_from : (f.findLastIn m (f.lineStart c) f.length).map (fun span => f.lineAt span.1) =
    Matcher.firstSeen (m.linesFrom f.text c).reverse := by
  have hin : ¬ f.length < f.lineStart c := Nat.not_lt.mpr (f.text.lineStart_le c)
  rw [findLastIn, if_neg hin, slice_lineStart_length, Option.map_map, Matcher.linesFrom_eq hc, ← List.map_reverse,
    Matcher.firstSeen_shift, Matcher.linesOf, ← List.map_reverse, Matcher.firstSeen_map,
    ← Matcher.findAll_line hlines hlocal, Option.map_map]
  refine Option.map_congr fun hit hhit => ?_
  exact lineAt_hit_from hc ((m.findAll_inOrder _).within hit (List.mem_of_getLast? hhit))

theorem findLastIn_upTo : (f.findLastIn m 0 (f.lineStart c)).map (fun span => f.lineAt span.1) =
    Matcher.firstSeen (m.linesUpTo f.text c).reverse := by
  rw [findLastIn, if_neg (Nat.not_lt_zero _), slice_zero_lineStart, Option.map_map, Matcher.linesUpTo_eq,
    Matcher.linesOf, ← List.map_reverse, Matcher.firstSeen_map, ← Matcher.findAll_line hlines hlocal]
  refine Option.map_congr fun hit hhit => ?_
  exact lineAt_hit_upTo hc ((m.findAll_inOrder _).within hit (List.mem_of_getLast? hhit))

end find
end Frame

namespace Matcher
variable {m : Matcher} {t : Text} {c : Nat}

theorem firstSeen_eq (lines : List (Nat × Bool)) : firstSeen lines = (lines.filter (·.2)).head?.map (·.1) := by
  rw [firstSeen, List.head?_filter]

/-- A pattern that does not match the empty text has its matches in lines. -/
theorem sees_eq (hlines : m.MatchesInLines) (hlocal : m.staysInLine) (hnil : m.isMatch [] = false) (n : Nat) :
    m.sees t n = m.isMatch (t.line n) := by
  have hsplits : m.splitsPair = false := by
    rw [Bool.eq_false_iff]
    intro hsplits
    have hempty := Pattern.accepts_nil_of_inside hlocal ((splitsPair_iff hlines).mp hsplits)
    have hmatch : m.isMatch [] := isMatch_iff.mpr ⟨0, 0, Nat.le_refl _, hempty⟩
    rw [hnil] at hmatch
    cases hmatch
  rw [sees, hsplits, Bool.and_false, Bool.or_false]

section nonempty
variable (hlines : m.MatchesInLines) (hlocal : m.staysInLine) (hnil : m.isMatch [] = false) (hc : c ≤ t.lineCount)
include hlines hlocal hnil hc

theorem filter_linesFrom : (m.linesFrom t c).filter (·.2) =
    ((List.range' c (t.lineCount - c)).map fun n => (n, m.isMatch (t.line n))).filter (·.2) := by
  have hcount : t.lineCount = t.breakCount + if t.endsInBreak then 0 else 1 := rfl
  simp only [linesFrom, sees_eq hlines hlocal hnil, hnil]
  split
  · next hle =>
    by_cases hends : t.endsInBreak
    · have hlast : t.line t.breakCount = [] := by
        have h := Text.fromLine_append (.inr hends : t.IsWhole) []
        rw [List.append_nil] at h
        rw [Text.line, h]
        split <;> rfl
      rw [if_pos hends] at hcount
      rw [hcount, Nat.add_zero, show t.breakCount + 1 - c = t.breakCount - c + 1 by omega, List.range'_concat,
        List.map_append, List.filter_append, Nat.one_mul, Nat.add_sub_cancel' hle, List.map_singleton, hlast, hnil]
      exact List.append_nil _
    · rw [hcount, if_neg hends]
  · next hgt =>
    have hend : t.lineCount - c = 0 := by split at hcount <;> omega
    rw [hend]
    rfl

theorem filter_linesUpTo : (m.linesUpTo t c).filter (·.2) =
    ((List.range c).map fun n => (n, m.isMatch (t.line n))).filter (·.2) := by
  have hcount : t.lineCount = t.breakCount + if t.endsInBreak then 0 else 1 := rfl
  simp only [linesUpTo, linesOf, sees_eq hlines hlocal hnil, hnil]
  split
  · rw [List.filter_append]
    exact List.append_nil _
  · have hend : t.breakCount + 1 = c := by split at hcount <;> omega
    rw [hend]

end nonempty
end Matcher

namespace Address

/-- The lines that a search is to try, in their order. -/
def searchOrder (delimiter : Char) (wrap : Bool) (count line : Nat) : List Nat :=
  if delimiter = '?' then
    (List.range line).reverse ++ if wrap then (List.range' line (count - line)).reverse else []
  else List.range' (line + 1) (count - (line + 1)) ++ if wrap then List.range (line + 1) else []

/-- The lines that a search tries, among them the empty ones at the ends of the parts that it searches. -/
def triedOrder (m : Matcher) (t : Text) (delimiter : Char) (wrap : Bool) (line : Nat) : List (Nat × Bool) :=
  if delimiter = '?' then (m.linesUpTo t line).reverse ++ if wrap then (m.linesFrom t line).reverse else []
  else m.linesFrom t (line + 1) ++ if wrap then m.linesUpTo t (line + 1) else []

/-- The line that a search comes to, backward from a question mark. -/
def searched (f : Frame) (wrap : Bool) (m : Matcher) (delimiter : Char) (line : Nat) : Option Nat :=
  if delimiter = '?' then searchBackward f wrap m line else searchForward f wrap m line

/-- What is answered when a search has come to a line, or to none. -/
def answer (f : Frame) (rule : SearchRule) (allowZero : Bool) (lastSearch : Option Text) (pattern : Text)
    (offset : Int) : Option Nat → Resolved Nat
  | none => (.error (.unresolved (.patternNotFound pattern)), lastSearch)
  | some line =>
    ((Calculator.fitting (line + 1 + offset)).map (clampLine f allowZero),
      if rule.remember then some pattern else lastSearch)

/-- An address that is read as a search from a line, counted from 0, with an offset behind it. -/
structure IsSearch (f : Frame) (rule : SearchRule) (lastSearch : Option Text) (expression : Text)
    (delimiter : Char) (line : Nat) (pattern : Text) (m : Matcher) (after : Text) (offset : Int) : Prop where
  reads : ∃ start rest written, splitAtSearch true expression.trim = some (start, delimiter :: rest) ∧
    (splitAtDelimiter delimiter rest).getD (rest, []) = (written, after) ∧
    searchOrigin f start = .ok line ∧
    searchPattern lastSearch (unescapeDelimiter delimiter written) = .ok pattern
  readOffset_eq : readOffset after = .ok offset
  searchMatcher_eq : searchMatcher rule.ignoreCase pattern = .ok m

section search
variable {f : Frame} {rule : SearchRule} {lastSearch : Option Text} {expression pattern after : Text}
  {delimiter : Char} {line : Nat} {m : Matcher} {offset : Int}

theorem searched_eq (hlines : m.MatchesInLines) (hlocal : m.staysInLine) (hline : line ≤ f.text.breakCount)
    (delimiter : Char) (wrap : Bool) :
    searched f wrap m delimiter line = Matcher.firstSeen (triedOrder m f.text delimiter wrap line) := by
  unfold searched triedOrder
  split
  · rw [searchBackward, Option.orElse_eq_or, Option.map_or, Matcher.firstSeen_append,
      Frame.findLastIn_upTo hlines hlocal (by omega)]
    cases wrap with
    | true => rw [if_pos rfl, if_pos rfl, Frame.findLastIn_from hlines hlocal (by omega)]
    | false => rfl
  · rw [searchForward, Option.orElse_eq_or, Option.map_or, Matcher.firstSeen_append,
      Frame.findIn_from hlines hlocal (by omega)]
    cases wrap with
    | true => rw [if_pos rfl, if_pos rfl, Frame.findIn_upTo hlines hlocal (by omega)]
    | false => rfl

/-- Without matches of the empty text these are the lines that have a match. -/
theorem firstSeen_triedOrder (hlines : m.MatchesInLines) (hlocal : m.staysInLine) (hnil : m.isMatch [] = false)
    (hline : line < f.text.lineCount) (delimiter : Char) (wrap : Bool) :
    Matcher.firstSeen (triedOrder m f.text delimiter wrap line) =
      (searchOrder delimiter wrap f.text.lineCount line).find? fun n => m.isMatch (f.line n) := by
  have hfrom {c : Nat} (hc : c ≤ f.text.lineCount) := Matcher.filter_linesFrom hlines hlocal hnil hc
  have hupTo {c : Nat} (hc : c ≤ f.text.lineCount) := Matcher.filter_linesUpTo hlines hlocal hnil hc
  rw [← Matcher.firstSeen_map, Matcher.firstSeen_eq, Matcher.firstSeen_eq]
  unfold triedOrder searchOrder
  split
  · cases wrap with
    | true =>
      simp only [if_true, List.map_append, List.filter_append, List.map_reverse, List.filter_reverse]
      rw [hupTo (Nat.le_of_lt hline), hfrom (Nat.le_of_lt hline)]
      rfl
    | false =>
      simp only [Bool.false_eq_true, if_false, List.append_nil, List.map_reverse, List.filter_reverse]
      rw [hupTo (Nat.le_of_lt hline)]
      rfl
  · cases wrap with
    | true =>
      simp only [if_true, List.map_append, List.filter_append]
      rw [hupTo hline, hfrom hline]
      rfl
    | false =>
      simp only [Bool.false_eq_true, if_false, List.append_nil]
      rw [hfrom hline]
      rfl

theorem IsSearch.resolve_eq (h : IsSearch f rule lastSearch expression delimiter line pattern m after offset)
    (allowZero : Bool) :
    resolve f rule allowZero lastSearch expression =
      answer f rule allowZero lastSearch pattern offset (searched f rule.wrapScan m delimiter line) := by
  obtain ⟨start, rest, written, hsplit, hfields, hstart, hpattern⟩ := h.reads
  have hne : expression.trim ≠ [] := by
    intro hnil
    rw [hnil] at hsplit
    cases hsplit
  have hsearch : search f rule lastSearch start delimiter rest =
      match searched f rule.wrapScan m delimiter line with
      | none => (.error (.unresolved (.patternNotFound pattern)), lastSearch)
      | some found =>
        (Calculator.fitting (found + 1 + offset), if rule.remember then some pattern else lastSearch) := by
    cases hfound : searched f rule.wrapScan m delimiter line <;>
      rw [searched] at hfound <;>
      simp only [search, hfields, hstart, h.readOffset_eq, hpattern, h.searchMatcher_eq, bind, Except.bind, pure,
        Except.pure, hfound]
  rw [resolve, if_neg hne, resolveExact, hsplit]
  dsimp only
  rw [hsearch]
  cases searched f rule.wrapScan m delimiter line <;> rfl

theorem fitting_eq_ok {n m : Int} (h : Calculator.fitting n = .ok m) : m = n := by
  unfold Calculator.fitting at h
  split at h
  · next k hk =>
    cases h
    exact (word?_eq_some_iff.mp hk).1.symm
  · cases h

theorem filter_not_blank {t : Text} (h : ∀ c ∈ t, isPlain c) : t.filter (! Unicode.isBlank ·) = t := by
  refine List.filter_eq_self.mpr fun c hc => ?_
  have hblank := (isPlain_keeps (h c hc)).2.2.2.1
  simpa using hblank

theorem sumOffset_digits (total sign : Int) {digits : Text} (hdigits : ∀ c ∈ digits, c.isDigit) (read : Text) :
    sumOffset total (some (sign, read)) digits = offsetTerm total (some (sign, read ++ digits)) := by
  induction digits generalizing read with
  | nil => rw [List.append_nil, sumOffset]
  | cons c digits ih =>
    rw [List.forall_mem_cons] at hdigits
    rw [sumOffset, if_pos hdigits.1, ih hdigits.2, List.append_assoc, List.singleton_append]

/-- A sign and digits are read as the number that they write. -/
theorem readOffset_signed {c : Char} {sign : Int} (hsign : c = '+' ∧ sign = 1 ∨ c = '-' ∧ sign = -1)
    {digits : Text} (hne : digits ≠ []) (hdigits : ∀ c ∈ digits, c.isDigit)
    (h : readOffset (c :: digits) = .ok offset) :
    offset = sign * Text.numeralValue digits := by
  have hplain : ∀ d ∈ c :: digits, isPlain d := by
    refine List.forall_mem_cons.mpr ⟨?_, fun d hd => by simp [isPlain, hdigits d hd]⟩
    rcases hsign with ⟨rfl, -⟩ | ⟨rfl, -⟩ <;> decide
  have hsum : sumOffset 0 none (c :: digits) = sumOffset 0 (some (sign, [])) digits := by
    rcases hsign with ⟨rfl, rfl⟩ | ⟨rfl, rfl⟩ <;> rfl
  rw [readOffset, filter_not_blank hplain, hsum, sumOffset_digits 0 sign hdigits, List.nil_append, offsetTerm,
    if_neg hne] at h
  split at h
  · next n hn =>
    rw [fitting_eq_ok h, ← (word?_eq_some_iff.mp hn).1, Int.zero_add]
  · cases h

theorem fitting_eq_unresolved {n : Int} {u : Unresolved} : Calculator.fitting n ≠ .error (.unresolved u) := by
  unfold Calculator.fitting
  split <;> simp

/-- Only where no line is found the answer is that there is none. -/
theorem answer_eq_unresolved_iff {allowZero : Bool} {found : Option Nat} {u : Unresolved} :
    (answer f rule allowZero lastSearch pattern offset found).1 = .error (.unresolved u) ↔
      found = none ∧ u = .patternNotFound pattern := by
  cases found with
  | none => simp [answer, eq_comm]
  | some line =>
    have hfits := fitting_eq_unresolved (n := line + 1 + offset) (u := u)
    rw [answer]
    cases hf : Calculator.fitting (line + 1 + offset) with
    | error failure =>
      rw [hf] at hfits
      simpa [Except.map] using hfits
    | ok n => simp [Except.map]

/-- A search that wraps tries each line. -/
theorem mem_searchOrder {count n : Nat} (hline : line < count) (delimiter : Char) :
    n ∈ searchOrder delimiter true count line ↔ n < count := by
  unfold searchOrder
  split <;> simp [List.mem_range'_1] <;> omega

/-- A search for a pattern that matches no break and looks no further than the line, from a line of the text. If the
pattern does not match the empty text, it comes to the first line in its order that has a match, and if searches wrap
it fails exactly if no line has one. In general the empty lines at the ends of the parts that are searched are tried
too. A search that fails leaves the last search alone, and the number that is written behind a search is added before
the line is brought into the frame. -/
theorem search_finds_first_line
    (h : IsSearch f rule lastSearch expression delimiter line pattern m after offset)
    (hlines : m.MatchesInLines) (hlocal : m.staysInLine) (hline : line < f.text.lineCount) (allowZero : Bool) :
    (m.isMatch [] = false → resolve f rule allowZero lastSearch expression =
        answer f rule allowZero lastSearch pattern offset
          ((searchOrder delimiter rule.wrapScan f.text.lineCount line).find? fun n => m.isMatch (f.line n))) ∧
    (m.isMatch [] = false → rule.wrapScan →
      ∀ u, (resolve f rule allowZero lastSearch expression).1 = .error (.unresolved u) ↔
        u = .patternNotFound pattern ∧ ∀ n < f.text.lineCount, m.isMatch (f.line n) = false) ∧
    resolve f rule allowZero lastSearch expression =
      answer f rule allowZero lastSearch pattern offset
        (Matcher.firstSeen (triedOrder m f.text delimiter rule.wrapScan line)) ∧
    (∀ u, (resolve f rule allowZero lastSearch expression).1 = .error (.unresolved u) →
      (resolve f rule allowZero lastSearch expression).2 = lastSearch) ∧
    (after = [] → offset = 0) ∧
    ∀ digits, digits ≠ [] → (∀ c ∈ digits, c.isDigit) →
      (after = '+' :: digits → offset = Text.numeralValue digits) ∧
      (after = '-' :: digits → offset = -Text.numeralValue digits) := by
  have hbreaks : line ≤ f.text.breakCount := by
    have hcount : f.text.lineCount = f.text.breakCount + if f.text.endsInBreak then 0 else 1 := rfl
    split at hcount <;> omega
  have hexact : resolve f rule allowZero lastSearch expression =
      answer f rule allowZero lastSearch pattern offset
        (Matcher.firstSeen (triedOrder m f.text delimiter rule.wrapScan line)) := by
    rw [h.resolve_eq, searched_eq hlines hlocal hbreaks]
  have hnonempty (hnil : m.isMatch [] = false) : resolve f rule allowZero lastSearch expression =
      answer f rule allowZero lastSearch pattern offset
        ((searchOrder delimiter rule.wrapScan f.text.lineCount line).find? fun n => m.isMatch (f.line n)) := by
    rw [hexact, firstSeen_triedOrder hlines hlocal hnil hline]
  refine ⟨hnonempty, fun hnil hwrap u => ?_, hexact, fun u hu => ?_, ?_, fun digits hne hdigits => ⟨?_, ?_⟩⟩
  · rw [hnonempty hnil, hwrap, answer_eq_unresolved_iff, List.find?_eq_none, and_comm]
    simp only [mem_searchOrder hline, Bool.not_eq_true]
  · rw [hexact] at hu ⊢
    rw [(answer_eq_unresolved_iff.mp hu).1, answer]
  · rintro rfl
    have hread : readOffset [] = .ok offset := h.readOffset_eq
    cases hread
    rfl
  · rintro rfl
    rw [readOffset_signed (.inl ⟨rfl, rfl⟩) hne hdigits h.readOffset_eq, Int.one_mul]
  · rintro rfl
    rw [readOffset_signed (.inr ⟨rfl, rfl⟩) hne hdigits h.readOffset_eq, Int.neg_one_mul]

/-- A search for a letter from the first of two lines, and the line behind the one that it finds. -/
theorem search_finds_first_line_letter :
    let f := Frame.ofText ['a', '\n', 'b']
    let m : Matcher := ⟨#[.take [(97, 97)]]⟩
    IsSearch f {} none ['/', 'a', '/', '+', '1'] '/' 0 ['a'] m ['+', '1'] 1 ∧ m.MatchesInLines ∧ m.staysInLine ∧
      0 < f.text.lineCount ∧ m.isMatch [] = false ∧
      resolve f {} false none ['/', 'a', '/', '+', '1'] = (.ok 2, some ['a']) := by
  have hsearch : IsSearch (Frame.ofText ['a', '\n', 'b']) {} none ['/', 'a', '/', '+', '1'] '/' 0 ['a']
      ⟨#[.take [(97, 97)]]⟩ ['+', '1'] 1 :=
    ⟨⟨[], _, ['a'], rfl, rfl, rfl, rfl⟩, rfl, rfl⟩
  have hlines : Matcher.MatchesInLines ⟨#[.take [(97, 97)]]⟩ := by
    refine Matcher.matchesInLines_of_take fun i hi set heq c hc => ?_
    rw [Array.mem_singleton.mp hi] at heq
    cases heq
    simp only [Text.isBreak, Bool.or_eq_true, decide_eq_true_eq] at hc
    rcases hc with rfl | rfl <;> rfl
  have hlocal : Matcher.staysInLine ⟨#[.take [(97, 97)]]⟩ := by
    simp [Matcher.staysInLine, Pattern.Instruction.staysInLine]
  have hfound := (search_finds_first_line hsearch hlines hlocal (by decide) false).1 (by decide)
  exact ⟨hsearch, hlines, hlocal, by decide, by decide, hfound.trans rfl⟩

/-- At the end of a part that is searched an empty line is found that the text does not have: none of its two lines is
empty. -/
theorem search_finds_empty_end :
    let f := Frame.ofText ['a', '\n', 'b']
    ∃ m, searchMatcher false ['^', '$'] = .ok m ∧ m.MatchesInLines ∧
      (∀ n < f.text.lineCount, m.isMatch (f.line n) = false) ∧
      resolve f {} false none ['/', '^', '$', '/'] = (.ok 2, some ['^', '$']) := by
  refine ⟨⟨#[.check .rowStart false, .check .rowEnd false]⟩, rfl, ?_, by decide, by decide⟩
  refine Matcher.matchesInLines_of_take fun i hi set heq => ?_
  subst heq
  simp at hi

end search
end Address
end ExEditor
