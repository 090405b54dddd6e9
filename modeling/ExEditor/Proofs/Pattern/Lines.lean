import ExEditor.Proofs.Pattern.Local

/-! The lines that have a match. For a pattern that matches no break and looks no further than the line the
first match of a text lies on the first line with a match of its own, and the last one on the last. Only an
empty match inside a pair of breaks belongs to none. -/
namespace ExEditor

namespace Matcher

/-- No match holds a break. -/
def MatchesInLines (m : Matcher) : Prop :=
  ∀ (t : Text), ∀ hit ∈ m.findAll t, Text.IsPlain (t.slice hit.start hit.stop)

/-- Whether the pattern asks for no more than the line. -/
def staysInLine (m : Matcher) : Bool := m.program.all Pattern.Instruction.staysInLine

/-- Whether there is a match between a return and its feed. -/
def splitsPair (m : Matcher) : Bool := (m.findAll ['\r', '\n']).any (·.start == 1)

/-- Whether a search of a text has a match on a line: the line has one, or the pair of breaks behind it. -/
def sees (m : Matcher) (t : Text) (n : Nat) : Bool := m.isMatch (t.line n) || t.endsInPair n && m.splitsPair

end Matcher

namespace Pattern
variable {program : Array Instruction} {t : Text} {n : Nat}

theorem lookHolds_toArray (t : Text) (offset : Nat) (l : Look) (asciiWords : Bool) :
    lookHolds t.toArray offset l asciiWords =
      l.holds (if asciiWords then fun c => c.isAlphanum || c = '_' else Unicode.isWord) (t.charBefore offset)
        t[offset]? := by
  have hbefore : (if offset = 0 then none else t.toArray[offset - 1]?) = t.charBefore offset := by
    rw [List.getElem?_toArray, Text.charBefore]
  have hafter : t.toArray[offset]? = t[offset]? := List.getElem?_toArray
  rw [← hbefore, ← hafter]
  rfl

/-- Breaks are no word characters, whichever of them are asked for. -/
theorem break_not_word (asciiWords : Bool) (c : Char) (h : Text.isBreak c) :
    (if asciiWords then fun c => c.isAlphanum || c = '_' else Unicode.isWord) c = false := by
  cases asciiWords with
  | false =>
    rw [if_neg Bool.false_ne_true]
    exact Unicode.isWord_of_isBreak h
  | true =>
    rw [if_pos rfl]
    simp only [Text.isBreak, Bool.or_eq_true, decide_eq_true_eq] at h
    rcases h with rfl | rfl <;> decide

/-- An assertion that stays in the line holds in a line of a text if and only if it holds in the line alone. -/
theorem lookHolds_line_iff (hn : n ≤ t.breakCount) {k : Nat} (hk : k ≤ (t.line n).length) {l : Look}
    (hl : l.staysInLine) (asciiWords : Bool) :
    lookHolds t.toArray (t.lineStart n + k) l asciiWords ↔ lookHolds (t.line n).toArray k l asciiWords := by
  rw [lookHolds_toArray, lookHolds_toArray, ← Text.inLine_charBefore hn hk, ← Text.inLine_getElem? hk]
  exact ⟨Look.holds_inLine (break_not_word asciiWords) hl,
    Look.holds_of_inLine (break_not_word asciiWords) hl (Text.not_inside_pair hn hk)⟩

/-- A part of a line is matched in the text if and only if it is matched in the line alone. -/
theorem accepts_line_iff (hlocal : program.all Instruction.staysInLine) (hn : n ≤ t.breakCount)
    {first last : Nat} (hlast : last ≤ (t.line n).length) :
    Accepts program t.toArray (t.lineStart n + first) (t.lineStart n + last) ↔
      Accepts program (t.line n).toArray first last := by
  have hchars : ∀ k < last, t.toArray[t.lineStart n + k]? = (t.line n).toArray[0 + k]? := by
    intro k hk
    rw [List.getElem?_toArray, List.getElem?_toArray, Nat.zero_add]
    exact Text.getElem?_line (Nat.lt_of_lt_of_le hk hlast)
  have hlooks : ∀ i ∈ program, ∀ l asciiWords, i = .check l asciiWords → ∀ k ≤ last,
      (lookHolds t.toArray (t.lineStart n + k) l asciiWords ↔ lookHolds (t.line n).toArray (0 + k) l asciiWords) := by
    rintro i hi l asciiWords rfl k hk
    have hl : l.staysInLine := by
      have h := Array.all_eq_true_iff_forall_mem.mp hlocal _ hi
      exact h
    rw [Nat.zero_add]
    exact lookHolds_line_iff hn (Nat.le_trans hk hlast) hl asciiWords
  constructor
  · intro h
    have h' : Path program (t.line n).toArray (0, 0 + first) (program.size, 0 + last) :=
      Path.shift h (fun k _ hk => hchars k hk) fun i hi l a heq k _ hk => (hlooks i hi l a heq k hk).mp
    rwa [Nat.zero_add, Nat.zero_add] at h'
  · intro h
    rw [← Nat.zero_add first, ← Nat.zero_add last] at h
    exact Path.shift h (fun k _ hk => (hchars k hk).symm) fun i hi l a heq k _ hk => (hlooks i hi l a heq k hk).mpr

/-- Between the two breaks of a pair a text is matched like the pair alone. -/
theorem accepts_inside_iff (hpair : t.endsInPair n) :
    Accepts program t.toArray (t.lineEnd n + 1) (t.lineEnd n + 1) ↔ Accepts program ['\r', '\n'].toArray 1 1 := by
  simp only [Text.endsInPair, Bool.and_eq_true, beq_iff_eq] at hpair
  have hlooks (l : Look) (asciiWords : Bool) (k : Nat) (hk : k = 1) :
      lookHolds t.toArray (t.lineEnd n + k) l asciiWords = lookHolds ['\r', '\n'].toArray (0 + k) l asciiWords := by
    subst hk
    rw [lookHolds_toArray, lookHolds_toArray, hpair.2, Text.charBefore, if_neg (Nat.succ_ne_zero _),
      Nat.add_sub_cancel, hpair.1]
    rfl
  constructor
  · intro h
    have h' : Path program ['\r', '\n'].toArray (0, 0 + 1) (program.size, 0 + 1) :=
      Path.shift h (fun k hfirst hlast => by omega)
        fun i _ l a _ k hfirst hlast hholds => hlooks l a k (by omega) ▸ hholds
    exact h'
  · intro h
    have h' : Path program ['\r', '\n'].toArray (0, 0 + 1) (program.size, 0 + 1) := h
    exact Path.shift h' (fun k hfirst hlast => by omega)
      fun i _ l a _ k hfirst hlast hholds => hlooks l a k (by omega) ▸ hholds

/-- What is matched between the two breaks of a pair is matched in the empty text. -/
theorem accepts_nil_of_inside (hlocal : program.all Instruction.staysInLine)
    (h : Accepts program ['\r', '\n'].toArray 1 1) : Accepts program [].toArray 0 0 := by
  refine @Path.shift _ _ _ 1 0 0 0 _ _ h (fun k hfirst hlast => by omega) ?_
  rintro i hi l asciiWords rfl k hfirst hlast hholds
  obtain rfl : k = 0 := by omega
  have hl : l.staysInLine := Array.all_eq_true_iff_forall_mem.mp hlocal _ hi
  rw [lookHolds_toArray] at hholds ⊢
  exact Look.holds_inLine (break_not_word asciiWords) hl hholds

end Pattern

namespace Matcher
variable {m : Matcher} {t : Text} {n : Nat}

/-- A pattern whose sets hold no break matches none. -/
theorem matchesInLines_of_take
    (h : ∀ i ∈ m.program, ∀ set, i = .take set → ∀ c, Text.isBreak c → set.has c.toNat = false) :
    m.MatchesInLines := by
  intro t hit hmem c hc
  obtain ⟨k, hk⟩ := List.mem_iff_getElem?.mp hc
  rw [Text.slice, List.getElem?_drop, List.getElem?_take] at hk
  split at hk
  · next hlt =>
    obtain ⟨i, hi, set, rfl, hset⟩ := (Pattern.searchAll_accepts hit hmem).take_of_lt
      (Nat.le_add_right hit.start k) hlt (by rwa [List.getElem?_toArray])
    by_contra hbreak
    rw [h _ hi set rfl c (by simpa using hbreak)] at hset
    cases hset
  · cases hk

/-- Where a match of a text has its line. -/
theorem hit_on_line (hlines : m.MatchesInLines) {hit : Match} (h : hit ∈ m.findAll t) :
    hit.start ≤ hit.stop ∧ hit.stop ≤ t.length ∧
      (hit.start ≤ t.lineEnd (t.lineAt hit.start) ∧ hit.stop ≤ t.lineEnd (t.lineAt hit.start) ∨
        t.endsInPair (t.lineAt hit.start) ∧ hit.start = t.lineEnd (t.lineAt hit.start) + 1 ∧
          hit.stop = hit.start) := by
  have hwithin := (findAll_inOrder m t).within hit h
  have hplain := hlines t hit h
  refine ⟨hwithin.start_le, hwithin.stop_le, ?_⟩
  rcases Text.le_lineEnd_or_inside (Nat.le_trans hwithin.start_le hwithin.stop_le) with hle | ⟨hpair, heq⟩
  · exact .inl ⟨hle, Text.le_lineEnd_of_isPlain hplain hwithin.stop_le hle⟩
  · refine .inr ⟨hpair, heq, Nat.le_antisymm ?_ hwithin.start_le⟩
    -- A match that went on would take the feed.
    by_contra hlt
    simp only [Text.endsInPair, Bool.and_eq_true, beq_iff_eq] at hpair
    have hfeed : t[hit.start]? = some '\n' := by rw [heq]; exact hpair.2
    have hbreak := Text.isBreak_of_isPlain_slice hplain (Nat.le_refl _) (Nat.lt_of_not_le hlt) hfeed
    cases hbreak

/-- A match inside a pair of breaks is one of those of the pair alone. -/
theorem splitsPair_iff (hlines : m.MatchesInLines) :
    m.splitsPair ↔ Pattern.Accepts m.program ['\r', '\n'].toArray 1 1 := by
  rw [splitsPair, List.any_eq_true]
  constructor
  · rintro ⟨hit, hmem, hstart⟩
    rw [beq_iff_eq] at hstart
    have haccepts : Pattern.Accepts m.program ['\r', '\n'].toArray hit.start hit.stop :=
      Pattern.searchAll_accepts hit hmem
    obtain ⟨-, -, ⟨hle, -⟩ | ⟨-, -, hstop⟩⟩ := hit_on_line hlines hmem
    · rw [hstart] at hle
      exact absurd hle (by decide)
    · rwa [hstop, hstart] at haccepts
  · intro h
    have hsearch (first : Nat) (hfirst : first ≤ 1) :=
      Pattern.search_leftmost h hfirst (by decide : 1 ≤ ['\r', '\n'].toArray.size)
    obtain ⟨hit, hhit, hle⟩ := hsearch 0 (Nat.zero_le 1)
    have hall : m.findAll ['\r', '\n'] =
        hit :: Pattern.searchAll m.program ['\r', '\n'].toArray 3 hit.stop (some hit.stop) := by
      rw [findAll, Pattern.searchAll_succ, hhit]
      simp
    have honline := hit_on_line hlines (hall ▸ List.mem_cons_self : hit ∈ m.findAll ['\r', '\n'])
    rcases Nat.le_one_iff_eq_zero_or_eq_one.mp hle with hzero | hone
    · -- The first match is empty and in front of the pair, so the next one is searched for behind the return.
      obtain ⟨next, hnext, hle'⟩ := hsearch 1 (Nat.le_refl 1)
      have hge := (Pattern.search_within hnext).first_le
      have hstop : hit.stop = 0 := by
        rw [hzero] at honline
        obtain ⟨-, -, ⟨-, hstop⟩ | ⟨-, heq, -⟩⟩ := honline
        · exact Nat.le_zero.mp hstop
        · cases heq
      refine ⟨next, ?_, beq_iff_eq.mpr (Nat.le_antisymm hle' hge)⟩
      rw [hall, hstop, Pattern.searchAll_succ, hhit, Option.bind_some, hstop, hzero]
      simp [hnext]
    · exact ⟨hit, hall ▸ List.mem_cons_self, beq_iff_eq.mpr hone⟩

/-- A match lies on a line that is seen. -/
theorem sees_of_hit (hlines : m.MatchesInLines) (hlocal : m.staysInLine) {hit : Match} (h : hit ∈ m.findAll t) :
    m.sees t (t.lineAt hit.start) := by
  have haccepts : Pattern.Accepts m.program t.toArray hit.start hit.stop := Pattern.searchAll_accepts hit h
  have hstart := t.lineStart_lineAt_le hit.start
  rw [sees, Bool.or_eq_true, Bool.and_eq_true]
  obtain ⟨-, -, ⟨hle, hstop⟩ | ⟨hpair, heq, hstop⟩⟩ := hit_on_line hlines h
  · left
    have hline := t.lineAt_le hit.start
    have hse := ((findAll_inOrder m t).within hit h).start_le
    generalize t.lineAt hit.start = n at hstart hle hstop hline
    obtain ⟨first, hfirst⟩ := Nat.exists_eq_add_of_le hstart
    obtain ⟨last, hlast⟩ := Nat.exists_eq_add_of_le (Nat.le_trans hstart hse)
    rw [Text.lineEnd] at hle hstop
    rw [hfirst, hlast, Pattern.accepts_line_iff hlocal hline (by omega)] at haccepts
    exact isMatch_iff.mpr ⟨first, last, by omega, haccepts⟩
  · right
    refine ⟨hpair, (splitsPair_iff hlines).mpr ?_⟩
    rw [hstop, heq] at haccepts
    exact (Pattern.accepts_inside_iff hpair).mp haccepts

/-- On a line that is seen a path begins. -/
theorem accepts_of_sees (hlines : m.MatchesInLines) (hlocal : m.staysInLine) (hn : n ≤ t.breakCount)
    (h : m.sees t n) :
    ∃ start stop, Pattern.Accepts m.program t.toArray start stop ∧ start ≤ t.length ∧ t.lineStart n ≤ start ∧
      (n < t.breakCount → start < t.lineStart (n + 1)) := by
  rw [sees, Bool.or_eq_true, Bool.and_eq_true] at h
  rcases h with h | ⟨hpair, hsplits⟩
  · obtain ⟨start, stop, hle, haccepts⟩ := isMatch_iff.mp h
    have hse := Pattern.Path.offset_le haccepts
    have hend := t.lineEnd_le n
    rw [← Pattern.accepts_line_iff hlocal hn hle] at haccepts
    rw [Text.lineEnd] at hend
    refine ⟨_, _, haccepts, by dsimp only at hse; omega, Nat.le_add_right _ _, fun hlt => ?_⟩
    have hnext := Text.lineEnd_lt_lineStart hlt
    rw [Text.lineEnd] at hnext
    dsimp only at hse
    omega
  · have haccepts := (Pattern.accepts_inside_iff hpair).mpr ((splitsPair_iff hlines).mp hsplits)
    refine ⟨_, _, haccepts, ?_, Nat.le_succ_of_le (Nat.le_add_right _ _), Text.lt_lineStart_of_endsInPair hpair⟩
    simp only [Text.endsInPair, Bool.and_eq_true, beq_iff_eq] at hpair
    exact Nat.le_of_lt (List.getElem?_eq_some_iff.mp hpair.2).1

/-- The first match lies on the first line that is seen. -/
theorem find_line (hlines : m.MatchesInLines) (hlocal : m.staysInLine) (t : Text) :
    (m.find? t).map (fun hit => t.lineAt hit.start) = (List.range (t.breakCount + 1)).find? (m.sees t) := by
  cases h : m.find? t with
  | none =>
    refine (List.find?_eq_none.mpr fun n hn hsees => ?_).symm
    obtain ⟨start, stop, haccepts, hle, -⟩ :=
      accepts_of_sees hlines hlocal (Nat.le_of_lt_succ (List.mem_range.mp hn)) hsees
    obtain ⟨hit, hhit, -⟩ := Pattern.search_leftmost haccepts (Nat.zero_le _) (by rwa [List.size_toArray])
    rw [find?, hhit] at h
    cases h
  | some hit =>
    have hbelow := t.lineAt_le hit.start
    have hsees := sees_of_hit hlines hlocal (find?_mem_findAll h)
    refine (List.find?_range_eq_some.mpr ⟨hsees, ?_, fun n hlt => ?_⟩).symm
    · exact List.mem_range.mpr (Nat.lt_succ_of_le hbelow)
    · rw [Bool.not_eq_true', Bool.eq_false_iff]
      intro hsees
      -- A path on an earlier line would begin in front of the match that is found.
      obtain ⟨start, stop, haccepts, hle, -, hnext⟩ := accepts_of_sees hlines hlocal (by omega) hsees
      obtain ⟨hit', hhit', hle'⟩ := Pattern.search_leftmost haccepts (Nat.zero_le _) (by rwa [List.size_toArray])
      obtain rfl : hit' = hit := Option.some.inj (hhit'.symm.trans h)
      have hbefore := hnext (by omega)
      have hat := t.lineStart_lineAt_le hit'.start
      have hmono : t.lineStart (n + 1) ≤ t.lineStart (t.lineAt hit'.start) := t.lineStart_mono hlt
      omega

theorem find?_reverse_range {n i : Nat} {p : Nat → Bool} (hp : p i) (hi : i < n)
    (hlater : ∀ j, i < j → j < n → ¬ p j) : (List.range n).reverse.find? p = some i := by
  induction n with
  | zero => cases hi
  | succ n ih =>
    rw [List.range_succ, List.reverse_append, List.reverse_singleton, List.singleton_append]
    rcases Nat.lt_or_eq_of_le (Nat.le_of_lt_succ hi) with hlt | rfl
    · rw [List.find?_cons_of_neg (hlater n hlt (Nat.lt_succ_self n))]
      exact ih hlt fun j hj hjn => hlater j hj (Nat.lt_succ_of_lt hjn)
    · exact List.find?_cons_of_pos hp

/-- The last match lies on the last line that is seen. -/
theorem findAll_line (hlines : m.MatchesInLines) (hlocal : m.staysInLine) (t : Text) :
    (m.findAll t).getLast?.map (fun hit => t.lineAt hit.start) =
      (List.range (t.breakCount + 1)).reverse.find? (m.sees t) := by
  cases h : (m.findAll t).getLast? with
  | none =>
    refine (List.find?_eq_none.mpr fun n hn hsees => ?_).symm
    have hle := Nat.le_of_lt_succ (List.mem_range.mp (List.mem_reverse.mp hn))
    obtain ⟨start, stop, haccepts, hle, -⟩ := accepts_of_sees hlines hlocal hle hsees
    obtain ⟨hit, hhit, -⟩ := findAll_reaches haccepts hle
    rw [hhit] at h
    cases h
  | some hit =>
    have hmem := List.mem_of_getLast? h
    have hbelow := t.lineAt_le hit.start
    have hsees := sees_of_hit hlines hlocal hmem
    refine (find?_reverse_range hsees (Nat.lt_succ_of_le hbelow) fun n hlt hn hsees => ?_).symm
    -- A path on a later line would begin behind the last match.
    obtain ⟨start, stop, haccepts, hle, hstart, -⟩ := accepts_of_sees hlines hlocal (Nat.le_of_lt_succ hn) hsees
    obtain ⟨hit', hhit', hreach⟩ := findAll_reaches haccepts hle
    obtain rfl : hit' = hit := Option.some.inj (hhit'.symm.trans h)
    have hinside : hit'.stop < t.lineStart (t.lineAt hit'.start + 1) := by
      have hmore : t.lineAt hit'.start < t.breakCount := by omega
      have hend := Text.lineEnd_lt_lineStart hmore
      obtain ⟨-, -, ⟨-, hstop⟩ | ⟨hpair, heq, hstop⟩⟩ := hit_on_line hlines hmem
      · omega
      · have hnext := Text.lt_lineStart_of_endsInPair hpair hmore
        omega
    have hmono : t.lineStart (t.lineAt hit'.start + 1) ≤ t.lineStart n := t.lineStart_mono hlt
    omega

end Matcher
end ExEditor
