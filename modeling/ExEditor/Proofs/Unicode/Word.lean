import ExEditor.Text.Lines
import ExEditor.Unicode.Word

/-! What no word holds. The tables of word characters begin behind the control characters, so a break never
belongs to a word. -/
namespace ExEditor
namespace Unicode

theorem Ranges.joinFrom_above {n first last : Nat} {set : Ranges} (hf : n < first) (h : ∀ r ∈ set, n < r.1) :
    ∀ r ∈ joinFrom first last set, n < r.1 := by
  induction set generalizing first last with
  | nil => simpa [joinFrom] using hf
  | cons r set ih =>
    rw [List.forall_mem_cons] at h
    rw [joinFrom]
    split
    · exact ih hf h.2
    · exact List.forall_mem_cons.mpr ⟨hf, ih h.1 h.2⟩

theorem Ranges.unions_above {n : Nat} {sets : List Ranges} (h : ∀ set ∈ sets, ∀ r ∈ set, n < r.1) :
    ∀ r ∈ unions sets, n < r.1 := by
  have hall : ∀ r ∈ sets.flatten.mergeSort fun r s => r.1 < s.1 || (r.1 == s.1 && r.2 ≤ s.2), n < r.1 := by
    intro r hr
    obtain ⟨set, hset, hr⟩ := List.mem_flatten.mp (List.mem_mergeSort.mp hr)
    exact h set hset r hr
  rw [unions, ofList]
  split
  · simp
  · next a b rest heq =>
    rw [heq, List.forall_mem_cons] at hall
    exact joinFrom_above hall.1 hall.2

theorem Ranges.has_of_above {n : Nat} {set : Ranges} (h : ∀ r ∈ set, n < r.1) : set.has n = false := by
  cases set with
  | nil => rfl
  | cons r set =>
    rw [has, decide_eq_false (Nat.not_le.mpr (h r List.mem_cons_self)), Bool.false_and]

/-- A set in hexadecimal may be read from the characters of its text. -/
theorem Ranges.ofHex_all {written : List Char} {p : Nat × Nat → Bool}
    (h : ((((written.splitOnP fun c => c = ' ' || c = '\n').filter (· ≠ [])).map fun word =>
      (word.splitOn '-').map hexValue).filterMap ofWord?).all p) : (ofHex (String.ofList written)).all p := by
  rwa [ofHex, hexWords, String.toList_ofList]

set_option maxRecDepth 20000 in
/-- Marks and connectors come behind the control characters. -/
theorem categoryRanges_above : ∀ entry ∈ categoryRanges, entry.1 ∈ ["mn", "mc", "me", "pc"] →
    (Ranges.ofHex entry.2).all (13 < ·.1) := by
  simp only [categoryRanges, List.forall_mem_cons]
  and_intros
  all_goals first
    | exact fun h => absurd h (by decide)
    | exact fun _ => Ranges.ofHex_all (by decide +kernel)
    | simp

theorem assignedWhere_above {p : List Char → Bool}
    (h : ∀ entry ∈ categoryRanges, p entry.1.toList → entry.1 ∈ ["mn", "mc", "me", "pc"]) :
    ∀ r ∈ assignedWhere p, 13 < r.1 := by
  refine Ranges.unions_above fun set hset => ?_
  rcases List.mem_append.mp hset with hset | hset
  · obtain ⟨entry, hentry, rfl⟩ := List.mem_map.mp hset
    have hnumbers : ∀ set ∈ [decimalNumber, letterNumber, otherNumber], ∀ r ∈ set, 13 < r.1 := by decide +kernel
    exact hnumbers _ (List.mem_map_of_mem (List.mem_filter.mp hentry).1)
  · obtain ⟨entry, hentry, rfl⟩ := List.mem_map.mp hset
    obtain ⟨hmem, hp⟩ := List.mem_filter.mp hentry
    simpa only [List.all_eq_true, decide_eq_true_eq] using categoryRanges_above entry hmem (h entry hmem hp)

/-- A category whose letters, or first letter, stand at marks and connectors only begins behind the control
characters. -/
theorem category?_above {name : String} (hname : (categoryNames.lookup name).getD name = name)
    (hspecial : name ∉ ["cn", "c", "lc"])
    (h : ∀ entry ∈ categoryRanges, entry.1.toList.take 1 = name.toList ∨ entry.1.toList = name.toList →
      entry.1 ∈ ["mn", "mc", "me", "pc"]) :
    ∀ r ∈ (category? name).getD [], 13 < r.1 := by
  rw [category?, hname]
  split
  · simp at hspecial
  · simp at hspecial
  · simp at hspecial
  · split
    · rw [Option.getD_some]
      exact assignedWhere_above fun entry hentry hp => h entry hentry (.inl (beq_iff_eq.mp hp))
    · split
      · simp
      · rw [Option.getD_some]
        exact assignedWhere_above fun entry hentry hp => h entry hentry (.inr (beq_iff_eq.mp hp))

/-- Word characters are no control characters. -/
theorem wordCharacters_above : ∀ r ∈ wordCharacters, 13 < r.1 := by
  have halphabetic : ∀ r ∈ alphabetic, 13 < r.1 := by
    have h : (alphabetic.all fun r => 13 < r.1) = true := by decide +kernel
    simpa only [List.all_eq_true, decide_eq_true_eq] using h
  refine Ranges.unions_above ?_
  simp only [List.map_cons, List.map_nil, List.forall_mem_cons]
  have hmarks : ∀ r ∈ (category? "m").getD [], 13 < r.1 := category?_above (by decide) (by decide) (by decide)
  have hdigits : ∀ r ∈ (category? "nd").getD [], 13 < r.1 := category?_above (by decide) (by decide) (by decide)
  have hconnectors : ∀ r ∈ (category? "pc").getD [], 13 < r.1 := category?_above (by decide) (by decide) (by decide)
  exact ⟨by decide, halphabetic, hmarks, hdigits, hconnectors, by simp⟩
/-- Breaks are no word characters. -/
theorem isWord_of_isBreak {c : Char} (h : Text.isBreak c) : isWord c = false := by
  refine Ranges.has_of_above fun r hr => Nat.lt_of_le_of_lt ?_ (wordCharacters_above r hr)
  simp only [Text.isBreak, Bool.or_eq_true, decide_eq_true_eq] at h
  rcases h with rfl | rfl <;> decide

end Unicode
end ExEditor
