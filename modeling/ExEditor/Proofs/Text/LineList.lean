import ExEditor.Text.Basic
import Mathlib.Data.List.Basic

/-! Operations on a list of lines, counted from 0. -/
namespace ExEditor
namespace LineList

/-- Lines from `first` up to `last`. -/
def range {α : Type} (lines : List α) (first last : Nat) : List α := (lines.take (last + 1)).drop first

/-- Lines without those from `first` up to `last`. -/
def without {α : Type} (lines : List α) (first last : Nat) : List α :=
  lines.take first ++ lines.drop (last + 1)

/-- Lines with others put in front of the line `n`. -/
def putAt {α : Type} (lines : List α) (n : Nat) (others : List α) : List α :=
  lines.take n ++ others ++ lines.drop n

/-- Lines with a range of them taken out and put back behind the first `destination` lines. -/
def moved {α : Type} (lines : List α) (first last destination : Nat) : List α :=
  if destination ≤ first then
    lines.take destination ++ range lines first last ++ (lines.take first).drop destination ++
      lines.drop (last + 1)
  else
    lines.take first ++ (lines.take destination).drop (last + 1) ++ range lines first last ++
      lines.drop destination

/-- Lines of which those in a range are kept only if they pass a test. -/
def filterRange {α : Type} (keep : α → Bool) (lines : List α) (first last : Nat) : List α :=
  lines.take first ++ (range lines first last).filter keep ++ lines.drop (last + 1)

/-- Lines, counted from `n`, without those of some numbers. -/
def omitting {α : Type} (lines : List α) (n : Nat) (numbers : List Nat) : List α :=
  ((lines.zipIdx n).filter fun line => line.2 ∉ numbers).map (·.1)

/-- Lines as a text shows them: where there are none it has an empty one. -/
def shown (lines : List Text) : List Text := if lines = [] then [[]] else lines

theorem range_length {α : Type} {lines : List α} {first last : Nat} (hf : first ≤ last)
    (hl : last < lines.length) : (range lines first last).length = last - first + 1 := by
  simp only [range, List.length_drop, List.length_take]
  omega

theorem take_append_drop_take {α : Type} (lines : List α) {front back : Nat} (h : front ≤ back) :
    lines.take front ++ (lines.take back).drop front = lines.take back := by
  have hfront := List.take_append_drop front (lines.take back)
  rwa [List.take_take, Nat.min_eq_left h] at hfront

theorem without_length {α : Type} {lines : List α} {first last : Nat} (hf : first ≤ last)
    (hl : last < lines.length) :
    (without lines first last).length = lines.length - (last - first + 1) := by
  simp only [without, List.length_append, List.length_take, List.length_drop]
  omega

theorem without_between {α : Type} (front : List α) (line : α) (back : List α) :
    without (front ++ line :: back) front.length front.length = front ++ back := by
  rw [without, List.take_left, ← List.drop_drop, List.drop_left, List.drop_one, List.tail_cons]

theorem exists_between {α : Type} {lines : List α} {n : Nat} (h : n < lines.length) :
    ∃ front line back, lines = front ++ line :: back ∧ front.length = n := by
  refine ⟨lines.take n, lines[n], lines.drop (n + 1), ?_, List.length_take_of_le (by omega)⟩
  rw [List.getElem_cons_drop, List.take_append_drop]

theorem map_range {α β : Type} (g : α → β) (lines : List α) (first last : Nat) :
    (range lines first last).map g = range (lines.map g) first last := by
  simp [range]

theorem map_without {α β : Type} (g : α → β) (lines : List α) (first last : Nat) :
    (without lines first last).map g = without (lines.map g) first last := by
  simp [without]

/-- Putting a range back into what is left of the lines moves it. -/
theorem putAt_without {α : Type} {lines : List α} {first last destination : Nat} (hf : first ≤ last)
    (hl : last < lines.length) (hd : destination ≤ first ∨ last + 1 < destination) :
    putAt (without lines first last)
        (if last + 1 < destination then destination - (last - first + 1) else destination)
        (range lines first last) = moved lines first last destination := by
  have hlen : (lines.take first).length = first := by simp; omega
  rcases hd with hd | hd
  · rw [if_neg (by omega), moved, if_pos hd, putAt, without]
    rw [List.take_append_of_le_length (by omega), List.drop_append_of_le_length (by omega),
      List.take_take, Nat.min_eq_left hd]
    simp only [List.append_assoc]
  · rw [if_pos hd, moved, if_neg (by omega), putAt, without]
    have hk : destination - (last - first + 1) = first + (destination - (last + 1)) := by omega
    rw [hk]
    have hdrop : (lines.take first).drop (first + (destination - (last + 1))) = [] :=
      List.drop_eq_nil_of_le (by omega)
    rw [List.take_append, List.drop_append, hlen, List.take_of_length_le (by omega), hdrop,
      Nat.add_sub_cancel_left, List.nil_append, List.drop_drop, List.drop_take]
    have hj : last + 1 + (destination - (last + 1)) = destination := by omega
    rw [hj]

/-- Moving loses no line and adds none. -/
theorem moved_perm {α : Type} {lines : List α} {first last destination : Nat} (hf : first ≤ last)
    (ho : destination ≤ first ∨ last + 1 < destination) : (moved lines first last destination).Perm lines := by
  have hrange : lines.take first ++ range lines first last = lines.take (last + 1) :=
    take_append_drop_take lines (by omega)
  rcases ho with hd | hd
  · rw [moved, if_pos hd, List.append_assoc (lines.take destination)]
    calc _ = lines.take destination ++ (range lines first last ++ (lines.take first).drop destination) ++
          lines.drop (last + 1) := rfl
      List.Perm _ (lines.take destination ++ ((lines.take first).drop destination ++ range lines first last) ++
          lines.drop (last + 1)) := (List.perm_append_comm.append_left _).append_right _
      _ = lines := by rw [← List.append_assoc, take_append_drop_take lines hd, hrange, List.take_append_drop]
  · rw [moved, if_neg (by omega), List.append_assoc (lines.take first)]
    calc _ = lines.take first ++ ((lines.take destination).drop (last + 1) ++ range lines first last) ++
          lines.drop destination := rfl
      List.Perm _ (lines.take first ++ (range lines first last ++ (lines.take destination).drop (last + 1)) ++
          lines.drop destination) := (List.perm_append_comm.append_left _).append_right _
      _ = lines := by rw [← List.append_assoc, hrange, take_append_drop_take lines (by omega),
        List.take_append_drop]

theorem putAt_without_first {α : Type} {lines : List α} {first last : Nat} (hl : first < lines.length)
    (others : List α) :
    putAt (without lines first last) first others =
      lines.take first ++ others ++ lines.drop (last + 1) := by
  have hlen : (lines.take first).length = first := by simp; omega
  rw [putAt, without, List.take_left' hlen, List.drop_left' hlen]

theorem map_filterRange {α β : Type} (g : α → β) (keep : β → Bool) (lines : List α) (first last : Nat) :
    (filterRange (fun line => keep (g line)) lines first last).map g = filterRange keep (lines.map g) first last := by
  simp only [filterRange, List.map_append, List.map_take, List.map_drop, ← map_range, List.filter_map]
  rfl

theorem filterRange_append {α : Type} (keep : α → Bool) {lines : List α} (others : List α) {first last : Nat}
    (hf : first ≤ last) (hl : last < lines.length) :
    filterRange keep (lines ++ others) first last = filterRange keep lines first last ++ others := by
  rw [filterRange, range, List.take_append_of_le_length (by omega), List.take_append_of_le_length (by omega),
    List.drop_append_of_le_length (by omega), ← List.append_assoc, filterRange, range]

section omitting
variable {α : Type} {lines : List α} {n k : Nat} {numbers : List Nat}

theorem omitting_append (lines others : List α) (n : Nat) (numbers : List Nat) :
    omitting (lines ++ others) n numbers = omitting lines n numbers ++ omitting others (n + lines.length) numbers := by
  simp [omitting, List.zipIdx_append]

theorem omitting_cons (line : α) (lines : List α) (n : Nat) (numbers : List Nat) :
    omitting (line :: lines) n numbers =
      if n ∈ numbers then omitting lines (n + 1) numbers else line :: omitting lines (n + 1) numbers := by
  by_cases h : n ∈ numbers <;> simp [omitting, List.zipIdx_cons, h]

/-- If the numbers are those of the lines that fail a test, the others are left. -/
theorem omitting_eq_filter (keep : α → Bool)
    (h : ∀ i (hi : i < lines.length), n + i ∈ numbers ↔ keep lines[i] = false) :
    omitting lines n numbers = lines.filter keep := by
  induction lines generalizing n with
  | nil => rfl
  | cons line lines ih =>
    have hhere : n ∈ numbers ↔ keep line = false := h 0 (by simp)
    have hrest : omitting lines (n + 1) numbers = lines.filter keep := ih fun i hi => by
      have hnext := h (i + 1) (Nat.succ_lt_succ hi)
      rwa [show n + (i + 1) = n + 1 + i by omega] at hnext
    rw [omitting_cons, hrest, List.filter_cons]
    cases hk : keep line <;> simp [hhere, hk]

theorem omitting_of_not_mem (h : ∀ i < lines.length, n + i ∉ numbers) : omitting lines n numbers = lines := by
  rw [omitting_eq_filter (fun _ => true) fun i hi => by simp [h i hi], List.filter_true]

/-- A number in front of the lines leaves out none of them. -/
theorem omitting_cons_of_lt (h : k < n) : omitting lines n (k :: numbers) = omitting lines n numbers := by
  unfold omitting
  congr 1
  refine List.filter_congr fun line hline => ?_
  have hle := List.le_snd_of_mem_zipIdx hline
  simp [show line.2 ≠ k by omega]

/-- If all the other numbers are behind it, a line is the first that is left out. -/
theorem omitting_between {front back : List α} {line : α} (hk : n + front.length = k) (h : ∀ j ∈ numbers, k < j) :
    omitting (front ++ line :: back) n (k :: numbers) = front ++ omitting back (k + 1) numbers := by
  rw [omitting_append, hk, omitting_cons, if_pos List.mem_cons_self, omitting_cons_of_lt (Nat.lt_succ_self k),
    omitting_of_not_mem fun i hi hmem => ?_]
  rcases List.mem_cons.mp hmem with hmem | hmem
  · omega
  · have hlt := h _ hmem
    omega

/-- If the numbers are those of the lines in a range that fail a test, the range is filtered. -/
theorem omitting_eq_filterRange (keep : α → Bool) {first last : Nat} (hf : first ≤ last) (hl : last < lines.length)
    (h : ∀ k (hk : k < lines.length), k ∈ numbers ↔ (first ≤ k ∧ k ≤ last) ∧ keep lines[k] = false) :
    omitting lines 0 numbers = filterRange keep lines first last := by
  have hsplit : lines = lines.take first ++ range lines first last ++ lines.drop (last + 1) := by
    rw [range, take_append_drop_take lines (by omega), List.take_append_drop]
  have hfirst : (lines.take first).length = first := List.length_take_of_le (by omega)
  have hrange := range_length hf hl
  have hin : omitting (range lines first last) first numbers = (range lines first last).filter keep := by
    refine omitting_eq_filter keep fun i hi => ?_
    rw [h (first + i) (by omega)]
    simp only [range, List.getElem_drop, List.getElem_take]
    exact and_iff_right (by omega)
  conv => lhs; rw [hsplit]
  rw [omitting_append, omitting_append, List.length_append, Nat.zero_add, hfirst, hin,
    omitting_of_not_mem fun i hi => ?front, omitting_of_not_mem fun i hi => ?back, filterRange]
  case front => rw [h _ (by omega)]; omega
  case back =>
    rw [List.length_drop] at hi
    rw [h _ (by omega)]
    omega

end omitting
end LineList
end ExEditor
