import Mathlib.Data.Finset.Card
import Mathlib.Data.Finset.Range
import Mathlib.Logic.Relation
import ExEditor.Pattern.Search

/-! A program as a graph whose nodes are an address and an offset. A match is a path from the front of the
program to its end. The threads that wait at an offset stand for all paths that have come to it: each was
reached by a path, and a path that goes on to the end goes on from one of them. -/
namespace ExEditor
namespace Pattern

/-- Where an instruction leads that takes no character; none if it takes one. -/
def Instruction.next? (hay : Array Char) (offset address : Nat) : Instruction → Option (List Nat)
  | .take _ => none
  | .check assertion asciiWords =>
    some (if lookHolds hay offset assertion asciiWords then [address + 1] else [])
  | .save _ => some [address + 1]
  | .fork preferNext ahead =>
    some (if preferNext then [address + 1, address + ahead] else [address + ahead, address + 1])
  | .loop preferBack back =>
    some (if preferBack then [address - back, address + 1] else [address + 1, address - back])
  | .jump ahead => some [address + ahead]

/-- One step from an address at an offset to another. -/
inductive Step (program : Array Instruction) (hay : Array Char) : Nat × Nat → Nat × Nat → Prop
  | take {address offset : Nat} {set : Unicode.Ranges} {c : Char}
      (hi : program[address]? = some (.take set)) (hc : hay[offset]? = some c) (hs : set.has c.toNat) :
      Step program hay (address, offset) (address + 1, offset + 1)
  | follow {address address' offset : Nat} {i : Instruction} {targets : List Nat}
      (hi : program[address]? = some i) (hn : i.next? hay offset address = some targets)
      (hm : address' ∈ targets) : Step program hay (address, offset) (address', offset)

/-- Whether a path leads from one place to another. -/
abbrev Path (program : Array Instruction) (hay : Array Char) : Nat × Nat → Nat × Nat → Prop :=
  Relation.ReflTransGen (Step program hay)

/-- Whether the text between two offsets can be matched by some way through the program. -/
def Accepts (program : Array Instruction) (hay : Array Char) (start stop : Nat) : Prop :=
  Path program hay (0, start) (program.size, stop)

/-- Whether a path leads to the end of the program. -/
def Completes (program : Array Instruction) (hay : Array Char) (place : Nat × Nat) : Prop :=
  ∃ stop, Path program hay place (program.size, stop)

variable {program : Array Instruction} {hay : Array Char} {offset : Nat}

theorem Accepts.completes {start stop : Nat} (h : Accepts program hay start stop) : Completes program hay (0, start) :=
  ⟨stop, h⟩

/-- A path to the end goes on with a step, unless it is there. -/
theorem Completes.cases_head {place : Nat × Nat} (h : Completes program hay place) :
    place.1 = program.size ∨ ∃ next, Step program hay place next ∧ Completes program hay next := by
  obtain ⟨stop, hp⟩ := h
  rcases Relation.ReflTransGen.cases_head hp with rfl | ⟨next, hstep, hrest⟩
  · exact .inl rfl
  · exact .inr ⟨next, hstep, stop, hrest⟩

/-- A thread is followed to the addresses that its instruction leads to. -/
theorem Thread.follow_eq (t : Thread) (i : Instruction) :
    (t.follow hay offset i).map (·.map Thread.address) = i.next? hay offset t.address := by
  cases i with
  | take set => rfl
  | check assertion asciiWords => simp only [follow, Instruction.next?]; split <;> rfl
  | save slot => rfl
  | fork preferNext ahead => simp only [follow, Instruction.next?]; split <;> rfl
  | loop preferBack back => simp only [follow, Instruction.next?]; split <;> rfl
  | jump ahead => rfl

theorem Thread.start_of_mem_follow {t u : Thread} {i : Instruction} {threads : List Thread}
    (hf : t.follow hay offset i = some threads) (hu : u ∈ threads) : u.start = t.start := by
  cases i <;> simp only [follow, reduceCtorEq, Option.some.injEq] at hf <;> subst hf
  case check => split at hu <;> simp_all
  case fork => split at hu <;> rcases List.mem_pair.mp hu with rfl | rfl <;> rfl
  case loop => split at hu <;> rcases List.mem_pair.mp hu with rfl | rfl <;> rfl
  all_goals rw [List.mem_singleton.mp hu]

/-- An instruction leads to two addresses at most. -/
theorem Thread.length_follow_le {t : Thread} {i : Instruction} {threads : List Thread}
    (hf : t.follow hay offset i = some threads) : threads.length ≤ 2 := by
  cases i <;> simp only [follow, reduceCtorEq, Option.some.injEq] at hf <;> subst hf
  case check => split <;> simp
  case fork => split <;> simp
  case loop => split <;> simp
  all_goals simp

theorem Thread.follow_eq_none {t : Thread} {i : Instruction} (hf : t.follow hay offset i = none) :
    ∃ set, i = .take set := by
  cases i <;> simp [follow] at hf ⊢

theorem Path.offset_le {place place' : Nat × Nat} (h : Path program hay place place') : place.2 ≤ place'.2 := by
  induction h with
  | refl => exact Nat.le_refl _
  | tail _ hstep ih =>
    cases hstep with
    | take _ _ _ => exact Nat.le_succ_of_le ih
    | follow _ _ _ => exact ih

/-- A character that a path passes was taken by an instruction. -/
theorem Path.take_of_lt {place place' : Nat × Nat} (h : Path program hay place place') {k : Nat} {c : Char}
    (hfirst : place.2 ≤ k) (hlast : k < place'.2) (hc : hay[k]? = some c) :
    ∃ i ∈ program, ∃ set, i = .take set ∧ set.has c.toNat := by
  induction h with
  | refl => omega
  | tail _ hstep ih =>
    cases hstep with
    | @take _ offset set d hi hd hs =>
      rcases Nat.lt_or_eq_of_le (Nat.le_of_lt_succ hlast) with hlt | rfl
      · exact ih hlt
      · obtain rfl := Option.some.inj (hc.symm.trans hd)
        exact ⟨_, Array.mem_of_getElem? hi, set, rfl, hs⟩
    | follow _ _ _ => exact ih hlast

/-- A path from past the end of a program does not come to its end. -/
theorem not_completes_of_lt {address : Nat} (h : program.size < address) :
    ¬ Completes program hay (address, offset) := by
  intro hp
  rcases hp.cases_head with heq | ⟨place, hstep, -⟩
  · exact Nat.ne_of_gt h heq
  · have hnone : program[address]? = none := Array.getElem?_eq_none (Nat.le_of_lt h)
    cases hstep with
    | take hi _ _ => simp [hnone] at hi
    | follow hi _ _ => simp [hnone] at hi

namespace Frontier
variable {f : Frontier} {pending : List Thread} {t : Thread} {origin : Nat}

/-- Whether an address has been entered at an offset. -/
def Entered (offset : Nat) (f : Frontier) (address : Nat) : Prop := f.seen[address]? = some (offset + 1)

/-- A frontier as it is at an offset. Its threads wait for a character or are complete, were reached by
paths, and began the earlier the more they are preferred. -/
structure Ready (program : Array Instruction) (hay : Array Char) (offset : Nat) (f : Frontier) : Prop where
  seen_size : f.seen.size = program.size + 1
  seen_le : ∀ address last : Nat, f.seen[address]? = some last → last ≤ offset + 1
  waits : ∀ t ∈ f.waiting, t.address = program.size ∨ ∃ set, program[t.address]? = some (.take set)
  reached : ∀ t ∈ f.waiting, Path program hay (0, t.start) (t.address, offset)
  inOrder : f.waiting.Pairwise fun later earlier => earlier.start ≤ later.start

/-- What has been entered at an offset waits or leads to what has been entered too or is pending. -/
def Closed (program : Array Instruction) (hay : Array Char) (offset : Nat) (pending : List Thread)
    (f : Frontier) : Prop :=
  ∀ address, f.Entered offset address →
    (∃ t ∈ f.waiting, t.address = address) ∨
      ∃ i targets, program[address]? = some i ∧ i.next? hay offset address = some targets ∧
        ∀ target ∈ targets, target ≤ program.size →
          f.Entered offset target ∨ ∃ t ∈ pending, t.address = target

/-- Number of instructions that have not been entered at an offset. -/
def unseen (program : Array Instruction) (offset : Nat) (f : Frontier) : Nat :=
  ((Finset.range program.size).filter fun address => f.seen[address]? ≠ some (offset + 1)).card

/-- The frontier after an address has been entered. -/
def enter (offset : Nat) (f : Frontier) (address : Nat) : Frontier :=
  { f with seen := f.seen.setIfInBounds address (offset + 1) }

/-- The frontier with one more thread that waits. -/
def push (f : Frontier) (t : Thread) : Frontier := { f with waiting := t :: f.waiting }

theorem entered_of_getD (hsize : f.seen.size = program.size + 1) {address : Nat}
    (h : f.seen.getD address (offset + 1) = offset + 1) (hle : address ≤ program.size) :
    f.Entered offset address := by
  have hlt : address < f.seen.size := by omega
  rw [Array.getD_eq_getD_getElem?, Array.getElem?_eq_getElem hlt, Option.getD_some] at h
  rw [Entered, Array.getElem?_eq_getElem hlt, h]

theorem le_size_of_getD (hsize : f.seen.size = program.size + 1) {address : Nat}
    (h : f.seen.getD address (offset + 1) ≠ offset + 1) : address ≤ program.size := by
  by_contra hgt
  rw [Array.getD_eq_getD_getElem?, Array.getElem?_eq_none (by omega)] at h
  exact h rfl

theorem not_entered_of_getD {address : Nat} (h : f.seen.getD address (offset + 1) ≠ offset + 1) :
    ¬ f.Entered offset address := by
  intro he
  rw [Array.getD_eq_getD_getElem?, he] at h
  exact h rfl

theorem entered_enter (hsize : f.seen.size = program.size + 1) {address : Nat} (hle : address ≤ program.size)
    (other : Nat) : (f.enter offset address).Entered offset other ↔ other = address ∨ f.Entered offset other := by
  rw [Entered, enter, Array.getElem?_setIfInBounds, Entered]
  by_cases h : address = other
  · simp [h, show other < f.seen.size by omega]
  · simp [h, Ne.symm h]

theorem Ready.enter (h : f.Ready program hay offset) (address : Nat) :
    (f.enter offset address).Ready program hay offset where
  seen_size := by simpa [Frontier.enter] using h.seen_size
  seen_le := by
    intro other last hl
    rw [Frontier.enter, Array.getElem?_setIfInBounds] at hl
    split at hl
    · split at hl
      · cases hl
        exact Nat.le_refl _
      · cases hl
    · exact h.seen_le _ _ hl
  waits := h.waits
  reached := h.reached
  inOrder := h.inOrder

theorem Ready.push (h : f.Ready program hay offset)
    (hw : t.address = program.size ∨ ∃ set, program[t.address]? = some (.take set))
    (hp : Path program hay (0, t.start) (t.address, offset)) (hle : ∀ u ∈ f.waiting, u.start ≤ t.start) :
    (f.push t).Ready program hay offset where
  seen_size := h.seen_size
  seen_le := h.seen_le
  waits := by simpa [Frontier.push] using ⟨hw, h.waits⟩
  reached := by simpa [Frontier.push] using ⟨hp, h.reached⟩
  inOrder := List.pairwise_cons.mpr ⟨hle, h.inOrder⟩

/-- Threads are pending that began at one offset, no earlier than those that wait. -/
structure Pending (program : Array Instruction) (hay : Array Char) (offset origin : Nat)
    (pending : List Thread) (f : Frontier) : Prop where
  start_eq : ∀ t ∈ pending, t.start = origin
  reached : ∀ t ∈ pending, Path program hay (0, t.start) (t.address, offset)
  le_origin : ∀ t ∈ f.waiting, t.start ≤ origin

theorem Pending.tail (h : Pending program hay offset origin (t :: pending) f) :
    Pending program hay offset origin pending f where
  start_eq u hu := h.start_eq u (List.mem_cons_of_mem _ hu)
  reached u hu := h.reached u (List.mem_cons_of_mem _ hu)
  le_origin := h.le_origin

theorem Pending.push (h : Pending program hay offset origin (t :: pending) f) (address : Nat) :
    Pending program hay offset origin pending ((f.enter offset address).push t) where
  start_eq u hu := h.start_eq u (List.mem_cons_of_mem _ hu)
  reached u hu := h.reached u (List.mem_cons_of_mem _ hu)
  le_origin := by
    simpa [Frontier.push, Frontier.enter] using ⟨Nat.le_of_eq (h.start_eq t List.mem_cons_self), h.le_origin⟩

theorem Pending.follow (h : Pending program hay offset origin (t :: pending) f) {i : Instruction}
    {threads : List Thread} (hi : program[t.address]? = some i) (hf : t.follow hay offset i = some threads)
    (address : Nat) : Pending program hay offset origin (threads ++ pending) (f.enter offset address) where
  start_eq u hu := by
    rcases List.mem_append.mp hu with hu | hu
    · rw [Thread.start_of_mem_follow hf hu]
      exact h.start_eq t List.mem_cons_self
    · exact h.start_eq u (List.mem_cons_of_mem _ hu)
  reached u hu := by
    rcases List.mem_append.mp hu with hu | hu
    · have hnext : i.next? hay offset t.address = some (threads.map Thread.address) := by
        rw [← Thread.follow_eq t i, hf, Option.map_some]
      rw [Thread.start_of_mem_follow hf hu]
      exact (h.reached t List.mem_cons_self).tail (.follow hi hnext (List.mem_map_of_mem hu))
    · exact h.reached u (List.mem_cons_of_mem _ hu)
  le_origin := h.le_origin

/-- A frontier stays ready while the pending threads are followed. -/
theorem Ready.spread {n : Nat} (h : f.Ready program hay offset)
    (hp : Pending program hay offset origin pending f) :
    (f.spread program hay offset n pending).Ready program hay offset := by
  fun_induction Frontier.spread program hay offset n pending f with
  | case1 => exact h
  | case2 => exact h
  | case3 n t rest f _ ih => exact ih h hp.tail
  | case4 n t rest f hseen f' hnone ih =>
    have hle := le_size_of_getD h.seen_size hseen
    have hge : program.size ≤ t.address := Array.getElem?_eq_none_iff.mp hnone
    have hready : ((f.enter offset t.address).push t).Ready program hay offset :=
      (h.enter _).push (.inl (Nat.le_antisymm hle hge)) (hp.reached t List.mem_cons_self)
        (hp.start_eq t List.mem_cons_self ▸ hp.le_origin)
    exact ih hready (hp.push t.address)
  | case5 n t rest f _ f' i hi threads hf ih => exact ih (h.enter _) (hp.follow hi hf t.address)
  | case6 n t rest f _ f' i hi hf ih =>
    obtain ⟨set, rfl⟩ := Thread.follow_eq_none hf
    have hready : ((f.enter offset t.address).push t).Ready program hay offset :=
      (h.enter _).push (.inr ⟨set, hi⟩) (hp.reached t List.mem_cons_self)
        (hp.start_eq t List.mem_cons_self ▸ hp.le_origin)
    exact ih hready (hp.push t.address)

/-- What waits after them has begun no later than they. -/
theorem Pending.spread {n : Nat} (hp : Pending program hay offset origin pending f) :
    ∀ t ∈ (f.spread program hay offset n pending).waiting, t.start ≤ origin := by
  fun_induction Frontier.spread program hay offset n pending f with
  | case1 => exact hp.le_origin
  | case2 => exact hp.le_origin
  | case3 n t rest f _ ih => exact ih hp.tail
  | case4 n t rest f _ f' _ ih => exact ih (hp.push t.address)
  | case5 n t rest f _ f' i hi threads hf ih => exact ih (hp.follow hi hf t.address)
  | case6 n t rest f _ f' i _ _ ih => exact ih (hp.push t.address)

theorem mem_waiting_spread {n : Nat} {u : Thread} (h : u ∈ f.waiting) :
    u ∈ (f.spread program hay offset n pending).waiting := by
  fun_induction Frontier.spread program hay offset n pending f with
  | case1 => exact h
  | case2 => exact h
  | case3 n t rest f _ ih => exact ih h
  | case4 n t rest f _ f' _ ih => exact ih (List.mem_cons_of_mem _ h)
  | case5 n t rest f _ f' i _ threads _ ih => exact ih h
  | case6 n t rest f _ f' i _ _ ih => exact ih (List.mem_cons_of_mem _ h)

/-- What has been entered stays entered. -/
theorem Entered.spread {n address : Nat} (h : f.Entered offset address) :
    (f.spread program hay offset n pending).Entered offset address := by
  have henter (f : Frontier) (h : f.Entered offset address) (other : Nat) :
      (f.enter offset other).Entered offset address := by
    clear * - h
    have hlt : address < f.seen.size := (Array.getElem?_eq_some_iff.mp h).1
    rw [Entered, Frontier.enter, Array.getElem?_setIfInBounds]
    split
    · next heq => rw [if_pos (heq ▸ hlt)]
    · exact h
  fun_induction Frontier.spread program hay offset n pending f with
  | case1 => exact h
  | case2 => exact h
  | case3 n t rest f _ ih => exact ih h
  | case4 n t rest f _ f' _ ih => exact ih (henter f h t.address)
  | case5 n t rest f _ f' i _ threads _ ih => exact ih (henter f h t.address)
  | case6 n t rest f _ f' i _ _ ih => exact ih (henter f h t.address)

/-- An instruction is unseen no longer once it has been entered. -/
theorem unseen_enter (hsize : f.seen.size = program.size + 1) {address : Nat} (hlt : address < program.size)
    (hnew : ¬ f.Entered offset address) :
    (f.enter offset address).unseen program offset < f.unseen program offset := by
  refine Finset.card_lt_card (Finset.ssubset_iff_of_subset ?_ |>.mpr ⟨address, ?_, ?_⟩)
  · intro other hm
    rw [Finset.mem_filter] at hm ⊢
    exact ⟨hm.1, fun he => hm.2 ((entered_enter hsize (Nat.le_of_lt hlt) other).mpr (.inr he))⟩
  · exact Finset.mem_filter.mpr ⟨Finset.mem_range.mpr hlt, hnew⟩
  · rw [Finset.mem_filter]
    exact fun hm => hm.2 ((entered_enter hsize (Nat.le_of_lt hlt) address).mpr (.inl rfl))

theorem unseen_push : (f.push t).unseen program offset = f.unseen program offset := rfl

theorem size_enter (hsize : f.seen.size = program.size + 1) (address : Nat) :
    (f.enter offset address).seen.size = program.size + 1 := by
  simpa [Frontier.enter] using hsize

theorem unseen_enter_le (hsize : f.seen.size = program.size + 1) {address : Nat} (hle : address ≤ program.size) :
    (f.enter offset address).unseen program offset ≤ f.unseen program offset := by
  refine Finset.card_le_card fun other hm => ?_
  rw [Finset.mem_filter] at hm ⊢
  exact ⟨hm.1, fun he => hm.2 ((entered_enter hsize hle other).mpr (.inr he))⟩

/-- The thread in front of those that are pending may be dropped once its address has been entered. -/
theorem Closed.drop (h : f.Closed program hay offset (t :: pending))
    (ht : t.address ≤ program.size → f.Entered offset t.address) : f.Closed program hay offset pending := by
  intro address he
  rcases h address he with hw | ⟨i, targets, hi, hn, ho⟩
  · exact .inl hw
  refine .inr ⟨i, targets, hi, hn, fun target hm hle => ?_⟩
  rcases ho target hm hle with he | ⟨u, hu, rfl⟩
  · exact .inl he
  rcases List.mem_cons.mp hu with rfl | hu
  · exact .inl (ht hle)
  · exact .inr ⟨u, hu, rfl⟩

/-- A thread that waits needs nothing more. -/
theorem Closed.push (h : f.Closed program hay offset (t :: pending)) (hsize : f.seen.size = program.size + 1)
    (hle : t.address ≤ program.size) :
    ((f.enter offset t.address).push t).Closed program hay offset pending := by
  intro address he
  rcases (entered_enter hsize hle address).mp he with rfl | he
  · exact .inl ⟨t, List.mem_cons_self, rfl⟩
  rcases h address he with ⟨u, hu, hua⟩ | ⟨i, targets, hi, hn, ho⟩
  · exact .inl ⟨u, List.mem_cons_of_mem _ hu, hua⟩
  refine .inr ⟨i, targets, hi, hn, fun target hm htarget => ?_⟩
  rcases ho target hm htarget with he | ⟨u, hu, rfl⟩
  · exact .inl ((entered_enter hsize hle target).mpr (.inr he))
  rcases List.mem_cons.mp hu with rfl | hu
  · exact .inl ((entered_enter hsize hle _).mpr (.inl rfl))
  · exact .inr ⟨u, hu, rfl⟩

/-- A thread may be replaced by those that its instruction leads to. -/
theorem Closed.follow (h : f.Closed program hay offset (t :: pending)) (hsize : f.seen.size = program.size + 1)
    (hle : t.address ≤ program.size) {i : Instruction} {threads : List Thread} (hi : program[t.address]? = some i)
    (hf : t.follow hay offset i = some threads) :
    (f.enter offset t.address).Closed program hay offset (threads ++ pending) := by
  intro address he
  rcases (entered_enter hsize hle address).mp he with rfl | he
  · refine .inr ⟨i, threads.map Thread.address, hi, ?_, fun target hm _ => ?_⟩
    · rw [← Thread.follow_eq t i, hf, Option.map_some]
    · obtain ⟨u, hu, rfl⟩ := List.mem_map.mp hm
      exact .inr ⟨u, List.mem_append_left _ hu, rfl⟩
  rcases h address he with hw | ⟨j, targets, hj, hn, ho⟩
  · exact .inl hw
  refine .inr ⟨j, targets, hj, hn, fun target hm htarget => ?_⟩
  rcases ho target hm htarget with he | ⟨u, hu, rfl⟩
  · exact .inl ((entered_enter hsize hle target).mpr (.inr he))
  rcases List.mem_cons.mp hu with rfl | hu
  · exact .inl ((entered_enter hsize hle _).mpr (.inl rfl))
  · exact .inr ⟨u, List.mem_append_right _ hu, rfl⟩

/-- A frontier from which threads that were pending have been followed. -/
structure Covers (program : Array Instruction) (hay : Array Char) (offset : Nat) (pending : List Thread)
    (f : Frontier) : Prop where
  closed : f.Closed program hay offset []
  entered : ∀ t ∈ pending, t.address ≤ program.size → f.Entered offset t.address

theorem Covers.cons (h : f.Covers program hay offset pending)
    (ht : t.address ≤ program.size → f.Entered offset t.address) : f.Covers program hay offset (t :: pending) :=
  ⟨h.closed, List.forall_mem_cons.mpr ⟨ht, h.entered⟩⟩

theorem Covers.right {threads : List Thread} (h : f.Covers program hay offset (threads ++ pending)) :
    f.Covers program hay offset pending :=
  ⟨h.closed, fun t ht => h.entered t (List.mem_append_right _ ht)⟩

theorem entered_enter_self (hsize : f.seen.size = program.size + 1) (hle : t.address ≤ program.size) :
    (f.enter offset t.address).Entered offset t.address :=
  (entered_enter hsize hle _).mpr (.inl rfl)

/-- What room there is when a thread waits. -/
theorem room_push {n : Nat} (hsize : f.seen.size = program.size + 1) (hle : t.address ≤ program.size)
    (hn : (t :: pending).length + 2 * f.unseen program offset ≤ n + 1) :
    pending.length + 2 * ((f.enter offset t.address).push t).unseen program offset ≤ n := by
  have hless : (f.enter offset t.address).unseen program offset ≤ f.unseen program offset :=
    unseen_enter_le hsize hle
  rw [List.length_cons] at hn
  rw [unseen_push]
  omega

/-- What room there is when a thread has been replaced by those that its instruction leads to. -/
theorem room_follow {n : Nat} (hsize : f.seen.size = program.size + 1) {i : Instruction} {threads : List Thread}
    (hi : program[t.address]? = some i) (hf : t.follow hay offset i = some threads)
    (hnew : ¬ f.Entered offset t.address) (hn : (t :: pending).length + 2 * f.unseen program offset ≤ n + 1) :
    (threads ++ pending).length + 2 * (f.enter offset t.address).unseen program offset ≤ n := by
  have hless := unseen_enter hsize (Array.getElem?_eq_some_iff.mp hi).1 hnew
  have htwo := Thread.length_follow_le hf
  rw [List.length_cons] at hn
  rw [List.length_append]
  omega

/-- With room for two threads for each instruction that is unseen all pending threads are followed. -/
theorem Closed.spread {n : Nat} (h : f.Closed program hay offset pending)
    (hsize : f.seen.size = program.size + 1) (hn : pending.length + 2 * f.unseen program offset ≤ n) :
    (f.spread program hay offset n pending).Covers program hay offset pending := by
  fun_induction Frontier.spread program hay offset n pending f with
  | case1 pending f =>
    obtain rfl : pending = [] := List.eq_nil_of_length_eq_zero (by omega)
    exact ⟨h, by simp⟩
  | case2 => exact ⟨h, by simp⟩
  | case3 n t rest f hseen ih =>
    rw [List.length_cons] at hn
    have hentered := entered_of_getD hsize hseen
    exact (ih (h.drop hentered) hsize (by omega)).cons fun hle => (hentered hle).spread
  | case4 n t rest f hseen f' hnone ih =>
    have hle := le_size_of_getD hsize hseen
    have hentered : ((f.enter offset t.address).push t).Entered offset t.address := entered_enter_self hsize hle
    exact (ih (h.push hsize hle) (size_enter hsize t.address) (room_push hsize hle hn)).cons fun _ => hentered.spread
  | case5 n t rest f hseen f' i hi threads hf ih =>
    have hle := le_size_of_getD hsize hseen
    have hroom := room_follow hsize hi hf (not_entered_of_getD hseen) hn
    exact (ih (h.follow hsize hle hi hf) (size_enter hsize t.address) hroom).right.cons fun _ =>
      (entered_enter_self hsize hle).spread
  | case6 n t rest f hseen f' i hi hf ih =>
    have hle := le_size_of_getD hsize hseen
    have hentered : ((f.enter offset t.address).push t).Entered offset t.address := entered_enter_self hsize hle
    exact (ih (h.push hsize hle) (size_enter hsize t.address) (room_push hsize hle hn)).cons fun _ => hentered.spread

end Frontier
end Pattern
end ExEditor
