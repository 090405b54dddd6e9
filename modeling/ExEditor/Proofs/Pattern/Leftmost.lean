import Mathlib.Data.List.TakeWhile
import ExEditor.Proofs.Pattern.Matches
import ExEditor.Proofs.Pattern.Paths

/-! A search finds a path through the program, and one that begins no later than any other. The threads that
wait are in the order of their starts, so neither a thread that is dropped for one that has come to the
same place nor one that is dropped for a complete one has begun before it. -/
namespace ExEditor
namespace Pattern

open Unicode (Ranges)

variable {program : Array Instruction} {hay : Array Char} {offset : Nat}

namespace Frontier
variable {f : Frontier} {t : Thread}

/-- A frontier from which all threads have been followed. -/
structure Settled (program : Array Instruction) (hay : Array Char) (offset : Nat) (f : Frontier) : Prop
    extends f.Ready program hay offset where
  closed : f.Closed program hay offset []

/-- A frontier at whose offset nothing has been entered. -/
theorem Settled.initial {seen : Array Nat} (hsize : seen.size = program.size + 1)
    (hle : ∀ address last : Nat, seen[address]? = some last → last ≤ offset) :
    Settled program hay offset { seen } where
  seen_size := hsize
  seen_le address last h := Nat.le_succ_of_le (hle address last h)
  waits := by simp
  reached := by simp
  inOrder := List.Pairwise.nil
  closed address h := absurd (hle address _ h) (Nat.not_succ_le_self offset)

/-- A path that goes on from what has been entered goes on from a thread that waits. -/
theorem Settled.waiting_of_completes (h : f.Settled program hay offset) {address : Nat}
    (hentered : f.Entered offset address) (hp : Completes program hay (address, offset)) :
    ∃ t ∈ f.waiting, Completes program hay (t.address, offset) := by
  obtain ⟨stop, hp⟩ := hp
  generalize hplace : (address, offset) = place at hp
  induction hp using Relation.ReflTransGen.head_induction_on generalizing address with
  | refl =>
    cases hplace
    rcases h.closed _ hentered with ⟨t, ht, heq⟩ | ⟨i, _, hi, -⟩
    · have hend : Path program hay (t.address, offset) (program.size, offset) := heq ▸ .refl
      exact ⟨t, ht, offset, hend⟩
    · simp at hi
  | head hstep hrest ih =>
    subst hplace
    rcases h.closed _ hentered with ⟨t, ht, rfl⟩ | ⟨i, targets, hi, hn, hclosed⟩
    · exact ⟨t, ht, stop, .head hstep hrest⟩
    cases hstep with
    | take hi' _ _ =>
      obtain rfl := Option.some.inj (hi.symm.trans hi')
      cases hn
    | @follow _ target _ i' targets' hi' hn' hm =>
      obtain rfl := Option.some.inj (hi.symm.trans hi')
      obtain rfl := Option.some.inj (hn.symm.trans hn')
      by_cases hle : target ≤ program.size
      · rcases hclosed target hm hle with he | ⟨u, hu, -⟩
        · exact ih he rfl
        · cases hu
      · exact absurd ⟨stop, hrest⟩ (not_completes_of_lt (Nat.lt_of_not_le hle))

/-- A thread is followed as far as it needs no character. -/
theorem Settled.spread (h : f.Settled program hay offset) (hle : ∀ u ∈ f.waiting, u.start ≤ t.start)
    (hreached : Path program hay (0, t.start) (t.address, offset)) :
    (f.spread program hay offset (spreadBound program) [t]).Settled program hay offset ∧
      (t.address ≤ program.size →
        (f.spread program hay offset (spreadBound program) [t]).Entered offset t.address) ∧
      ∀ u ∈ (f.spread program hay offset (spreadBound program) [t]).waiting, u.start ≤ t.start := by
  have hpending : Pending program hay offset t.start [t] f := ⟨by simp, by simpa using hreached, hle⟩
  have hunseen : f.unseen program offset ≤ program.size := by
    calc f.unseen program offset ≤ (Finset.range program.size).card := Finset.card_filter_le _ _
      _ = program.size := Finset.card_range _
  have hclosed : f.Closed program hay offset [t] := by
    intro address he
    rcases h.closed address he with hw | ⟨i, targets, hi, hn, ho⟩
    · exact .inl hw
    · refine .inr ⟨i, targets, hi, hn, fun target hm htarget => ?_⟩
      rcases ho target hm htarget with he | ⟨u, hu, -⟩
      · exact .inl he
      · cases hu
  have hroom : [t].length + 2 * f.unseen program offset ≤ spreadBound program := by
    rw [List.length_singleton, spreadBound]
    omega
  obtain ⟨hdone, hentered⟩ := hclosed.spread h.seen_size hroom
  exact ⟨⟨h.toReady.spread hpending, hdone⟩, hentered t List.mem_cons_self, hpending.spread⟩

/-- A frontier after one of the threads at the offset before it has taken a character. -/
def take (program : Array Instruction) (hay : Array Char) (offset : Nat) (c : Char) (f : Frontier)
    (t : Thread) : Frontier :=
  match program[t.address]? with
  | some (.take set) =>
    if set.has c.toNat then
      f.spread program hay (offset + 1) (spreadBound program) [{ t with address := t.address + 1 }]
    else f
  | _ => f

theorem advance_eq (c : Char) (threads : List Thread) (seen : Array Nat) :
    advance program hay offset c threads seen = threads.foldl (take program hay offset c) { seen } := rfl

theorem mem_waiting_take {c : Char} {u : Thread} (hu : u ∈ f.waiting) :
    u ∈ (f.take program hay offset c t).waiting := by
  unfold take
  split
  · split
    · exact mem_waiting_spread hu
    · exact hu
  · exact hu

/-- A thread that takes a character goes on behind it, unless one that has begun no later is there. -/
theorem Settled.take {c : Char} (h : f.Settled program hay (offset + 1)) (hc : hay[offset]? = some c)
    (hle : ∀ u ∈ f.waiting, u.start ≤ t.start) (hreached : Path program hay (0, t.start) (t.address, offset)) :
    (f.take program hay offset c t).Settled program hay (offset + 1) ∧
      ∀ u ∈ (f.take program hay offset c t).waiting, u.start ≤ t.start := by
  unfold Frontier.take
  split
  · next set hi =>
    split
    · next hs =>
      have hnext : Path program hay (0, t.start) (t.address + 1, offset + 1) := hreached.tail (.take hi hc hs)
      obtain ⟨hsettled, -, hstart⟩ := h.spread (t := { t with address := t.address + 1 }) hle hnext
      exact ⟨hsettled, hstart⟩
    · exact ⟨h, hle⟩
  · exact ⟨h, hle⟩

/-- A path that is not at the end goes on from a thread that waits by taking a character. -/
theorem Settled.waits_cases (h : f.Settled program hay offset) (ht : t ∈ f.waiting) (hlt : t.address < program.size)
    (hp : Completes program hay (t.address, offset)) :
    ∃ set c, program[t.address]? = some (.take set) ∧ hay[offset]? = some c ∧ set.has c.toNat ∧
      Completes program hay (t.address + 1, offset + 1) := by
  obtain ⟨set, hi⟩ := (h.waits t ht).resolve_left (Nat.ne_of_lt hlt)
  rcases hp.cases_head with heq | ⟨place, hstep, hrest⟩
  · exact absurd heq (Nat.ne_of_lt hlt)
  cases hstep with
  | @take _ _ set' c hi' hc hs =>
    obtain ⟨rfl⟩ : set = set' := by simpa [hi] using hi'
    exact ⟨set, c, hi, hc, hs, hrest⟩
  | follow hi' hn _ =>
    obtain rfl := Option.some.inj (hi.symm.trans hi')
    cases hn

/-- A path of the thread goes on from one of those that wait behind the character. -/
theorem Settled.waiting_of_take {set : Ranges} {c : Char} (h : f.Settled program hay (offset + 1))
    (hle : ∀ u ∈ f.waiting, u.start ≤ t.start) (hreached : Path program hay (0, t.start) (t.address, offset))
    (hi : program[t.address]? = some (.take set)) (hc : hay[offset]? = some c) (hs : set.has c.toNat)
    (hp : Completes program hay (t.address + 1, offset + 1)) :
    ∃ u ∈ (f.take program hay offset c t).waiting, Completes program hay (u.address, offset + 1) := by
  obtain ⟨hsettled, hentered, -⟩ :=
    h.spread (t := { t with address := t.address + 1 }) hle (hreached.tail (.take hi hc hs))
  have htake : f.take program hay offset c t =
      f.spread program hay (offset + 1) (spreadBound program) [{ t with address := t.address + 1 }] := by
    simp only [Frontier.take, hi, hs, if_true]
  rw [htake]
  exact hsettled.waiting_of_completes (hentered (Array.getElem?_eq_some_iff.mp hi).1) hp

/-- What threads that have taken a character one after the other lead to. -/
theorem Settled.foldl_take {c : Char} {threads : List Thread} (h : f.Settled program hay (offset + 1))
    (hc : hay[offset]? = some c) (hle : ∀ t ∈ threads, ∀ u ∈ f.waiting, u.start ≤ t.start)
    (horder : threads.Pairwise fun t u => t.start ≤ u.start)
    (hreached : ∀ t ∈ threads, Path program hay (0, t.start) (t.address, offset)) :
    (threads.foldl (Frontier.take program hay offset c) f).Settled program hay (offset + 1) ∧
      f.waiting ⊆ (threads.foldl (Frontier.take program hay offset c) f).waiting ∧
      ∀ bound, (∀ u ∈ f.waiting, u.start ≤ bound) → (∀ t ∈ threads, t.start ≤ bound) →
        ∀ u ∈ (threads.foldl (Frontier.take program hay offset c) f).waiting, u.start ≤ bound := by
  induction threads generalizing f with
  | nil => exact ⟨h, List.Subset.refl _, fun bound hf _ => hf⟩
  | cons t threads ih =>
    simp only [List.mem_cons, forall_eq_or_imp, List.pairwise_cons] at hle horder hreached
    obtain ⟨hsettled, hstart⟩ := h.take hc hle.1 hreached.1
    obtain ⟨hlast, hsub, hbound⟩ :=
      ih hsettled (fun t' ht' u hu => Nat.le_trans (hstart u hu) (horder.1 t' ht')) horder.2 hreached.2
    refine ⟨hlast, fun u hu => hsub (mem_waiting_take hu), fun bound _ hthreads => ?_⟩
    rw [List.forall_mem_cons] at hthreads
    exact hbound bound (fun u hu => Nat.le_trans (hstart u hu) hthreads.1) hthreads.2

/-- A path from one of the threads goes on behind the character from a thread that has begun no later. -/
theorem Settled.waiting_of_foldl_take {set : Ranges} {c : Char} {threads : List Thread}
    (h : f.Settled program hay (offset + 1)) (hle : ∀ t ∈ threads, ∀ u ∈ f.waiting, u.start ≤ t.start)
    (horder : threads.Pairwise fun t u => t.start ≤ u.start)
    (hreached : ∀ t ∈ threads, Path program hay (0, t.start) (t.address, offset)) (ht : t ∈ threads)
    (hi : program[t.address]? = some (.take set)) (hc : hay[offset]? = some c) (hs : set.has c.toNat)
    (hp : Completes program hay (t.address + 1, offset + 1)) :
    ∃ u ∈ (threads.foldl (Frontier.take program hay offset c) f).waiting,
      u.start ≤ t.start ∧ Completes program hay (u.address, offset + 1) := by
  induction threads generalizing f with
  | nil => cases ht
  | cons t' threads ih =>
    simp only [List.mem_cons, forall_eq_or_imp, List.pairwise_cons] at hle horder hreached
    obtain ⟨hsettled, hstart⟩ := h.take hc hle.1 hreached.1
    have hle' : ∀ v ∈ threads, ∀ u ∈ (f.take program hay offset c t').waiting, u.start ≤ v.start :=
      fun v hv u hu => Nat.le_trans (hstart u hu) (horder.1 v hv)
    rcases List.mem_cons.mp ht with rfl | ht
    · obtain ⟨u, hu, hup⟩ := h.waiting_of_take hle.1 hreached.1 hi hc hs hp
      exact ⟨u, (hsettled.foldl_take hc hle' horder.2 hreached.2).2.1 hu, hstart u hu, hup⟩
    · exact ih hsettled hle' horder.2 hreached.2 ht

end Frontier

/-- A thread that waits is in front of those that are complete or has begun no earlier than the first of them. -/
theorem mem_incomplete_or_complete (offset : Nat) {t : Thread} {threads : List Thread}
    (horder : threads.Pairwise fun t u => t.start ≤ u.start) (ht : t ∈ threads) :
    t ∈ incomplete program threads ∨ ∃ m, complete? program offset threads = some m ∧ m.start ≤ t.start := by
  induction threads with
  | nil => cases ht
  | cons u threads ih =>
    rw [List.pairwise_cons] at horder
    by_cases hu : u.address < program.size
    · have hfind : complete? program offset (u :: threads) = complete? program offset threads := by
        rw [complete?, List.find?_cons_of_neg (by simpa using hu), complete?]
      have htake : incomplete program (u :: threads) = u :: incomplete program threads :=
        List.takeWhile_cons_of_pos (by simpa using hu)
      rw [hfind, htake]
      rcases List.mem_cons.mp ht with rfl | ht
      · exact .inl List.mem_cons_self
      · exact (ih horder.2 ht).imp (List.mem_cons_of_mem _) id
    · refine .inr ⟨⟨u.start, offset, u.saves⟩, ?_, ?_⟩
      · rw [complete?, List.find?_cons_of_pos (by simpa using hu), Option.map_some]
      · rcases List.mem_cons.mp ht with rfl | ht
        · exact Nat.le_refl _
        · exact horder.1 t ht

/-- The threads in front of the first complete one have begun no later. -/
theorem start_le_complete {threads : List Thread} (horder : threads.Pairwise fun t u => t.start ≤ u.start)
    {m : Match} (hm : complete? program offset threads = some m) :
    ∀ t ∈ incomplete program threads, t.start ≤ m.start := by
  induction threads with
  | nil => simp [incomplete]
  | cons u threads ih =>
    rw [List.pairwise_cons] at horder
    by_cases hu : u.address < program.size
    · rw [complete?, List.find?_cons_of_neg (by simpa using hu)] at hm
      have htake : incomplete program (u :: threads) = u :: incomplete program threads :=
        List.takeWhile_cons_of_pos (by simpa using hu)
      obtain ⟨v, hv, hvm⟩ := Option.map_eq_some_iff.mp hm
      rw [htake, List.forall_mem_cons]
      exact ⟨hvm ▸ horder.1 v (List.mem_of_find?_eq_some hv), ih horder.2 hm⟩
    · rw [incomplete, List.takeWhile_cons_of_neg (by simpa using hu)]
      simp

/-- A search at an offset. What it has found is a path through the program, and the threads that wait are
preferred to it. -/
structure Searching (program : Array Instruction) (hay : Array Char) (offset : Nat) (f : Frontier)
    (best : Option Match) : Prop where
  settled : f.Settled program hay offset
  start_le : ∀ t ∈ f.waiting, t.start ≤ offset
  start_le_best : ∀ m ∈ best, ∀ t ∈ f.waiting, t.start ≤ m.start
  accepts : ∀ m ∈ best, Accepts program hay m.start m.stop

/-- Whether a search has found what begins at an offset or before it, or has a path to it still in front. -/
def Promising (program : Array Instruction) (hay : Array Char) (offset : Nat) (f : Frontier)
    (best : Option Match) (start : Nat) : Prop :=
  (∃ m ∈ best, m.start ≤ start) ∨
    (∃ t ∈ f.waiting, t.start ≤ start ∧ Completes program hay (t.address, offset)) ∨
      best = none ∧ offset ≤ start ∧ Completes program hay (0, start)

/-- The frontier after a thread has begun, unless a match has been found. -/
def begun (program : Array Instruction) (hay : Array Char) (offset : Nat) (f : Frontier)
    (best : Option Match) : Frontier :=
  if best.isSome then f else f.spread program hay offset (spreadBound program) [⟨0, offset, []⟩]

/-- The match that a search has found at an offset or before it. -/
def found (program : Array Instruction) (offset : Nat) (f : Frontier) (best : Option Match) : Option Match :=
  (complete? program offset f.waiting.reverse).orElse fun _ => best

/-- The threads that are preferred to the match found. -/
def preferred (program : Array Instruction) (f : Frontier) : List Thread := incomplete program f.waiting.reverse

section searching
variable {f : Frontier} {best : Option Match} {start : Nat}

theorem Searching.begin (h : Searching program hay offset f best) :
    Searching program hay offset (begun program hay offset f best) best := by
  cases best with
  | some m => exact h
  | none =>
    obtain ⟨hsettled, -, hle⟩ := h.settled.spread (t := ⟨0, offset, []⟩) h.start_le .refl
    exact ⟨hsettled, hle, by simp, by simp⟩

/-- A path that begins at the offset goes on from a thread that waits, if nothing has been found. -/
theorem Promising.begin (hp : Promising program hay offset f best start)
    (h : Searching program hay offset f best) :
    (∃ m ∈ best, m.start ≤ start) ∨
      (∃ t ∈ (begun program hay offset f best).waiting, t.start ≤ start ∧
        Completes program hay (t.address, offset)) ∨
      best = none ∧ offset < start ∧ Completes program hay (0, start) := by
  rcases hp with hm | ⟨t, ht, hle, hpath⟩ | ⟨rfl, hle, hpath⟩
  · exact .inl hm
  · refine .inr (.inl ⟨t, ?_, hle, hpath⟩)
    unfold begun
    split
    · exact ht
    · exact Frontier.mem_waiting_spread ht
  · rcases Nat.eq_or_lt_of_le hle with rfl | hlt
    · obtain ⟨hsettled, hentered, hstart⟩ := h.settled.spread (t := ⟨0, offset, []⟩) h.start_le .refl
      obtain ⟨t, ht, hpath⟩ := hsettled.waiting_of_completes (hentered (Nat.zero_le _)) hpath
      exact .inr (.inl ⟨t, ht, hstart t ht, hpath⟩)
    · exact .inr (.inr ⟨rfl, hlt, hpath⟩)

theorem Searching.inOrder (h : Searching program hay offset f best) :
    f.waiting.reverse.Pairwise fun t u => t.start ≤ u.start :=
  List.pairwise_reverse.mpr h.settled.inOrder

/-- A thread that is complete has come to the end of the program. -/
theorem Searching.complete_accepts (h : Searching program hay offset f best) {m : Match}
    (hm : complete? program offset f.waiting.reverse = some m) :
    Accepts program hay m.start m.stop ∧ ∃ t ∈ f.waiting, t.start = m.start := by
  simp only [complete?, Option.map_eq_some_iff] at hm
  obtain ⟨t, hfind, rfl⟩ := hm
  have ht : t ∈ f.waiting := List.mem_reverse.mp (List.mem_of_find?_eq_some hfind)
  have hge : program.size ≤ t.address := by simpa using List.find?_some hfind
  have hend : t.address = program.size := by
    refine (h.settled.waits t ht).resolve_right ?_
    rintro ⟨set, hi⟩
    exact absurd (Array.getElem?_eq_some_iff.mp hi).1 (Nat.not_lt.mpr hge)
  refine ⟨?_, t, ht, rfl⟩
  have hreached := h.settled.reached t ht
  rwa [hend] at hreached

theorem Searching.found_accepts (h : Searching program hay offset f best) {m : Match}
    (hm : m ∈ found program offset f best) : Accepts program hay m.start m.stop := by
  rw [found, Option.orElse_eq_or, Option.mem_def, Option.or_eq_some_iff] at hm
  rcases hm with hm | ⟨-, hm⟩
  · exact (h.complete_accepts hm).1
  · exact h.accepts m hm

/-- A match is only replaced by one that begins no later. -/
theorem Searching.found_le (h : Searching program hay offset f best) {m : Match} (hm : m ∈ best) :
    ∃ m' ∈ found program offset f best, m'.start ≤ m.start := by
  cases hc : complete? program offset f.waiting.reverse with
  | none => exact ⟨m, by simpa [found, hc] using hm, Nat.le_refl _⟩
  | some m' =>
    obtain ⟨-, t, ht, hstart⟩ := h.complete_accepts hc
    exact ⟨m', by simp [found, hc], hstart ▸ h.start_le_best m hm t ht⟩

theorem Searching.preferred_le (h : Searching program hay offset f best) {m : Match}
    (hm : m ∈ found program offset f best) : ∀ t ∈ preferred program f, t.start ≤ m.start := by
  rw [found, Option.orElse_eq_or, Option.mem_def, Option.or_eq_some_iff] at hm
  rcases hm with hm | ⟨-, hm⟩
  · exact start_le_complete h.inOrder hm
  · exact fun t ht => h.start_le_best m hm t (List.mem_reverse.mp ((List.takeWhile_prefix _).subset ht))

/-- A path goes on from a preferred thread, if what has been found begins later. -/
theorem Searching.promise (h : Searching program hay offset f best) {t : Thread} (ht : t ∈ f.waiting) :
    t ∈ preferred program f ∨ ∃ m ∈ found program offset f best, m.start ≤ t.start := by
  refine (mem_incomplete_or_complete offset h.inOrder (List.mem_reverse.mpr ht)).imp_right ?_
  rintro ⟨m, hm, hle⟩
  exact ⟨m, by simp [found, hm], hle⟩

theorem mem_waiting_of_preferred {t : Thread} (ht : t ∈ preferred program f) :
    t ∈ f.waiting ∧ t.address < program.size :=
  ⟨List.mem_reverse.mp ((List.takeWhile_prefix _).subset ht), by simpa using List.mem_takeWhile_imp ht⟩

/-- The preferred threads, and the frontier at which they are to wait behind the next character. -/
theorem Searching.next (h : Searching program hay offset f best) :
    Frontier.Settled program hay (offset + 1) { seen := f.seen } ∧
      ((preferred program f).Pairwise fun t u => t.start ≤ u.start) ∧
      ∀ t ∈ preferred program f, Path program hay (0, t.start) (t.address, offset) :=
  ⟨.initial h.settled.seen_size h.settled.seen_le, h.inOrder.sublist (List.takeWhile_prefix _).sublist,
    fun t ht => h.settled.reached t (mem_waiting_of_preferred ht).1⟩

/-- The search behind the next character. -/
theorem Searching.advance (h : Searching program hay offset f best) {c : Char} (hc : hay[offset]? = some c) :
    Searching program hay (offset + 1) (advance program hay offset c (preferred program f) f.seen)
      (found program offset f best) := by
  obtain ⟨hinitial, horder, hreached⟩ := h.next
  obtain ⟨hsettled, -, hbound⟩ := hinitial.foldl_take hc (by simp) horder hreached
  rw [← Frontier.advance_eq] at hsettled hbound
  refine ⟨hsettled, ?_, fun m hm => hbound m.start (by simp) (h.preferred_le hm), fun m hm => h.found_accepts hm⟩
  exact hbound (offset + 1) (by simp) fun t ht =>
    Nat.le_succ_of_le (h.start_le t (mem_waiting_of_preferred ht).1)

/-- A path from a preferred thread has a character in front of it and goes on behind it. -/
theorem Searching.completes_advance (h : Searching program hay offset f best) {t : Thread}
    (ht : t ∈ preferred program f) (hp : Completes program hay (t.address, offset)) :
    ∃ c, hay[offset]? = some c ∧
      ∃ u ∈ (Pattern.advance program hay offset c (preferred program f) f.seen).waiting,
        u.start ≤ t.start ∧ Completes program hay (u.address, offset + 1) := by
  obtain ⟨hinitial, horder, hreached⟩ := h.next
  obtain ⟨hwaiting, hlt⟩ := mem_waiting_of_preferred ht
  obtain ⟨set, c, hi, hc, hs, hrest⟩ := h.settled.waits_cases hwaiting hlt hp
  refine ⟨c, hc, ?_⟩
  rw [Frontier.advance_eq]
  exact hinitial.waiting_of_foldl_take (by simp) horder hreached ht hi hc hs hrest

/-- What is promised when a thread has begun is kept when the complete threads have been looked at. -/
theorem Searching.keeps_promise (h : Searching program hay offset f best)
    (hp : (∃ m ∈ best, m.start ≤ start) ∨
      (∃ t ∈ f.waiting, t.start ≤ start ∧ Completes program hay (t.address, offset)) ∨
      best = none ∧ offset < start ∧ Completes program hay (0, start)) :
    (∃ m ∈ found program offset f best, m.start ≤ start) ∨
      (∃ t ∈ preferred program f, t.start ≤ start ∧ Completes program hay (t.address, offset)) ∨
      found program offset f best = none ∧ offset < start ∧ Completes program hay (0, start) := by
  rcases hp with ⟨m, hm, hle⟩ | ⟨t, ht, hle, hpath⟩ | ⟨rfl, hlt, haccepts⟩
  · obtain ⟨m', hm', hle'⟩ := h.found_le hm
    exact .inl ⟨m', hm', Nat.le_trans hle' hle⟩
  · rcases h.promise ht with ht | ⟨m, hm, hle'⟩
    · exact .inr (.inl ⟨t, ht, hle, hpath⟩)
    · exact .inl ⟨m, hm, Nat.le_trans hle' hle⟩
  · cases hf : found program offset f none with
    | none => exact .inr (.inr ⟨rfl, hlt, haccepts⟩)
    | some m =>
      have hc : complete? program offset f.waiting.reverse = some m := by simpa [found] using hf
      obtain ⟨-, t, ht, hstart⟩ := h.complete_accepts hc
      exact .inl ⟨m, rfl, Nat.le_trans (hstart ▸ h.start_le t ht) (Nat.le_of_lt hlt)⟩

/-- A search finds paths, and none that begins later than one that it has in front. -/
theorem searchFrom_spec {n : Nat} (hn : offset + n = hay.size) (h : Searching program hay offset f best) :
    (∀ m ∈ searchFrom program hay n offset f best, Accepts program hay m.start m.stop) ∧
      ∀ start ≤ hay.size, Promising program hay offset f best start →
        ∃ m ∈ searchFrom program hay n offset f best, m.start ≤ start := by
  induction n generalizing offset f best with
  | zero =>
    have hresult : searchFrom program hay 0 offset f best =
        found program offset (begun program hay offset f best) best := by
      rw [searchFrom]
      exact ite_self _
    have hend : hay[offset]? = none := Array.getElem?_eq_none (by omega)
    rw [hresult]
    refine ⟨fun m hm => h.begin.found_accepts hm, fun start hle hp => ?_⟩
    rcases h.begin.keeps_promise (hp.begin h) with hm | ⟨t, ht, -, hpath⟩ | ⟨-, hlt, -⟩
    · exact hm
    · obtain ⟨c, hc, -⟩ := h.begin.completes_advance ht hpath
      rw [hend] at hc
      cases hc
    · omega
  | succ n ih =>
    have hlt : offset < hay.size := by omega
    have hc : hay[offset]? = some hay[offset] := Array.getElem?_eq_getElem hlt
    have hresult : searchFrom program hay (n + 1) offset f best =
        if (preferred program (begun program hay offset f best)).isEmpty &&
            (found program offset (begun program hay offset f best) best).isSome then
          found program offset (begun program hay offset f best) best
        else
          searchFrom program hay n (offset + 1)
            (advance program hay offset hay[offset] (preferred program (begun program hay offset f best))
              (begun program hay offset f best).seen)
            (found program offset (begun program hay offset f best) best) := by
      rw [searchFrom, hc]
      rfl
    rw [hresult]
    generalize hf' : begun program hay offset f best = f'
    have h' : Searching program hay offset f' best := hf' ▸ h.begin
    split
    · next hdone =>
      rw [Bool.and_eq_true, List.isEmpty_iff] at hdone
      refine ⟨fun m hm => h'.found_accepts hm, fun start hle hp => ?_⟩
      rcases h'.keeps_promise (hf' ▸ hp.begin h) with hm | ⟨t, ht, -⟩ | ⟨hnone, -⟩
      · exact hm
      · rw [hdone.1] at ht
        cases ht
      · simp [hnone] at hdone
    · obtain ⟨haccepts, hfound⟩ := ih (by omega) (h'.advance hc)
      refine ⟨haccepts, fun start hle hp => hfound start hle ?_⟩
      rcases h'.keeps_promise (hf' ▸ hp.begin h) with hm | ⟨t, ht, hts, hpath⟩ | ⟨hnone, hbehind⟩
      · exact .inl hm
      · obtain ⟨c, hc', u, hu, hle', hpath'⟩ := h'.completes_advance ht hpath
        obtain rfl := Option.some.inj (hc.symm.trans hc')
        exact .inr (.inl ⟨u, hu, Nat.le_trans hle' hts, hpath'⟩)
      · exact .inr (.inr ⟨hnone, hbehind⟩)

end searching

theorem Searching.initial (program : Array Instruction) (hay : Array Char) (offset : Nat) :
    Searching program hay offset { seen := Array.replicate (program.size + 1) 0 } none where
  settled := by
    refine .initial (by simp) fun address last hl => ?_
    rw [Array.getElem?_replicate] at hl
    split at hl
    · cases hl
      exact Nat.zero_le _
    · cases hl
  start_le := by simp
  start_le_best := by simp
  accepts := by simp

/-- A match is a path through the program. -/
theorem search_accepts {start : Nat} {m : Match} (h : search program hay start = some m) :
    Accepts program hay m.start m.stop := by
  unfold search at h
  split at h
  · next hle => exact (searchFrom_spec (by omega) (.initial program hay start)).1 m h
  · cases h

/-- No path begins in front of the match that is found. -/
theorem search_leftmost {first start stop : Nat} (h : Accepts program hay start stop) (hfirst : first ≤ start)
    (hstart : start ≤ hay.size) : ∃ m, search program hay first = some m ∧ m.start ≤ start := by
  rw [search, if_pos (Nat.le_trans hfirst hstart)]
  have hspec := searchFrom_spec (n := hay.size - first) (by omega) (.initial program hay first)
  exact hspec.2 start hstart (.inr (.inr ⟨rfl, hfirst, h.completes⟩))

/-- The match that `searchAll` goes on with. -/
theorem searchAll_succ (program : Array Instruction) (hay : Array Char) (n first : Nat) (lastStop : Option Nat) :
    searchAll program hay (n + 1) first lastStop =
      match (search program hay first).bind fun m =>
        if m.start = m.stop && lastStop == some m.stop then search program hay (first + 1) else some m with
      | some m => m :: searchAll program hay n m.stop (some m.stop)
      | none => [] := rfl

theorem searchAll_accepts {n first : Nat} {lastStop : Option Nat} :
    ∀ m ∈ searchAll program hay n first lastStop, Accepts program hay m.start m.stop := by
  induction n generalizing first lastStop with
  | zero => simp [searchAll]
  | succ n ih =>
    rw [searchAll_succ]
    split
    · next m hm =>
      refine List.forall_mem_cons.mpr ⟨?_, ih⟩
      obtain ⟨m', hm', hm⟩ := Option.bind_eq_some_iff.mp hm
      split at hm
      · exact search_accepts hm
      · cases hm
        exact search_accepts hm'
    · simp

/-- The last match does not end in front of where a path begins. -/
theorem searchAll_reaches {n first start stop : Nat} {lastStop : Option Nat}
    (h : Accepts program hay start stop) (hstart : start ≤ hay.size)
    (hlast : lastStop = none ∧ first ≤ start ∧ hay.size + 1 < n + first ∨
      lastStop = some first ∧ first < start ∧ hay.size < n + first) :
    ∃ m, (searchAll program hay n first lastStop).getLast? = some m ∧ start ≤ m.stop := by
  induction n generalizing first lastStop with
  | zero => omega
  | succ n ih =>
    have hfirst : first ≤ start := by omega
    obtain ⟨m₀, hm₀, hle₀⟩ := search_leftmost h hfirst hstart
    have hwithin₀ := search_within hm₀
    -- An empty match directly behind the one before it is passed over, but then the path begins later.
    obtain ⟨m, hm, hle, hwithin, hlater⟩ : ∃ m, ((search program hay first).bind fun m =>
        if m.start = m.stop && lastStop == some m.stop then search program hay (first + 1) else some m) = some m ∧
          m.start ≤ start ∧ m.Within first hay.size ∧ (lastStop = some first → first < m.stop) := by
      rw [hm₀, Option.bind_some]
      split
      · next hempty =>
        simp only [Bool.and_eq_true, decide_eq_true_eq, beq_iff_eq] at hempty
        have hbehind : first + 1 ≤ start := by
          rcases hlast with ⟨hnone, -⟩ | ⟨-, hlt, -⟩
          · simp [hnone] at hempty
          · exact hlt
        obtain ⟨m, hm, hle⟩ := search_leftmost h hbehind hstart
        have hwithin := search_within hm
        have hge := hwithin.first_le
        have hse := hwithin.start_le
        exact ⟨m, hm, hle, hwithin.mono (Nat.le_succ first), fun _ => by omega⟩
      · next hnonempty =>
        refine ⟨m₀, rfl, hle₀, hwithin₀, fun hlast => ?_⟩
        simp only [Bool.and_eq_true, decide_eq_true_eq, beq_iff_eq, hlast, Option.some.injEq, not_and] at hnonempty
        have hge := hwithin₀.first_le
        have hse := hwithin₀.start_le
        omega
    have hge := hwithin.first_le
    have hse := hwithin.start_le
    rw [searchAll_succ, hm]
    dsimp only
    by_cases hreached : start ≤ m.stop
    · -- Those behind it end no earlier.
      have horder := (searchAll_inOrder program hay n m.stop (some m.stop)).within
      cases hrest : searchAll program hay n m.stop (some m.stop) with
      | nil => exact ⟨m, rfl, hreached⟩
      | cons m' rest =>
        rw [hrest] at horder
        refine ⟨(m' :: rest).getLast (List.cons_ne_nil _ _), ?_, ?_⟩
        · rw [List.getLast?_cons_of_ne_nil (List.cons_ne_nil _ _),
            List.getLast?_eq_some_getLast (List.cons_ne_nil _ _)]
        · have hlast := horder _ (List.getLast_mem (List.cons_ne_nil m' rest))
          exact Nat.le_trans hreached (Nat.le_trans hlast.first_le hlast.start_le)
    · have hroom : hay.size < n + m.stop := by
        rcases hlast with ⟨-, -, hroom⟩ | ⟨hlast, -, hroom⟩
        · omega
        · have := hlater hlast
          omega
      obtain ⟨last, hl, hreach⟩ := ih (.inr ⟨rfl, by omega, hroom⟩)
      refine ⟨last, ?_, hreach⟩
      rw [List.getLast?_cons_of_ne_nil, hl]
      rintro hnil
      simp [hnil] at hl

end Pattern

namespace Matcher
variable {m : Matcher} {t : Text}

theorem isMatch_iff :
    m.isMatch t ↔ ∃ start stop, stop ≤ t.length ∧ Pattern.Accepts m.program t.toArray start stop := by
  rw [isMatch, find?, Option.isSome_iff_exists]
  constructor
  · rintro ⟨hit, h⟩
    have hwithin := Pattern.search_within h
    rw [List.size_toArray] at hwithin
    exact ⟨hit.start, hit.stop, hwithin.stop_le, Pattern.search_accepts h⟩
  · rintro ⟨start, stop, hle, h⟩
    have hstart : start ≤ t.toArray.size := by
      rw [List.size_toArray]
      exact Nat.le_trans (Pattern.Path.offset_le h) hle
    obtain ⟨hit, hhit, -⟩ := Pattern.search_leftmost h (Nat.zero_le _) hstart
    exact ⟨hit, hhit⟩

theorem find?_mem_findAll {hit : Match} (h : m.find? t = some hit) : hit ∈ m.findAll t := by
  rw [find?] at h
  rw [findAll, Pattern.searchAll_succ, h]
  simp

/-- The last of all matches does not end in front of where a path begins. -/
theorem findAll_reaches {start stop : Nat} (h : Pattern.Accepts m.program t.toArray start stop)
    (hle : start ≤ t.length) : ∃ hit, (m.findAll t).getLast? = some hit ∧ start ≤ hit.stop := by
  refine Pattern.searchAll_reaches h (by rwa [List.size_toArray]) (.inl ⟨rfl, Nat.zero_le _, ?_⟩)
  rw [List.size_toArray]
  omega

end Matcher
end ExEditor
