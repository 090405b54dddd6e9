import Mathlib.Data.List.Basic
import ExEditor.Pattern.Search

/-! The matches of a text lie inside it, one behind the other, and their groups behind their starts. -/
namespace ExEditor

/-- A match between two offsets whose saves are not in front of it. -/
structure Match.Within (m : Match) (first last : Nat) : Prop where
  first_le : first ≤ m.start
  start_le : m.start ≤ m.stop
  stop_le : m.stop ≤ last
  saves_ge : ∀ save ∈ m.saves, m.start ≤ save.2

/-- Matches between two offsets, none of which begins before the one in front of it ends. -/
def Match.InOrder (last : Nat) : (first : Nat) → List Match → Prop
  | _, [] => True
  | first, m :: others => m.Within first last ∧ InOrder last m.stop others

theorem Match.Within.mono {m : Match} {first first' last : Nat} (h : m.Within first last)
    (hf : first' ≤ first) : m.Within first' last :=
  { h with first_le := Nat.le_trans hf h.first_le }

theorem Match.InOrder.mono {last first first' : Nat} {ms : List Match} (h : InOrder last first ms)
    (hf : first' ≤ first) : InOrder last first' ms := by
  cases ms with
  | nil => trivial
  | cons m others => exact ⟨h.1.mono hf, h.2⟩

theorem Match.Within.group_ge {m : Match} {first last index : Nat} (h : m.Within first last)
    {span : Nat × Nat} (hg : m.group? index = some span) : m.start ≤ span.1 := by
  unfold group? at hg
  split at hg
  · cases hg
    exact Nat.le_refl _
  · simp only [Option.pure_def, Option.bind_eq_bind, Option.bind_eq_some_iff, Option.some.injEq] at hg
    obtain ⟨a, ha, b, -, rfl⟩ := hg
    obtain ⟨front, back, hs, -⟩ := List.lookup_eq_some_iff.mp ha
    exact h.saves_ge _ (hs ▸ List.mem_append_cons_self)

theorem Match.InOrder.within {last first : Nat} {ms : List Match} (h : InOrder last first ms) :
    ∀ m ∈ ms, m.Within first last := by
  induction ms generalizing first with
  | nil => simp
  | cons m others ih =>
    intro m' hm
    rcases List.mem_cons.mp hm with rfl | hm
    · exact h.1
    · exact (ih h.2 m' hm).mono (Nat.le_trans h.1.first_le h.1.start_le)

namespace Pattern

section threads
variable {program : Array Instruction} {hay : Array Char} {origin offset : Nat}

/-- A thread that began between two offsets and has saved none from before its start. -/
structure Thread.Within (t : Thread) (origin offset : Nat) : Prop where
  origin_le : origin ≤ t.start
  start_le : t.start ≤ offset
  saves_ge : ∀ save ∈ t.saves, t.start ≤ save.2

theorem Thread.Within.step {t : Thread} (h : t.Within origin offset) (address : Nat) :
    Within { t with address } origin offset := ⟨h.1, h.2, h.3⟩

theorem Thread.Within.later {t : Thread} (h : t.Within origin offset) :
    t.Within origin (offset + 1) := ⟨h.1, Nat.le_succ_of_le h.2, h.3⟩

/-- Where an instruction leads, threads are as they were. -/
theorem Thread.Within.follow {t : Thread} {i : Instruction} {threads : List Thread}
    (h : t.Within origin offset) (hf : t.follow hay offset i = some threads) :
    ∀ u ∈ threads, u.Within origin offset := by
  cases i with
  | take set => simp [Thread.follow] at hf
  | check assertion asciiWords =>
    simp only [Thread.follow, Option.some.injEq] at hf
    subst hf
    split
    · simpa using h.step _
    · simp
  | save slot =>
    simp only [Thread.follow, Option.some.injEq] at hf
    subst hf
    simpa using ⟨h.1, h.2, by simpa using ⟨h.start_le, fun a b => h.saves_ge (a, b)⟩⟩
  | fork preferNext ahead =>
    simp only [Thread.follow, Option.some.injEq] at hf
    subst hf
    split <;> simpa using ⟨h.step _, h.step _⟩
  | loop preferBack back =>
    simp only [Thread.follow, Option.some.injEq] at hf
    subst hf
    split <;> simpa using ⟨h.step _, h.step _⟩
  | jump ahead =>
    simp only [Thread.follow, Option.some.injEq] at hf
    subst hf
    simpa using h.step _

/-- A frontier of such threads. -/
def Frontier.Within (f : Frontier) (origin offset : Nat) : Prop :=
  ∀ t ∈ f.waiting, t.Within origin offset

theorem Frontier.Within.push {f : Frontier} {t : Thread} (h : f.Within origin offset)
    (ht : t.Within origin offset) (seen : Array Nat) :
    Within { seen, waiting := t :: f.waiting } origin offset := by
  simpa [Within] using ⟨ht, h⟩

theorem Frontier.Within.spread {n : Nat} {threads : List Thread} {f : Frontier}
    (h : f.Within origin offset) (ht : ∀ t ∈ threads, t.Within origin offset) :
    (f.spread program hay offset n threads).Within origin offset := by
  fun_induction Frontier.spread program hay offset n threads f with
  | case1 => exact h
  | case2 => exact h
  | case3 n t rest f _ ih => exact ih h (fun u hu => ht u (List.mem_cons_of_mem _ hu))
  | case4 n t rest f _ f' _ ih =>
    exact ih (h.push (ht t List.mem_cons_self) _) (fun u hu => ht u (List.mem_cons_of_mem _ hu))
  | case5 n t rest f _ f' i _ threads hf ih =>
    refine ih h fun u hu => ?_
    rcases List.mem_append.mp hu with hu | hu
    · exact (ht t List.mem_cons_self).follow hf u hu
    · exact ht u (List.mem_cons_of_mem _ hu)
  | case6 n t rest f _ f' i _ _ ih =>
    exact ih (h.push (ht t List.mem_cons_self) _) (fun u hu => ht u (List.mem_cons_of_mem _ hu))

/-- A character takes threads to the offset behind it. -/
theorem advance_within {c : Char} {threads : List Thread} {seen : Array Nat}
    (ht : ∀ t ∈ threads, t.Within origin offset) :
    (advance program hay offset c threads seen).Within origin (offset + 1) := by
  refine List.foldlRecOn (motive := fun f => Frontier.Within f origin (offset + 1)) threads _
    (by simp [Frontier.Within]) fun f hf t hmem => ?_
  split
  · split
    · refine hf.spread ?_
      simpa using ((ht t hmem).step _).later
    · exact hf
  · exact hf

theorem complete_within {f : Frontier} {m : Match} (hf : f.Within origin offset)
    (hs : offset ≤ hay.size) (h : complete? program offset f.waiting.reverse = some m) :
    m.Within origin hay.size := by
  simp only [complete?, Option.map_eq_some_iff] at h
  obtain ⟨t, hfind, rfl⟩ := h
  have hw := hf t (List.mem_reverse.mp (List.mem_of_find?_eq_some hfind))
  exact ⟨hw.origin_le, hw.start_le, hs, hw.saves_ge⟩

theorem complete_orElse_within {f : Frontier} {best : Option Match} (hf : f.Within origin offset)
    (hs : offset ≤ hay.size) (hb : ∀ m ∈ best, m.Within origin hay.size) :
    ∀ m ∈ (complete? program offset f.waiting.reverse).orElse fun _ => best,
      m.Within origin hay.size := by
  intro m hm
  rw [Option.orElse_eq_or, Option.mem_def, Option.or_eq_some_iff] at hm
  rcases hm with h | ⟨-, h⟩
  · exact complete_within hf hs h
  · exact hb m h

/-- The frontier after a thread has begun, unless a match has been found. -/
theorem Frontier.Within.begin {f : Frontier} (h : f.Within origin offset) (ho : origin ≤ offset)
    (found : Bool) :
    Within (if found then f else f.spread program hay offset (spreadBound program) [⟨0, offset, []⟩])
      origin offset := by
  split
  · exact h
  · exact h.spread (by simpa using ⟨ho, Nat.le_refl _, by simp⟩)

/-- What a search from an offset finds begins at the origin or behind it and ends in the text. -/
theorem searchFrom_within {n : Nat} {f : Frontier} {best : Option Match}
    (hn : offset + n ≤ hay.size) (ho : origin ≤ offset) (hf : f.Within origin offset)
    (hb : ∀ m ∈ best, m.Within origin hay.size) :
    ∀ m ∈ searchFrom program hay n offset f best, m.Within origin hay.size := by
  induction n generalizing offset f best with
  | zero =>
    unfold searchFrom
    extract_lets f' threads best'
    have hf' : f'.Within origin offset := hf.begin ho _
    have hb' : ∀ m ∈ best', m.Within origin hay.size := complete_orElse_within hf' (by omega) hb
    split <;> exact hb'
  | succ n ih =>
    unfold searchFrom
    extract_lets f' threads best'
    have hf' : f'.Within origin offset := hf.begin ho _
    have hb' : ∀ m ∈ best', m.Within origin hay.size := complete_orElse_within hf' (by omega) hb
    split
    · exact hb'
    · have ht : ∀ t ∈ threads, t.Within origin offset := fun t ht =>
        hf' t (List.mem_reverse.mp ((List.takeWhile_prefix _).subset ht))
      dsimp only
      split
      · exact ih (by omega) (by omega) (advance_within ht) hb'
      · exact hb'

end threads

theorem search_within {program : Array Instruction} {hay : Array Char} {start : Nat} {m : Match}
    (h : search program hay start = some m) : m.Within start hay.size := by
  unfold search at h
  split at h
  · exact searchFrom_within (by omega) (Nat.le_refl _) (by simp [Frontier.Within]) (by simp) m h
  · cases h

/-- Each match is searched for where the one before it ended. -/
theorem searchAll_inOrder (program : Array Instruction) (hay : Array Char) (n start : Nat)
    (lastStop : Option Nat) : Match.InOrder hay.size start (searchAll program hay n start lastStop) := by
  induction n generalizing start lastStop with
  | zero => trivial
  | succ n ih =>
    unfold searchAll
    extract_lets found
    cases h : found with
    | none => trivial
    | some m =>
      refine ⟨?_, ih m.stop _⟩
      obtain ⟨m', hs, hm⟩ := Option.bind_eq_some_iff.mp h
      split at hm
      · exact (search_within hm).mono (Nat.le_succ start)
      · cases hm
        exact search_within hs

end Pattern

namespace Matcher

theorem findAll_inOrder (m : Matcher) (hay : Text) : Match.InOrder hay.length 0 (m.findAll hay) := by
  have h := Pattern.searchAll_inOrder m.program hay.toArray (hay.length + 2) 0 none
  rwa [List.size_toArray] at h

theorem find_inOrder (m : Matcher) (hay : Text) : Match.InOrder hay.length 0 (m.find? hay).toList := by
  cases h : m.find? hay with
  | none => trivial
  | some found =>
    have hw := Pattern.search_within h
    rw [List.size_toArray] at hw
    exact ⟨hw, trivial⟩

end Matcher
end ExEditor
