import ExEditor.Proofs.Store.Shelf
import ExEditor.Register
import Mathlib.Data.List.Induction
import Mathlib.Tactic.FinCases
import Mathlib.Tactic.IntervalCases

/-! What registers hold, told by what was written to them. The slots in the store are one side, which a delete
shifts by one; the other is the list of all writes. `writes_fill_registers` reads every register off that list. -/
namespace ExEditor

namespace Shelf

/-- The commands of a macro that is kept. -/
def commands? (s : Shelf) (name : Text) : Option (List Text) := s.store.commands? name

theorem commands?_setMacro (s : Shelf) (name other : Text) (commands : List Text) :
    (s.setMacro name commands).commands? other = if other = name then some commands else s.commands? other := by
  unfold commands? setMacro
  rw [update_store]
  exact Table.find?_insert _ _ _ _

theorem commands?_appendMacro (s : Shelf) (name other command : Text) :
    (s.appendMacro name command).commands? other =
      if other = name then some ((s.commands? name).getD [] ++ [command]) else s.commands? other := by
  unfold commands? appendMacro
  rw [update_store]
  exact Table.find?_insert _ _ _ _

theorem commands?_removeMacro (s : Shelf) (name other : Text) :
    (s.removeMacro name).1.commands? other = if other = name then none else s.commands? other := by
  unfold commands? removeMacro
  cases hc : s.store.commands? name with
  | none =>
    have hnone : s.store.removeMacro? name = none := by simp [Store.removeMacro?, hc]
    rw [hnone]
    by_cases ho : other = name
    · rw [if_pos ho, ho]
      exact hc
    · rw [if_neg ho]
      rfl
  | some commands =>
    have hsome : s.store.removeMacro? name = some { s.store with macros := s.store.macros.erase name } := by
      simp [Store.removeMacro?, hc]
    rw [hsome]
    dsimp only [update?]
    rw [update_store]
    exact Table.find?_erase _ _ _

end Shelf

namespace Registers

/-- A call that writes to registers. -/
inductive Write
  | yank (register : Option RegisterName) (t : Text)
  | delete (register : Option RegisterName) (t : Text)
  | set (register : RegisterName) (t : Text)
  | inserted (t : Text)

namespace Write

/-- The register that a write names, with the text. -/
def named? : Write → Option (RegisterName × Text)
  | yank (some register) t | delete (some register) t | set register t => some (register, t)
  | _ => none

/-- The text that a write brings to a register that it names. -/
def to? (register : RegisterName) (w : Write) : Option Text :=
  w.named?.bind fun (name, t) => if name = register then some t else none

/-- The text of a yank that names no register. -/
def yanked? : Write → Option Text
  | yank none t => some t
  | _ => none

/-- The text of a delete that names no register. -/
def deleted? : Write → Option Text
  | delete none t => some t
  | _ => none

/-- Text that was inserted, or written to the register for it. -/
def inserted? : Write → Option Text
  | inserted t => some t
  | w => w.to? .lastInsert

/-- Text that goes to the clipboard. -/
def clipped? (w : Write) : Option Text := (w.to? .clipboard).or (w.yanked?.or w.deleted?)

/-- Whether a write names no register at all, or one that is written with another sign than a digit. -/
def NamesNoDigit (w : Write) : Prop :=
  ∀ name t, w.named? = some (name, t) → ∃ c, RegisterName.ofChar? c = some name ∧ c.isDigit = false

/-- Whether a write has to do with a register. -/
def Reaches (w : Write) : RegisterName → Prop
  | .named c | .append c => (w.to? (.named c)).isSome ∨ (w.to? (.append c)).isSome
  | .numbered _ => w.deleted?.isSome
  | .yank => w.yanked?.isSome
  | .lastInsert => w.inserted?.isSome
  | .clipboard => w.clipped?.isSome
  | .blackHole => False

end Write

/-- The registers after a write. -/
def write (r : Registers) : Write → Registers
  | .yank register t => r.yank register t
  | .delete register t => r.delete register t
  | .set register t => r.set register t
  | .inserted t => r.inserted t

/-- The registers after writes. -/
def writes (r : Registers) (list : List Write) : Registers := list.foldl write r

theorem writes_concat (r : Registers) (list : List Write) (w : Write) :
    r.writes (list ++ [w]) = (r.writes list).write w := by
  simp [writes]

/-- The text of the latest write of a kind, if there is one. -/
def latest? (kind : Write → Option Text) (list : List Write) : Option Text := list.reverse.findSome? kind

theorem latest?_concat (kind : Write → Option Text) (list : List Write) (w : Write) :
    latest? kind (list ++ [w]) = (kind w).or (latest? kind list) := by
  unfold latest?
  cases h : kind w <;> simp [h]

/-- The writes after the latest one of a kind, all of them if there is none. -/
def since (kind : Write → Option Text) (list : List Write) : List Write :=
  (list.reverse.takeWhile fun w => (kind w).isNone).reverse

theorem since_concat (kind : Write → Option Text) (list : List Write) (w : Write) :
    since kind (list ++ [w]) = if (kind w).isNone then since kind list ++ [w] else [] := by
  unfold since
  cases h : kind w <;> simp [h]

/-- The texts that writes of one kind have left, where those of another kind add to them. -/
def pieces (kind added : Write → Option Text) (list : List Write) : List Text :=
  (latest? kind list).toList ++ (since kind list).filterMap added

theorem pieces_concat (kind added : Write → Option Text) (list : List Write) (w : Write) :
    pieces kind added (list ++ [w]) =
      match kind w with
      | some t => [t]
      | none => pieces kind added list ++ (added w).toList := by
  unfold pieces
  rw [latest?_concat, since_concat]
  cases hk : kind w with
  | some t => simp
  | none => cases ha : added w <;> simp [ha]

/-- The text that a register holds after writes to registers that were empty. -/
def told (list : List Write) : RegisterName → Text
  | .named c | .append c => (pieces (Write.to? (.named c)) (Write.to? (.append c)) list).flatten
  | .numbered n => ((list.filterMap Write.deleted?).reverse[n - 1]?).getD []
  | .yank => (latest? Write.yanked? list).getD []
  | .lastInsert => (latest? Write.inserted? list).getD []
  | .clipboard => (latest? Write.clipped? list).getD []
  | .blackHole => []

/-- A write changes what is told of the registers that it reaches alone. -/
theorem told_concat_of_not {name : RegisterName} {w : Write} (h : ¬ w.Reaches name) (list : List Write) :
    told (list ++ [w]) name = told list name := by
  cases name with
  | named c | append c =>
    obtain ⟨hput, hadd⟩ := not_or.mp h
    simp only [told, pieces_concat, Option.not_isSome_iff_eq_none.mp hput, Option.not_isSome_iff_eq_none.mp hadd,
      Option.toList_none, List.append_nil]
  | numbered n =>
    have hnone : w.deleted? = none := Option.not_isSome_iff_eq_none.mp h
    simp [told, List.filterMap_append, hnone]
  | yank | lastInsert | clipboard =>
    have hnone := Option.not_isSome_iff_eq_none.mp h
    simp only [told, latest?_concat, hnone, Option.none_or]
  | blackHole => rfl

/-! The slots. -/

/-- The texts in the slot of a register. -/
def fragments (r : Registers) (slot : Text) : List Text := (r.shelf.commands? slot).getD []

theorem get_of_slot {name : RegisterName} {slot : Text} (h : name.slot? = some slot) (r : Registers) :
    r.get name = (r.fragments slot).flatten := by
  simp only [get, h]
  rfl

theorem ofNat_inj {m n : Nat} (hm : m ≤ 9) (hn : n ≤ 9) (h : Text.ofNat m = Text.ofNat n) : m = n := by
  have hall : ∀ m ≤ 9, ∀ n ≤ 9, Text.ofNat m = Text.ofNat n → m = n := by decide
  exact hall m hm n hn h

theorem commands?_shiftFrom (s : Shelf) (n : Nat) (slot : Text) :
    (shiftFrom s n).commands? slot =
      if slot = Text.ofNat (n + 1) then s.commands? (Text.ofNat n) else s.commands? slot := by
  have hcommands : s.commands? (Text.ofNat n) = s.store.commands? (Text.ofNat n) := rfl
  rw [hcommands, shiftFrom]
  cases s.store.commands? (Text.ofNat n) with
  | some commands => exact s.commands?_setMacro _ _ _
  | none => exact s.commands?_removeMacro _ _

/-- The numbered registers up to one, the highest first. -/
def downFrom (m : Nat) : List Nat := (List.range' 1 m).reverse

theorem downFrom_succ (m : Nat) : downFrom (m + 1) = (m + 1) :: downFrom m := by
  simp [downFrom, List.range'_1_concat, Nat.add_comm]

/-- What the registers up to one hold moves up by one; what the last of them held before is still there when it
is moved, since the highest moves first. -/
theorem commands?_shift {m : Nat} (hm : m ≤ 8) (s : Shelf) :
    (∀ n, 1 ≤ n → n ≤ m →
      ((downFrom m).foldl shiftFrom s).commands? (Text.ofNat (n + 1)) = s.commands? (Text.ofNat n)) ∧
    ∀ slot, (∀ n, 1 ≤ n → n ≤ m → slot ≠ Text.ofNat (n + 1)) →
      ((downFrom m).foldl shiftFrom s).commands? slot = s.commands? slot := by
  induction m generalizing s with
  | zero => exact ⟨fun n h₁ h₂ => by omega, fun slot _ => rfl⟩
  | succ m ih =>
    rw [downFrom_succ, List.foldl_cons]
    obtain ⟨hmoved, hother⟩ := ih (by omega) (shiftFrom s (m + 1))
    constructor
    · intro n h₁ hn
      by_cases hlast : n = m + 1
      · subst hlast
        rw [hother _ fun k hk hkm heq => by have := ofNat_inj (by omega) (by omega) heq; omega,
          commands?_shiftFrom, if_pos rfl]
      · rw [hmoved n h₁ (by omega), commands?_shiftFrom,
          if_neg fun heq => by have := ofNat_inj (by omega) (by omega) heq; omega]
    · intro slot hslot
      rw [hother slot fun n h₁ hn => hslot n h₁ (by omega), commands?_shiftFrom,
        if_neg (hslot (m + 1) (by omega) (Nat.le_refl _))]

theorem fragments_set (r : Registers) (name : RegisterName) (t slot : Text) :
    (r.set name t).fragments slot =
      if name.slot? = some slot then (match name with | .append _ => r.fragments slot | _ => []) ++ [t]
      else r.fragments slot := by
  cases name with
  | named c | numbered c | yank | lastInsert =>
    simp only [fragments, set, RegisterName.slot?, Option.getD_some, Shelf.commands?_setMacro, Option.some.injEq,
      List.nil_append, eq_comm (b := slot)]
    split <;> rfl
  | append c =>
    simp only [fragments, set, RegisterName.slot?, Shelf.commands?_appendMacro, Option.some.injEq,
      eq_comm (b := slot)]
    split
    · next h => rw [h]; rfl
    · rfl
  | clipboard => rfl
  | blackHole => rfl

/-- The shelf after what was deleted before has moved up. -/
def shifted (shelf : Shelf) : Shelf := (downFrom 8).foldl shiftFrom shelf

theorem fragments_delete_eq (r : Registers) (t slot : Text) :
    (r.delete none t).fragments slot =
      (Registers.set { r with shelf := shifted r.shelf } (.numbered 1) t).fragments slot := by
  have hdown : downFrom 8 = [8, 7, 6, 5, 4, 3, 2, 1] := rfl
  unfold delete shifted
  rw [hdown]
  generalize [8, 7, 6, 5, 4, 3, 2, 1].foldl shiftFrom r.shelf = shelf
  rfl

/-- A delete that names no register leaves all slots but those of the numbered ones. -/
theorem fragments_delete {slot : Text} (h : ∀ n, 1 ≤ n → n ≤ 9 → slot ≠ Text.ofNat n) (r : Registers) (t : Text) :
    (r.delete none t).fragments slot = r.fragments slot := by
  have hone : (RegisterName.numbered 1).slot? ≠ some slot := by
    simpa [RegisterName.slot?, eq_comm] using h 1 (Nat.le_refl 1) (by omega)
  have hshift := (commands?_shift (Nat.le_refl 8) r.shelf).2 slot fun n h₁ hn => h (n + 1) (by omega) (by omega)
  rw [fragments_delete_eq, fragments_set, if_neg hone]
  unfold fragments shifted
  dsimp only
  rw [hshift]

/-! What a write does to a slot. -/

/-- A small letter. -/
def IsLetter (c : Char) : Prop := 'a' ≤ c ∧ c ≤ 'z'

theorem isLetter_toLower {c : Char} (h : 'A' ≤ c) (h' : c ≤ 'Z') : IsLetter c.toLower := by
  have hlow : 65 ≤ c.toNat := h
  have hhigh : c.toNat ≤ 90 := h'
  rw [← Char.ofNat_toNat c]
  generalize c.toNat = n at hlow hhigh ⊢
  unfold IsLetter
  interval_cases n <;> decide

theorem IsLetter.ne_ofNat {c : Char} (h : IsLetter c) {n : Nat} (hn : n ≤ 9) : [c] ≠ Text.ofNat n := by
  intro heq
  have hdigit : ∀ n ≤ 9, (Text.ofNat n).all (· < 'a') := by decide
  have hlt := List.all_eq_true.mp (hdigit n hn) c (heq ▸ List.mem_singleton_self c)
  exact absurd (of_decide_eq_true hlt) (Char.not_lt.mpr h.1)

theorem IsLetter.ne_dot {c : Char} (h : IsLetter c) : c ≠ '.' := by
  rintro rfl
  exact absurd h.1 (by decide)

theorem IsLetter.ne_zero {c : Char} (h : IsLetter c) : c ≠ '0' := by
  rintro rfl
  exact absurd h.1 (by decide)

/-- The registers by the signs that they are written with. -/
theorem name_of_char {c : Char} {name : RegisterName} (h : RegisterName.ofChar? c = some name) :
    (∃ l, IsLetter l ∧ (name = .named l ∨ name = .append l)) ∨
      c.isDigit ∧ (name = .yank ∨ ∃ n, 1 ≤ n ∧ n ≤ 9 ∧ name = .numbered n) ∨
      name = .lastInsert ∨ name = .clipboard ∨ name = .blackHole := by
  by_cases hdigit : '1' ≤ c ∧ c ≤ '9'
  · have hone : 49 ≤ c.toNat := hdigit.1
    have hnine : c.toNat ≤ 57 := hdigit.2
    rw [← Char.ofNat_toNat c] at h ⊢
    generalize c.toNat = n at hone hnine h ⊢
    interval_cases n <;> cases h <;> exact .inr (.inl ⟨rfl, .inr ⟨_, by decide, by decide, rfl⟩⟩)
  · unfold RegisterName.ofChar? at h
    split_ifs at h with hlower hupper hzero hdot hclip hhole <;> cases h
    · exact .inl ⟨c, hlower, .inl rfl⟩
    · exact .inl ⟨c.toLower, isLetter_toLower hupper.1 hupper.2, .inr rfl⟩
    · exact .inr (.inl ⟨hzero ▸ rfl, .inl rfl⟩)
    all_goals simp

theorem name_of_sign {c : Char} {name : RegisterName} (h : RegisterName.ofChar? c = some name)
    (hc : c.isDigit = false) :
    (∃ l, IsLetter l ∧ (name = .named l ∨ name = .append l)) ∨
      name = .lastInsert ∨ name = .clipboard ∨ name = .blackHole := by
  rcases name_of_char h with hletter | ⟨hdigit, -⟩ | hother
  · exact .inl hletter
  · rw [hc] at hdigit
    cases hdigit
  · exact .inr hother

theorem write_of_named {w : Write} {name : RegisterName} {t : Text} (h : w.named? = some (name, t))
    (r : Registers) : r.write w = r.set name t := by
  unfold Write.named? at h
  split at h <;> cases h <;> rfl

/-- A write names a register, or it is a yank, a delete or an insertion. -/
theorem Write.cases (w : Write) :
    (∃ name t, w.named? = some (name, t)) ∨ (∃ t, w = .yank none t) ∨ (∃ t, w = .delete none t) ∨
      ∃ t, w = .inserted t := by
  cases w with
  | yank register t => cases register <;> simp [named?]
  | delete register t => cases register <;> simp [named?]
  | set register t => simp [named?]
  | inserted t => simp

variable {w : Write}

theorem to?_of_named {name : RegisterName} {t : Text} (h : w.named? = some (name, t)) (register : RegisterName) :
    w.to? register = if name = register then some t else none := by
  simp [Write.to?, h]

theorem kinds_of_named {name : RegisterName} {t : Text} (h : w.named? = some (name, t)) :
    w.yanked? = none ∧ w.deleted? = none ∧ w.inserted? = w.to? .lastInsert := by
  unfold Write.named? at h
  split at h <;> first | exact ⟨rfl, rfl, rfl⟩ | cases h

theorem fragments_write_letter (hw : w.NamesNoDigit) {c : Char} (hc : IsLetter c) (r : Registers) :
    (r.write w).fragments [c] =
      match w.to? (.named c) with
      | some t => [t]
      | none => r.fragments [c] ++ (w.to? (.append c)).toList := by
  rcases w.cases with ⟨name, t, h⟩ | ⟨t, rfl⟩ | ⟨t, rfl⟩ | ⟨t, rfl⟩
  · obtain ⟨sign, hsign, hdigit⟩ := hw name t h
    rw [write_of_named h, fragments_set, to?_of_named h, to?_of_named h]
    rcases name_of_sign hsign hdigit with ⟨l, hl, rfl | rfl⟩ | rfl | rfl | rfl
    · by_cases hlc : l = c <;> simp [RegisterName.slot?, hlc]
    · by_cases hlc : l = c <;> simp [RegisterName.slot?, hlc]
    · simp [RegisterName.slot?, hc.ne_dot.symm]
    · simp [RegisterName.slot?]
    · simp [RegisterName.slot?]
  · have h := r.fragments_set .yank t [c]
    rw [if_neg (by simp [RegisterName.slot?, hc.ne_zero.symm])] at h
    exact h.trans (List.append_nil _).symm
  · exact (r.fragments_delete (fun n _ hn => hc.ne_ofNat hn) t).trans (List.append_nil _).symm
  · have h := r.fragments_set .lastInsert t [c]
    rw [if_neg (by simp [RegisterName.slot?, hc.ne_dot.symm])] at h
    exact h.trans (List.append_nil _).symm

theorem fragments_write_zero (hw : w.NamesNoDigit) (r : Registers) :
    (r.write w).fragments ['0'] = (w.yanked?.map ([·])).getD (r.fragments ['0']) := by
  rcases w.cases with ⟨name, t, h⟩ | ⟨t, rfl⟩ | ⟨t, rfl⟩ | ⟨t, rfl⟩
  · obtain ⟨sign, hsign, hdigit⟩ := hw name t h
    rw [write_of_named h, fragments_set, (kinds_of_named h).1, if_neg ?other]
    · rfl
    case other =>
      rcases name_of_sign hsign hdigit with ⟨l, hl, rfl | rfl⟩ | rfl | rfl | rfl
      · simp [RegisterName.slot?, hl.ne_zero]
      · simp [RegisterName.slot?, hl.ne_zero]
      all_goals simp [RegisterName.slot?]
  · exact (r.fragments_set .yank t ['0']).trans (if_pos rfl)
  · exact r.fragments_delete (by decide) t
  · exact (r.fragments_set .lastInsert t ['0']).trans (if_neg (by decide))

theorem fragments_write_dot (hw : w.NamesNoDigit) (r : Registers) :
    (r.write w).fragments ['.'] = (w.inserted?.map ([·])).getD (r.fragments ['.']) := by
  rcases w.cases with ⟨name, t, h⟩ | ⟨t, rfl⟩ | ⟨t, rfl⟩ | ⟨t, rfl⟩
  · obtain ⟨sign, hsign, hdigit⟩ := hw name t h
    rw [write_of_named h, fragments_set, (kinds_of_named h).2.2, to?_of_named h]
    rcases name_of_sign hsign hdigit with ⟨l, hl, rfl | rfl⟩ | rfl | rfl | rfl
    · simp [RegisterName.slot?, hl.ne_dot]
    · simp [RegisterName.slot?, hl.ne_dot]
    all_goals simp [RegisterName.slot?]
  · exact (r.fragments_set .yank t ['.']).trans (if_neg (by decide))
  · exact r.fragments_delete (by decide) t
  · exact (r.fragments_set .lastInsert t ['.']).trans (if_pos rfl)

theorem ofNat_ne_singleton {c : Char} (h : c.isDigit = false) {n : Nat} (hn : n ≤ 9) : Text.ofNat n ≠ [c] := by
  intro heq
  have hdigit : ∀ n ≤ 9, (Text.ofNat n).all Char.isDigit := by decide
  have hc := List.all_eq_true.mp (hdigit n hn) c (heq ▸ List.mem_singleton_self c)
  rw [h] at hc
  cases hc

theorem IsLetter.isDigit {c : Char} (h : IsLetter c) : c.isDigit = false := by
  have hlow : 97 ≤ c.toNat := h.1
  have hhigh : c.toNat ≤ 122 := h.2
  rw [← Char.ofNat_toNat c]
  generalize c.toNat = n at hlow hhigh ⊢
  interval_cases n <;> rfl

/-- A delete that names no register brings its text to the first numbered register, and to each other one what
the one before it held. -/
theorem fragments_write_numbered (hw : w.NamesNoDigit) {n : Nat} (h₁ : 1 ≤ n) (h₉ : n ≤ 9) (r : Registers) :
    (r.write w).fragments (Text.ofNat n) =
      match w.deleted? with
      | some t => if n = 1 then [t] else r.fragments (Text.ofNat (n - 1))
      | none => r.fragments (Text.ofNat n) := by
  have hother : ∀ {name : RegisterName} {c : Char}, name.slot? = some [c] → c.isDigit = false →
      name.slot? ≠ some (Text.ofNat n) := by
    intro name c hslot hc heq
    exact ofNat_ne_singleton hc h₉ (Option.some.inj (heq.symm.trans hslot))
  rcases w.cases with ⟨name, t, h⟩ | ⟨t, rfl⟩ | ⟨t, rfl⟩ | ⟨t, rfl⟩
  · obtain ⟨sign, hsign, hdigit⟩ := hw name t h
    rw [write_of_named h, fragments_set, (kinds_of_named h).2.1, if_neg]
    rcases name_of_sign hsign hdigit with ⟨l, hl, rfl | rfl⟩ | rfl | rfl | rfl
    · exact hother rfl hl.isDigit
    · exact hother rfl hl.isDigit
    · exact hother rfl rfl
    · simp [RegisterName.slot?]
    · simp [RegisterName.slot?]
  · refine (r.fragments_set .yank t (Text.ofNat n)).trans (if_neg ?_)
    intro heq
    have hzero : 0 = n := ofNat_inj (Nat.zero_le 9) h₉ (Option.some.inj heq)
    omega
  · change (r.delete none t).fragments (Text.ofNat n) = if n = 1 then [t] else r.fragments (Text.ofNat (n - 1))
    rw [fragments_delete_eq, fragments_set]
    by_cases hn : n = 1
    · subst hn
      rfl
    · have hslot : (RegisterName.numbered 1).slot? ≠ some (Text.ofNat n) := fun heq =>
        hn (ofNat_inj (by omega) h₉ (Option.some.inj heq)).symm
      have hshift := (commands?_shift (Nat.le_refl 8) r.shelf).1 (n - 1) (by omega) (by omega)
      rw [Nat.sub_add_cancel h₁] at hshift
      rw [if_neg hslot, if_neg hn]
      unfold fragments shifted
      dsimp only
      rw [hshift]
  · exact (r.fragments_set .lastInsert t (Text.ofNat n)).trans (if_neg (hother rfl rfl))

theorem clipboard_write (hw : w.NamesNoDigit) (r : Registers) :
    (r.write w).clipboard = w.clipped?.getD r.clipboard := by
  rcases w.cases with ⟨name, t, h⟩ | ⟨t, rfl⟩ | ⟨t, rfl⟩ | ⟨t, rfl⟩
  · obtain ⟨sign, hsign, hdigit⟩ := hw name t h
    rw [write_of_named h, Write.clipped?, to?_of_named h, (kinds_of_named h).1, (kinds_of_named h).2.1]
    rcases name_of_sign hsign hdigit with ⟨l, hl, rfl | rfl⟩ | rfl | rfl | rfl <;> simp [set]
  · rfl
  · rfl
  · rfl

/-! Runs of writes. -/

/-- Registers that nothing has been written to. -/
structure IsEmpty (r : Registers) : Prop where
  macros : r.shelf.store.macros = []
  clipboard : r.clipboard = []

theorem IsEmpty.fragments {r : Registers} (h : r.IsEmpty) (slot : Text) : r.fragments slot = [] := by
  simp [Registers.fragments, Shelf.commands?, Store.commands?, Table.find?, h.macros]

/-- The slots and the clipboard hold what is told of them. -/
structure Records (list : List Write) (r : Registers) : Prop where
  letter : ∀ c, IsLetter c → r.fragments [c] = pieces (Write.to? (.named c)) (Write.to? (.append c)) list
  zero : r.fragments ['0'] = (latest? Write.yanked? list).toList
  dot : r.fragments ['.'] = (latest? Write.inserted? list).toList
  numbered : ∀ n, 1 ≤ n → n ≤ 9 →
    r.fragments (Text.ofNat n) = ((list.filterMap Write.deleted?).reverse[n - 1]?).toList
  clipboard : r.clipboard = (latest? Write.clipped? list).getD []

theorem IsEmpty.records {r : Registers} (h : r.IsEmpty) : r.Records [] where
  letter c _ := h.fragments [c]
  zero := h.fragments ['0']
  dot := h.fragments ['.']
  numbered n _ _ := h.fragments (Text.ofNat n)
  clipboard := h.clipboard

theorem Records.write {list : List Write} {r : Registers} (h : r.Records list) (hw : w.NamesNoDigit) :
    (r.write w).Records (list ++ [w]) where
  letter c hc := by rw [fragments_write_letter hw hc, pieces_concat, h.letter c hc]
  zero := by
    rw [fragments_write_zero hw, latest?_concat, h.zero]
    cases w.yanked? <;> rfl
  dot := by
    rw [fragments_write_dot hw, latest?_concat, h.dot]
    cases w.inserted? <;> rfl
  numbered n h₁ h₉ := by
    rw [fragments_write_numbered hw h₁ h₉, List.filterMap_append, List.reverse_append]
    cases hd : w.deleted? with
    | none => simpa [hd] using h.numbered n h₁ h₉
    | some t =>
      by_cases hn : n = 1
      · simp [hd, hn]
      · obtain ⟨m, rfl⟩ : ∃ m, n = m + 2 := ⟨n - 2, by omega⟩
        simpa [hd] using h.numbered (m + 1) (by omega) (by omega)
  clipboard := by
    rw [clipboard_write hw, latest?_concat, h.clipboard]
    cases w.clipped? <;> rfl

theorem IsEmpty.records_writes {r : Registers} (hr : r.IsEmpty) {list : List Write}
    (h : ∀ w ∈ list, w.NamesNoDigit) : (r.writes list).Records list := by
  induction list using List.reverseRecOn with
  | nil => exact hr.records
  | append_singleton list w ih =>
    rw [writes_concat]
    exact (ih fun w hw => h w (List.mem_append_left _ hw)).write (h w (by simp))

theorem Records.get {list : List Write} {r : Registers} (h : r.Records list) {c : Char} {name : RegisterName}
    (hname : RegisterName.ofChar? c = some name) : r.get name = told list name := by
  rcases name_of_char hname with ⟨l, hl, rfl | rfl⟩ | ⟨-, rfl | ⟨n, h₁, h₉, rfl⟩⟩ | rfl | rfl | rfl
  · rw [get_of_slot rfl, h.letter l hl]
    rfl
  · rw [get_of_slot rfl, h.letter l hl]
    rfl
  · rw [get_of_slot rfl, h.zero]
    simp only [told]
    cases latest? Write.yanked? list <;> simp
  · rw [get_of_slot rfl, h.numbered n h₁ h₉]
    simp only [told]
    cases (list.filterMap Write.deleted?).reverse[n - 1]? <;> simp
  · rw [get_of_slot rfl, h.dot]
    simp only [told]
    cases latest? Write.inserted? list <;> simp
  · exact h.clipboard
  · rfl

/-- Registers that nothing was written to hold, after any writes that name no digit, what is told of the writes: a
numbered register what was deleted that many times ago without naming a register, `0` what was yanked last so, a
letter what was last written to it and all that was added since, `.` what was last inserted or written to it, both
signs of the clipboard what came to it last, and `_` nothing. A write changes none but the registers that it
reaches. -/
theorem writes_fill_registers {r : Registers} (hr : r.IsEmpty) {list : List Write}
    (h : ∀ w ∈ list, w.NamesNoDigit) :
    (∀ c name, RegisterName.ofChar? c = some name → (r.writes list).get name = told list name) ∧
      ∀ w c name, w.NamesNoDigit → RegisterName.ofChar? c = some name → ¬ w.Reaches name →
        ((r.writes list).write w).get name = (r.writes list).get name := by
  have hlist := hr.records_writes h
  refine ⟨fun c name hname => hlist.get hname, fun w c name hw hname hreach => ?_⟩
  calc ((r.writes list).write w).get name
      = told (list ++ [w]) name := (hlist.write hw).get hname
    _ = told list name := told_concat_of_not hreach list
    _ = (r.writes list).get name := (hlist.get hname).symm

/-- A history with a gap, a letter that is written and added to twice, a clipboard that is written to by its name,
and a delete into the register that holds nothing. -/
theorem writes_fill_registers_mixed :
    let list : List Write := [.yank (some (.named 'a')) ['o'], .delete none ['1'], .set (.append 'a') ['p'],
      .delete none [], .delete (some (.append 'a')) ['q'], .yank none ['y'], .delete none ['3'], .inserted ['i'],
      .set .clipboard ['c'], .delete (some .blackHole) ['z']]
    let after := Registers.writes {} list
    (∀ w ∈ list, w.NamesNoDigit) ∧
      (after.get (.numbered 1) = ['3'] ∧ after.get (.numbered 2) = [] ∧ after.get (.numbered 3) = ['1'] ∧
        after.get (.numbered 4) = []) ∧
      after.get .yank = ['y'] ∧ after.get (.named 'a') = ['o', 'p', 'q'] ∧ after.get .lastInsert = ['i'] ∧
      after.get .clipboard = ['c'] ∧ after.get .blackHole = [] ∧
      (after.write (.inserted ['j'])).get .clipboard = ['c'] := by
  intro list after
  have hsigns : ∀ w ∈ list, w.NamesNoDigit := by
    intro w hw name t h
    unfold list at hw
    fin_cases hw <;> cases h
    exacts [⟨'a', by decide⟩, ⟨'A', by decide⟩, ⟨'A', by decide⟩, ⟨'"', by decide⟩, ⟨'_', by decide⟩]
  obtain ⟨hget, hother⟩ := writes_fill_registers (r := {}) ⟨rfl, rfl⟩ hsigns
  refine ⟨hsigns, ⟨hget '1' _ rfl, hget '2' _ rfl, hget '3' _ rfl, hget '4' _ rfl⟩, hget '0' _ rfl,
    hget 'a' _ rfl, hget '.' _ rfl, hget '*' _ rfl, hget '_' _ rfl, ?_⟩
  have hreach : ¬ ((Write.inserted ['j']).clipped?).isSome := by decide
  have hkept := hother (.inserted ['j']) '"' .clipboard (fun _ _ h => nomatch h) rfl hreach
  exact hkept.trans (hget '"' _ rfl)

/-- Text that is written to the register for insertions by its name stands there, though nothing was inserted. -/
theorem lastInsert_written_by_name :
    let list : List Write := [.set .lastInsert ['x']]
    (∀ w ∈ list, w.NamesNoDigit) ∧ (∀ t, Write.inserted t ∉ list) ∧
      (Registers.writes {} list).get .lastInsert = ['x'] := by
  refine ⟨?_, by simp, by decide⟩
  intro w hw name t h
  fin_cases hw
  cases h
  exact ⟨'.', by decide⟩

end Registers
end ExEditor
