import ExEditor.Proofs.Pattern.Leftmost
import ExEditor.Proofs.Text.Offsets
import ExEditor.Proofs.Unicode.Word

/-! Patterns that look no further than the line. Such a pattern is matched in a line of a text as in the line
alone, because breaks are no word characters and a line begins and ends where its row does. -/
namespace ExEditor

/-- Whether an assertion holds at the ends of a line as at the ends of a text. -/
def Look.staysInLine : Look → Bool
  | textStart | textEnd | lineStart | lineEnd => false
  | _ => true

namespace Pattern

/-- Whether an instruction does not ask for more than the line. -/
def Instruction.staysInLine : Instruction → Bool
  | check assertion _ => assertion.staysInLine
  | _ => true

end Pattern

section look
variable {isWord : Char → Bool} {before after : Option Char}

theorem any_inLine (h : ∀ c, Text.isBreak c → isWord c = false) (c : Option Char) :
    (Text.inLine c).any isWord = c.any isWord := by
  cases c with
  | none => rfl
  | some c =>
    by_cases hc : Text.isBreak c
    · simp [Text.inLine, hc, h c hc]
    · simp [Text.inLine, hc]

theorem inLine_eq_none {c : Option Char} : Text.inLine c = none ↔ ∀ b ∈ c, Text.isBreak b := by
  simp [Text.inLine, Option.filter_eq_none_iff]

/-- An assertion that stays in the line holds there alone if it holds in the text. -/
theorem Look.holds_inLine (h : ∀ c, Text.isBreak c → isWord c = false) {l : Look} (hl : l.staysInLine)
    (hholds : l.holds isWord before after) : l.holds isWord (Text.inLine before) (Text.inLine after) := by
  have hbefore := any_inLine h before
  have hafter := any_inLine h after
  cases l <;> simp only [staysInLine, Bool.false_eq_true] at hl <;>
    simp only [holds, hbefore, hafter] at hholds ⊢ <;> try exact hholds
  case rowStart =>
    have hnone : Text.inLine before = none := by
      rw [inLine_eq_none]
      rintro b rfl
      simp only [Option.all_some, Bool.or_eq_true, decide_eq_true_eq, Bool.and_eq_true, beq_iff_eq,
        Option.some.injEq] at hholds
      rcases hholds with rfl | ⟨rfl, -⟩ <;> rfl
    rw [hnone]
    rfl
  case rowEnd =>
    have hnone : Text.inLine after = none := by
      rw [inLine_eq_none]
      rintro b rfl
      simp only [Option.all_some, Bool.or_eq_true, decide_eq_true_eq, Bool.and_eq_true, beq_iff_eq,
        Option.some.injEq] at hholds
      rcases hholds with rfl | ⟨rfl, -⟩ <;> rfl
    rw [hnone]
    rfl

/-- An assertion that holds in a line alone holds in the text, but for inside a break. -/
theorem Look.holds_of_inLine (h : ∀ c, Text.isBreak c → isWord c = false) {l : Look} (hl : l.staysInLine)
    (hpair : ¬ (before = some '\r' ∧ after = some '\n'))
    (hholds : l.holds isWord (Text.inLine before) (Text.inLine after)) : l.holds isWord before after := by
  have hbefore := any_inLine h before
  have hafter := any_inLine h after
  cases l <;> simp only [staysInLine, Bool.false_eq_true] at hl <;>
    simp only [holds, hbefore, hafter] at hholds ⊢ <;> try exact hholds
  case rowStart =>
    rcases before with _ | b
    · rfl
    by_cases hb : Text.isBreak b
    · simp only [Text.isBreak, Bool.or_eq_true, decide_eq_true_eq] at hb
      rcases hb with rfl | rfl
      · rfl
      · simpa using hpair
    · simp only [Text.isBreak, Bool.or_eq_true, decide_eq_true_eq, not_or] at hb
      simp [Text.inLine, Text.isBreak, hb] at hholds
  case rowEnd =>
    rcases after with _ | b
    · rfl
    by_cases hb : Text.isBreak b
    · simp only [Text.isBreak, Bool.or_eq_true, decide_eq_true_eq] at hb
      rcases hb with rfl | rfl
      · simpa using hpair
      · rfl
    · simp only [Text.isBreak, Bool.or_eq_true, decide_eq_true_eq, not_or] at hb
      simp [Text.inLine, Text.isBreak, hb] at hholds

end look

namespace Pattern
variable {program : Array Instruction} {hay hay' : Array Char}

/-- An instruction leads where it leads elsewhere if its assertion holds there too. -/
theorem Instruction.next?_of_holds {i : Instruction} {offset offset' address address' : Nat} {targets : List Nat}
    (hn : i.next? hay offset address = some targets) (hm : address' ∈ targets)
    (hlook : ∀ l asciiWords, i = .check l asciiWords → lookHolds hay offset l asciiWords →
      lookHolds hay' offset' l asciiWords) :
    ∃ targets', i.next? hay' offset' address = some targets' ∧ address' ∈ targets' := by
  cases i with
  | check assertion asciiWords =>
    simp only [next?, Option.some.injEq] at hn
    subst hn
    by_cases hholds : lookHolds hay offset assertion asciiWords
    · rw [if_pos hholds] at hm
      refine ⟨_, rfl, ?_⟩
      rwa [if_pos (hlook assertion asciiWords rfl hholds)]
    · rw [if_neg hholds] at hm
      cases hm
  | _ => exact ⟨targets, hn, hm⟩

/-- A path in one text is a path in another where the characters are the same and no assertion of the program
is lost. -/
theorem Path.shift {base base' first last address address' : Nat}
    (hp : Path program hay (address, base + first) (address', base + last))
    (hchars : ∀ k, first ≤ k → k < last → hay[base + k]? = hay'[base' + k]?)
    (hlooks : ∀ i ∈ program, ∀ l asciiWords, i = .check l asciiWords → ∀ k, first ≤ k → k ≤ last →
      lookHolds hay (base + k) l asciiWords → lookHolds hay' (base' + k) l asciiWords) :
    Path program hay' (address, base' + first) (address', base' + last) := by
  generalize hplace : (address', base + last) = place at hp
  induction hp generalizing address' last with
  | refl =>
    simp only [Prod.mk.injEq, Nat.add_left_cancel_iff] at hplace
    obtain ⟨rfl, rfl⟩ := hplace
    exact .refl
  | tail hrest hstep ih =>
    have hle := Path.offset_le hrest
    cases hstep with
    | @take middle offset set c hi hc hs =>
      obtain ⟨rfl, hlast⟩ := Prod.mk.inj hplace
      obtain ⟨k, rfl⟩ : ∃ k, offset = base + k := ⟨offset - base, by dsimp only at hle; omega⟩
      obtain rfl : last = k + 1 := by omega
      have hfirst : first ≤ k := by dsimp only at hle; omega
      have hrest' := ih (fun k' hk hlt => hchars k' hk (by omega))
        (fun i hi l a heq k' hk hle => hlooks i hi l a heq k' hk (by omega)) rfl
      exact hrest'.tail (.take hi ((hchars k hfirst (Nat.lt_succ_self k)).symm.trans hc) hs)
    | @follow middle _ offset i targets hi hn hm =>
      obtain ⟨rfl, rfl⟩ := Prod.mk.inj hplace
      have hfirst : first ≤ last := by dsimp only at hle; omega
      have hlook : ∀ l asciiWords, i = .check l asciiWords → lookHolds hay (base + last) l asciiWords →
          lookHolds hay' (base' + last) l asciiWords :=
        fun l asciiWords heq => hlooks i (Array.mem_of_getElem? hi) l asciiWords heq last hfirst (Nat.le_refl _)
      obtain ⟨targets', hn', hm'⟩ := Instruction.next?_of_holds hn hm hlook
      exact (ih hchars hlooks rfl).tail (.follow hi hn' hm')

end Pattern
end ExEditor
