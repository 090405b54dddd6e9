import ExEditor.Proofs.Address.Resolve
import ExEditor.Proofs.Frame.Rows

/-! Where addresses come out: at a line of the frame. There is one exception. A blank address is the line
of the cursor as it is, and while the cursor stands behind the last break this is one line too far. -/
namespace ExEditor

/-- A range that is checked is in order. -/
theorem AddressRange.checked_le {r : AddressRange} {first last : Nat} (h : r.checked = .ok (first, last)) :
    first ≤ last ∧ r.first.line = first + 1 ∧ r.last.line = last + 1 := by
  unfold checked at h
  split at h
  · next hv =>
    simp only [isValid, Bool.and_eq_true, decide_eq_true_eq] at hv
    simp only [Except.ok.injEq, Prod.mk.injEq] at h
    omega
  · cases h

namespace Address

theorem splitParts_ne_nil (inside : Inside) (depth : Nat) (blank : Bool) (t : Text) :
    splitParts inside depth blank t ≠ [] := by
  induction t generalizing inside depth blank with
  | nil => simp [splitParts]
  | cons c t ih =>
    unfold splitParts
    extract_lets plain depth'
    split
    · exact List.cons_ne_nil _ _
    · split
      · next h => exact absurd h (ih _ _ _)
      · exact List.cons_ne_nil _ _

/-- An address at a line of a frame, or the blank one behind its last line. -/
def Lands (f : Frame) (count : Nat) (a : Address) : Prop :=
  1 ≤ a.line ∧ a.line ≤ count ∨ f.cursorLine = count ∧ a = { line := count + 1 }

section lands
variable {f : Frame} {count : Nat} (hc : f.lineCount? = some count)
include hc

theorem clampLine_le (allowZero : Bool) (line : Int) : clampLine f allowZero line ≤ count := by
  have hpos := Frame.count_pos hc
  simp only [clampLine, hc]
  omega

theorem clampLine_pos (line : Int) : 1 ≤ clampLine f false line := by
  have hpos := Frame.count_pos hc
  simp only [clampLine, hc, Bool.false_eq_true, ↓reduceIte]
  omega

/-- An address that is not blank is brought into the frame. -/
theorem resolve_lines {rule : SearchRule} {allowZero : Bool} {lastSearch : Option Text} {t : Text}
    {line : Nat} (h : (resolve f rule allowZero lastSearch t).1 = .ok line) :
    (if allowZero then 0 else 1) ≤ line ∧
      (line ≤ count ∨ f.cursorLine = count ∧ t.trim = [] ∧ line = count + 1) := by
  have hcursor := Frame.cursorLine_le hc
  unfold resolve at h
  dsimp only at h
  split at h
  · next ht =>
    cases h
    refine ⟨by split <;> omega, ?_⟩
    rcases Nat.lt_or_eq_of_le hcursor with hlt | heq
    · exact .inl hlt
    · exact .inr ⟨heq, ht, by rw [heq]⟩
  · rcases hr : resolveExact f rule lastSearch t.trim with ⟨failure | exact, lastSearch'⟩ <;>
      rw [hr] at h <;> cases h
    refine ⟨?_, .inl (clampLine_le hc allowZero exact)⟩
    cases allowZero with
    | true => exact Nat.zero_le _
    | false => exact clampLine_pos hc exact

theorem ofLine_lines (line : Nat) : 1 ≤ (ofLine f line).line ∧ (ofLine f line).line ≤ count :=
  ⟨clampLine_pos hc _, clampLine_le hc _ _⟩

/-- Each part of a range lands, also behind semicolons: these move the cursor to a line that was found. -/
theorem resolveParts_lands {rule : SearchRule} {lastSearch : Option Text}
    {parts : List (Text × Option Char)} {addresses : List Address}
    (h : (resolveParts f rule lastSearch parts).1.1 = .ok addresses) :
    addresses.length = parts.length ∧ ∀ a ∈ addresses, Lands f count a := by
  induction parts generalizing f lastSearch addresses with
  | nil =>
    cases h
    exact ⟨rfl, by simp⟩
  | cons entry rest ih =>
    obtain ⟨part, separator⟩ := entry
    simp only [resolveParts] at h
    split at h
    · cases h
    · next line lastSearch' hr =>
      obtain ⟨hpos, hline⟩ := resolve_lines hc (by rw [hr])
      have hmoved : (if separator = some ';' then f.goToLine (line - 1) else f).lineCount? =
          some count := by
        split <;> exact hc
      -- After a semicolon the cursor is behind the last line only if it was there before.
      have hcursor : (if separator = some ';' then f.goToLine (line - 1) else f).cursorLine = count →
          f.cursorLine = count := by
        split
        · intro hbehind
          have hsegments := Frame.count_le_segments hc
          rcases hline with hle | ⟨heq, -, -⟩
          · rw [Frame.cursorLine_goToLine (by simp only [Bool.false_eq_true, ↓reduceIte] at hpos; omega)]
              at hbehind
            simp only [Bool.false_eq_true, ↓reduceIte] at hpos
            omega
          · exact heq
        · exact id
      rcases hrest : resolveParts (if separator = some ';' then f.goToLine (line - 1) else f) rule
        lastSearch' rest with ⟨⟨failure | others, lastSearch''⟩, g⟩ <;> rw [hrest] at h <;> cases h
      obtain ⟨hlength, hothers⟩ := ih hmoved (by rw [hrest])
      refine ⟨by simp [hlength], ?_⟩
      simp only [List.mem_cons, forall_eq_or_imp]
      constructor
      · rcases hline with hle | ⟨heq, hblank, rfl⟩
        · exact .inl ⟨by simpa using hpos, hle⟩
        · exact .inr ⟨heq, by simp [hblank]⟩
      · intro a ha
        rcases hothers a ha with hin | ⟨hbehind, rfl⟩
        · exact .inl hin
        · exact .inr ⟨hcursor hbehind, rfl⟩

theorem ofLines_lands (first last : Nat) :
    Lands f count (AddressRange.ofLines f first last).first ∧
      Lands f count (AddressRange.ofLines f first last).last :=
  ⟨.inl (ofLine_lines hc first), .inl (ofLine_lines hc last)⟩

/-- Both ends of a range land. -/
theorem resolveRange_lands {rule : SearchRule} {lastSearch : Option Text} {t : Text} {r : AddressRange}
    (h : (resolveRange f rule lastSearch t).1.1 = .ok r) :
    Lands f count r.first ∧ Lands f count r.last := by
  simp only [resolveRange] at h
  split at h
  · cases h
    exact ofLines_lands hc _ _
  split at h
  · cases h
    exact ofLines_lands hc _ _
  split at h
  · cases h
    exact ofLines_lands hc _ _
  · rcases hp : resolveParts f rule lastSearch (splitParts .address 0 true t.trim) with
      ⟨⟨failure | addresses, lastSearch'⟩, g⟩ <;> rw [hp] at h <;> cases h
    obtain ⟨hlength, hlands⟩ := resolveParts_lands hc (by rw [hp])
    have hne : addresses ≠ [] := by
      rintro rfl
      exact splitParts_ne_nil _ _ _ _ (List.eq_nil_of_length_eq_zero hlength.symm)
    have hmem : ∀ a ∈ addresses.reverse, Lands f count a := by simpa using hlands
    unfold rangeOf
    split
    · next hnil => exact absurd (List.reverse_eq_nil_iff.mp hnil) hne
    · next only hr => exact ⟨hmem only (by simp [hr]), hmem only (by simp [hr])⟩
    · next last first others hr => exact ⟨hmem first (by simp [hr]), hmem last (by simp [hr])⟩

end lands

/-- What addresses come out at. In a frame whose number of lines is known a range and an address are at
lines that it has, a destination may be in front of the first one, and so is a range that is checked; but
a blank address is behind the last line while the cursor is. -/
theorem resolved_lines_exist (f : Frame) (count : Nat) (hc : f.lineCount? = some count)
    (rule : SearchRule) (lastSearch : Option Text) :
    (∀ t r, (resolveRange f rule lastSearch t).1.1 = .ok r →
      Lands f count r.first ∧ Lands f count r.last ∧
        ∀ first last, r.checked = .ok (first, last) →
          first ≤ last ∧ (last < count ∨ f.cursorLine = count ∧ r.last = { line := count + 1 })) ∧
    (∀ allowZero t line, (resolve f rule allowZero lastSearch t).1 = .ok line →
      (if allowZero then 0 else 1) ≤ line ∧
        (line ≤ count ∨ f.cursorLine = count ∧ t.trim = [] ∧ line = count + 1)) ∧
    ∀ line, 1 ≤ (ofLine f line).line ∧ (ofLine f line).line ≤ count := by
  refine ⟨fun t r h => ?range, fun allowZero t line h => resolve_lines hc h, ofLine_lines hc⟩
  case range =>
    obtain ⟨hfirst, hlast⟩ := resolveRange_lands hc h
    refine ⟨hfirst, hlast, fun first last hchecked => ?_⟩
    obtain ⟨hle, -, hline⟩ := AddressRange.checked_le hchecked
    refine ⟨hle, ?_⟩
    rcases hlast with ⟨-, hin⟩ | hbehind
    · exact .inl (by omega)
    · exact .inr hbehind

/-- A search from the second line on, its offset far behind the last line. -/
theorem resolved_lines_exist_search :
    let f : Frame := { Frame.ofText "a\nb\na\n".toList with cursor := 2 }
    ∃ r, (resolveRange f {} none ".,/a/+9".toList).1.1 = .ok r ∧ r.checked = .ok (1, 2) ∧
      Lands f 3 r.first ∧ Lands f 3 r.last := by
  intro f
  have hr : (resolveRange f {} none ".,/a/+9".toList).1.1 =
      .ok ⟨{ expression := some ['.'], line := 2 }, { expression := some "/a/+9".toList, line := 3 }⟩ := by
    decide +kernel
  have h := (resolved_lines_exist f 3 rfl {} none).1 _ _ hr
  exact ⟨_, hr, rfl, h.1, h.2.1⟩

/-- With the cursor behind the last of two lines a blank address is line 3, and a range goes up to it. -/
theorem resolve_blank_behind_last :
    let f : Frame := { Frame.ofText "a\nb\n".toList with cursor := 4 }
    f.lineCount? = some 2 ∧ (resolve f {} false none []).1 = .ok 3 ∧
      ((resolveRange f {} none "1,".toList).1.1.bind (·.checked)) = .ok (0, 2) := by
  decide +kernel

end Address
end ExEditor
