import ExEditor.Address.Resolve

/-! What addresses depend on, and what resolving them does to a frame. -/
namespace ExEditor

/-- Frames that addresses cannot tell apart. -/
structure Frame.Alike (f g : Frame) : Prop where
  text : f.text = g.text
  marks : f.marks = g.marks
  cursor : f.cursor = g.cursor
  firstVisible : f.firstVisible = g.firstVisible
  screenLines : f.screenLines = g.screenLines
  streaming : f.streaming = g.streaming

namespace Frame.Alike

theorem openGroup (f : Frame) : f.openGroup.Alike f := by
  unfold Frame.openGroup Frame.remember
  split <;> exact ⟨rfl, rfl, rfl, rfl, rfl, rfl⟩

variable {f g : Frame} (h : f.Alike g)
include h

theorem length : f.length = g.length := by rw [Frame.length, Frame.length, h.text]

theorem lineAt : f.lineAt = g.lineAt := by
  funext offset
  rw [Frame.lineAt, Frame.lineAt, Frame.clamp, Frame.clamp, h.length, h.text]

theorem lineStart : f.lineStart = g.lineStart := by
  funext line
  rw [Frame.lineStart, Frame.lineStart, h.text]

theorem cursorLine : f.cursorLine = g.cursorLine := by
  rw [Frame.cursorLine, Frame.cursorLine, h.lineAt, h.cursor]

theorem lineCount? : f.lineCount? = g.lineCount? := by
  rw [Frame.lineCount?, Frame.lineCount?, h.streaming, h.text]

theorem lastLine : f.lastLine = g.lastLine := by
  rw [Frame.lastLine, Frame.lastLine, h.lineCount?, h.text, h.length]

theorem mark? : f.mark? = g.mark? := by
  funext id
  rw [Frame.mark?, Frame.mark?, h.marks]

theorem findIn : f.findIn = g.findIn := by
  funext m first last
  rw [Frame.findIn, Frame.findIn, Frame.slice, Frame.slice, h.text]

theorem findLastIn : f.findLastIn = g.findLastIn := by
  funext m first last
  rw [Frame.findLastIn, Frame.findLastIn, Frame.slice, Frame.slice, h.text]

theorem goToLine (n : Nat) : (f.goToLine n).Alike (g.goToLine n) where
  text := h.text
  marks := h.marks
  cursor := by
    change f.clamp (f.lineStart n) = g.clamp (g.lineStart n)
    rw [Frame.clamp, Frame.clamp, h.length, h.lineStart]
  firstVisible := h.firstVisible
  screenLines := h.screenLines
  streaming := h.streaming

theorem clampLine : Address.clampLine f = Address.clampLine g := by
  funext allowZero line
  rw [Address.clampLine, Address.clampLine, h.lineCount?]

theorem ofLines : AddressRange.ofLines f = AddressRange.ofLines g := by
  funext first last
  simp only [AddressRange.ofLines, Address.ofLine, h.clampLine]

end Frame.Alike

namespace Calculator
variable {f g : Frame} (h : f.Alike g)
include h

theorem markLine_alike : markLine f = markLine g := by
  funext t
  cases t with
  | nil => rfl
  | cons name t => simp only [markLine, h.mark?, h.lineAt]

/-- The calculator asks a frame for the line of its cursor, its last line and its marks only. -/
theorem readings_alike (n : Nat) :
    primary f n = primary g n ∧ product f n = product g n ∧ factors f n = factors g n ∧
      sum f n = sum g n ∧ terms f n = terms g n := by
  induction n with
  | zero =>
    refine ⟨?_, ?_, ?_, ?_, ?_⟩ <;> rfl
  | succ n ih =>
    obtain ⟨hprimary, hproduct, hfactors, hsum, hterms⟩ := ih
    refine ⟨?_, ?_, ?_, ?_, ?_⟩
    · funext t
      simp only [primary, h.cursorLine, h.lastLine, markLine_alike h, hsum]
    · funext t
      simp only [product, hprimary, hfactors]
    · funext value t
      simp only [factors, hprimary, hfactors]
    · funext t
      simp only [sum, hproduct, hterms]
    · funext value t
      simp only [terms, hproduct, hterms]

theorem evaluate_alike : evaluate f = evaluate g := by
  funext t
  simp only [evaluate, (readings_alike h _).2.2.2.1, (readings_alike h _).2.2.2.2, h.cursorLine]

end Calculator

namespace Address
variable {f g : Frame} (h : f.Alike g) (rule : SearchRule)
include h

theorem search_alike : search f rule = search g rule := by
  funext lastSearch start delimiter rest
  have hforward : searchForward f = searchForward g := by
    funext wrap m line
    simp only [searchForward, h.lineStart, h.findIn, h.length, h.lineAt]
  have hbackward : searchBackward f = searchBackward g := by
    funext wrap m line
    simp only [searchBackward, h.lineStart, h.findLastIn, h.length, h.lineAt]
  have horigin : searchOrigin f = searchOrigin g := by
    funext start
    simp only [searchOrigin, h.cursorLine, Calculator.evaluate_alike h, h.clampLine]
  simp only [search, hforward, hbackward, horigin]

theorem resolve_alike : resolve f rule = resolve g rule := by
  funext allowZero lastSearch t
  simp only [resolve, resolveExact, search_alike h rule, Calculator.evaluate_alike h, h.cursorLine,
    h.clampLine]

theorem resolveParts_alike (lastSearch : Option Text) (parts : List (Text × Option Char)) :
    (resolveParts f rule lastSearch parts).1 = (resolveParts g rule lastSearch parts).1 ∧
      (resolveParts f rule lastSearch parts).2.Alike (resolveParts g rule lastSearch parts).2 := by
  induction parts generalizing f g lastSearch with
  | nil => exact ⟨rfl, h⟩
  | cons entry rest ih =>
    obtain ⟨part, separator⟩ := entry
    simp only [resolveParts, resolve_alike h rule]
    split
    · exact ⟨rfl, h⟩
    · next line lastSearch' _ =>
      have hmoved : (if separator = some ';' then f.goToLine (line - 1) else f).Alike
          (if separator = some ';' then g.goToLine (line - 1) else g) := by
        split
        · exact h.goToLine _
        · exact h
      obtain ⟨hresult, hframe⟩ := ih hmoved lastSearch'
      let address : Address := { expression := if part.trim = [] then none else some part.trim, line }
      exact ⟨congrArg (fun r => (r.1.map (address :: ·), r.2)) hresult, hframe⟩

/-- Frames that are alike resolve ranges alike and stay so. -/
theorem resolveRange_alike (lastSearch : Option Text) (t : Text) :
    (resolveRange f rule lastSearch t).1 = (resolveRange g rule lastSearch t).1 ∧
      (resolveRange f rule lastSearch t).2.Alike (resolveRange g rule lastSearch t).2 := by
  simp only [resolveRange, h.ofLines, h.cursorLine, h.lastLine, h.firstVisible, h.screenLines]
  split
  · exact ⟨rfl, h⟩
  split
  · exact ⟨rfl, h⟩
  split
  · exact ⟨rfl, h⟩
  · obtain ⟨hresult, hframe⟩ := resolveParts_alike h rule lastSearch (splitParts .address 0 true t.trim)
    exact ⟨congrArg (fun r => (r.1.map rangeOf, r.2)) hresult, hframe⟩

end Address

namespace Address

theorem resolveParts_frame (f : Frame) (rule : SearchRule) (lastSearch : Option Text)
    (parts : List (Text × Option Char)) :
    ∃ cursor, (resolveParts f rule lastSearch parts).2 = { f with cursor } := by
  induction parts generalizing f lastSearch with
  | nil => exact ⟨f.cursor, rfl⟩
  | cons entry rest ih =>
    obtain ⟨part, separator⟩ := entry
    simp only [resolveParts]
    split
    · exact ⟨f.cursor, rfl⟩
    · next line lastSearch' _ =>
      by_cases hs : separator = some ';'
      · obtain ⟨cursor, hc⟩ := ih (f.goToLine (line - 1)) lastSearch'
        simp only [hs, ↓reduceIte, hc]
        exact ⟨cursor, rfl⟩
      · obtain ⟨cursor, hc⟩ := ih f lastSearch'
        simp only [hs, ↓reduceIte, hc]
        exact ⟨cursor, rfl⟩

/-- Resolving a range moves the cursor and nothing else. -/
theorem resolveRange_frame (f : Frame) (rule : SearchRule) (lastSearch : Option Text) (t : Text) :
    ∃ cursor, (resolveRange f rule lastSearch t).2 = { f with cursor } := by
  simp only [resolveRange]
  split
  · exact ⟨f.cursor, rfl⟩
  split
  · exact ⟨f.cursor, rfl⟩
  split
  · exact ⟨f.cursor, rfl⟩
  · exact resolveParts_frame f rule lastSearch _

end Address
end ExEditor
