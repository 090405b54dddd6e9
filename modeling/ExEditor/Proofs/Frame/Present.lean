import ExEditor.Proofs.Frame.Edited

/-! A frame without its past. Whatever is done to a frame but undoing has nothing to do with the history and
with the groups that are open: done to a frame without them, it leaves the same frame. -/
namespace ExEditor
namespace Frame

/-- A frame without its history and with no group open. -/
def present (f : Frame) : Frame := { f with history := [], depth := 0 }

@[simp] theorem present_present (f : Frame) : f.present.present = f.present := rfl

/-- What does not look at the past reads the same from two frames that differ in nothing else. -/
theorem read_eq {α : Type} (read : Frame → α) (hread : ∀ f, read f.present = read f) {f g : Frame}
    (h : f.present = g.present) : read f = read g := by
  rw [← hread f, h, hread g]

theorem remember_present (f : Frame) : f.remember.present = f.present := by
  unfold remember
  split <;> rfl

@[simp] theorem openGroup_present (f : Frame) : f.openGroup.present = f.present := f.remember_present
@[simp] theorem closeGroup_present (f : Frame) : f.closeGroup.present = f.present := rfl

/-- Something done to a frame that has nothing to do with its past. -/
def Timeless (act : Frame → Frame) : Prop := ∀ f, (act f.present).present = (act f).present

namespace Timeless
variable {act act' : Frame → Frame}

theorem andThen (h : Timeless act) (h' : Timeless act') : Timeless fun f => act' (act f) := fun f => by
  rw [← h', h, h']

theorem congr (h : Timeless act) {f g : Frame} (hfg : f.present = g.present) :
    (act f).present = (act g).present := by
  rw [← h f, hfg, h g]

end Timeless

theorem timeless_insert (offset : Nat) (t : Text) : Timeless (·.insert offset t) := by
  intro f
  have hf : ∀ f : Frame, (f.insert offset t).present = if t = [] then f.present else
      { f.present with
        text := f.text.take (f.clamp offset) ++ (t ++ f.text.drop (f.clamp offset))
        marks := f.marks.inserted (f.clamp offset) t.length
        cursor := Marks.afterInsert (f.clamp offset) t.length f.cursor } := by
    intro f
    unfold insert
    split
    · rfl
    · unfold remember
      split <;> rfl
  rw [hf, hf]
  rfl

theorem timeless_delete (a b : Nat) : Timeless (·.delete a b) := by
  intro f
  have hf : ∀ f : Frame, (f.delete a b).present =
      if f.clamp (min a b) = f.clamp (max a b) then f.present else
      { f.present with
        text := f.text.take (f.clamp (min a b)) ++ f.text.drop (f.clamp (max a b))
        marks := f.marks.deleted (f.clamp (min a b)) (f.clamp (max a b))
        cursor := Marks.afterDelete (f.clamp (min a b)) (f.clamp (max a b)) f.cursor
        selection := .caret (min f.selection.start
          (f.text.take (f.clamp (min a b)) ++ f.text.drop (f.clamp (max a b))).length) } := by
    intro f
    unfold delete
    dsimp only
    split
    · rfl
    · unfold remember
      split <;> rfl
  rw [hf, hf]
  rfl

theorem timeless_replace (a b : Nat) (t : Text) : Timeless (·.replace a b t) :=
  (timeless_delete a b).andThen (timeless_insert a t)

theorem timeless_goToLine (line : Nat) : Timeless (·.goToLine line) := fun _ => rfl
theorem timeless_select (s : Selection) : Timeless (·.select s) := fun _ => rfl
theorem timeless_openGroup : Timeless openGroup := fun f => by simp
theorem timeless_closeGroup : Timeless closeGroup := fun _ => rfl

theorem timeless_putLines (line : Nat) (t : Text) : Timeless (·.putLines line t) := by
  intro f
  change (if t = [] then f.present else if f.length = 0 ∧ line = 0 then f.present.insert 0 t else
    if f.length ≤ f.lineStart line ∧ ¬ f.text.endsInBreak then
      f.present.insert f.length (f.eol ++ (t.dropEnding? f.eol).getD t)
    else if f.lineStart line < f.length ∧ ¬ t.endsInBreak then f.present.insert (f.lineStart line) (t ++ f.eol)
    else f.present.insert (f.lineStart line) t).present = (f.putLines line t).present
  unfold putLines
  dsimp only
  split
  · rfl
  split
  · exact timeless_insert _ _ f
  split
  · exact timeless_insert _ _ f
  split
  · exact timeless_insert _ _ f
  · exact timeless_insert _ _ f

theorem timeless_cutLines (first last : Nat) : Timeless (·.cutLines first last) := by
  intro f
  exact timeless_delete (f.deletionSpan first last).1 (f.deletionSpan first last).2
    (f.clearMarksWithin (f.deletionSpan first last).1 (f.deletionSpan first last).2)

theorem timeless_deleteLines (first last : Nat) : Timeless (·.deleteLines first last) := by
  intro f
  have hgo : Timeless fun f => f.goToLine (min first (f.lineCount?.getD 1 - 1)) := fun _ => rfl
  have hboth := (timeless_cutLines first last).andThen hgo f
  unfold deleteLines
  exact hboth

theorem timeless_putAndFollow (line : Nat) (t : Text) : Timeless (·.putAndFollow line t) :=
  (timeless_putLines line t).andThen (timeless_goToLine _)

theorem timeless_copyLines (first last destination : Nat) : Timeless (·.copyLines first last destination) :=
  fun f => timeless_putAndFollow destination (f.linesText first last) f

theorem timeless_moveLines (first last destination : Nat) : Timeless (·.moveLines first last destination) := by
  intro f
  unfold moveLines
  exact (((timeless_delete _ _).andThen (timeless_putLines _ _)).andThen (timeless_goToLine _)) f

theorem timeless_insertLine (line : Nat) (t : Text) : Timeless (·.insertLine line t) := fun f =>
  ((timeless_putLines line (t ++ f.eol)).andThen (timeless_goToLine line)) f

theorem timeless_changeLines (first last : Nat) (t : Text) : Timeless (·.changeLines first last t) := by
  intro f
  have hinsert : Timeless fun g => g.insertLine (if g.length = 0 then 0 else first) t := fun g =>
    timeless_insertLine (if g.length = 0 then 0 else first) t g
  have hboth := (timeless_cutLines first last).andThen hinsert f
  unfold changeLines
  exact hboth

theorem timeless_joinLines (first last : Nat) (asIs : Bool) : Timeless (·.joinLines first last asIs) := fun f =>
  ((timeless_replace (f.lineStart first) (f.lineEnd last) (joinTexts asIs (f.line first)
    (f.lineTexts (first + 1) last))).andThen (timeless_goToLine first)) f

theorem timeless_replaceLines (first last : Nat) (lines : List Text) :
    Timeless (·.replaceLines first last lines) := fun f =>
  ((timeless_replace (f.lineStart first) (f.lineEnd last) (Text.join f.eol lines)).andThen
    (timeless_goToLine first)) f

theorem timeless_sortLines (options : SortOptions) (first last : Nat) :
    Timeless (·.sortLines options first last) := fun f =>
  timeless_replaceLines first last (f.sortedTexts options first last) f

theorem timeless_indentLine (indent : Text) (line : Nat) : Timeless (indentLine indent · line) := by
  intro f
  change (if f.line line = [] then f.present else f.present.insert (f.lineStart line) indent).present =
    (indentLine indent f line).present
  unfold indentLine
  split
  · rfl
  · exact timeless_insert _ _ f

theorem timeless_outdentLine (columns tabWidth line : Nat) : Timeless (outdentLine columns tabWidth · line) :=
  fun f => timeless_delete (f.lineStart line) _ f

theorem timeless_foldl {α : Type} {act : Frame → α → Frame} (h : ∀ a, Timeless (act · a)) (as : List α) :
    Timeless fun f => as.foldl act f := by
  induction as with
  | nil => exact fun _ => rfl
  | cons a as ih => exact (h a).andThen ih

theorem timeless_eachLine {change : Frame → Nat → Frame} (h : ∀ line, Timeless (change · line))
    (first last : Nat) : Timeless (eachLine change · first last) :=
  ((timeless_openGroup.andThen (timeless_foldl h (lineRange first last))).andThen timeless_closeGroup).andThen
    (timeless_goToLine last)

end Frame
end ExEditor
