import ExEditor.Proofs.Frame.Edited
import Mathlib.Data.List.Destutter

/-! Undoing over a whole history of edits. The history of a frame holds texts that are gone and, where a group
changed nothing, the present text once more. Without such repetitions it is the trail of the texts that
undoing leads back over, one for each revision that made a difference and is not undone. -/
namespace ExEditor
namespace Frame

/-- An edit, or a group of edits. -/
inductive Edit
  | insert (offset : Nat) (t : Text)
  | delete (a b : Nat)
  | replace (first last : Nat) (t : Text)
  | group (edits : List Edit)

namespace Edit

mutual

/-- What an edit makes of a frame. -/
def apply : Edit → Frame → Frame
  | insert offset t, f => f.insert offset t
  | delete a b, f => f.delete a b
  | replace first last t, f => f.replace first last t
  | group edits, f => (applyAll edits f.openGroup).closeGroup

/-- What edits make of a frame, one after the other. -/
def applyAll : List Edit → Frame → Frame
  | [], f => f
  | e :: edits, f => applyAll edits (apply e f)

end

mutual

theorem edited_apply : ∀ (e : Edit) (f : Frame), f.Edited (e.apply f)
  | insert offset t, f => f.edited_insert offset t
  | delete a b, f => f.edited_delete a b
  | replace first last t, f => f.edited_replace first last t
  | group edits, f => .group (edited_applyAll edits f.openGroup)

theorem edited_applyAll : ∀ (edits : List Edit) (f : Frame), f.Edited (applyAll edits f)
  | [], f => .refl f
  | e :: edits, f => (edited_apply e f).trans (edited_applyAll edits (e.apply f))

end

end Edit

/-- The text before and after an outermost group of edits, or an edit outside of any group. -/
structure Revision where
  before : Text
  after : Text
  deriving DecidableEq, Repr

namespace Revision

/-- Whether it made a difference. -/
def differs (r : Revision) : Bool := r.before ≠ r.after

/-- The texts before those that made a difference. -/
def earlier (revisions : List Revision) : List Text := (revisions.filter (·.differs)).map (·.before)

theorem earlier_cons (r : Revision) (revisions : List Revision) :
    earlier (r :: revisions) = if r.after = r.before then earlier revisions else r.before :: earlier revisions := by
  unfold earlier
  by_cases h : r.after = r.before
  · rw [if_pos h, List.filter_cons_of_neg (by simp [differs, h])]
  · rw [if_neg h, List.filter_cons_of_pos (by simpa [differs] using Ne.symm h), List.map_cons]

theorem earlier_eraseP (revisions : List Revision) :
    earlier (revisions.eraseP (·.differs)) = (earlier revisions).tail := by
  unfold earlier
  induction revisions with
  | nil => rfl
  | cons r revisions ih =>
    by_cases h : r.differs
    · rw [List.eraseP_cons_of_pos h, List.filter_cons_of_pos h, List.map_cons, List.tail_cons]
    · rw [List.eraseP_cons_of_neg h, List.filter_cons_of_neg h, List.filter_cons_of_neg h, ih]

theorem earlier_eq_nil_iff {revisions : List Revision} :
    earlier revisions = [] ↔ ∀ r ∈ revisions, r.before = r.after := by
  simp [earlier, differs]

theorem earlier_of_find? {revisions : List Revision} {r : Revision} (h : revisions.find? (·.differs) = some r) :
    ∃ rest, earlier revisions = r.before :: rest := by
  have hhead : (revisions.filter (·.differs)).head? = some r := List.head?_filter.trans h
  rw [earlier, ← List.cons_head?_tail hhead, List.map_cons]
  exact ⟨_, rfl⟩

end Revision

/-- The revisions that an edit makes outside of any group, latest first. A replacement makes two. -/
def Edit.revisions (e : Edit) (f : Frame) : List Revision :=
  match e with
  | replace first last t =>
    [⟨(f.delete first last).text, (f.replace first last t).text⟩, ⟨f.text, (f.delete first last).text⟩]
  | e => [⟨f.text, (e.apply f).text⟩]

/-- What may be done to a frame while no group is open. -/
inductive Act
  | edit (e : Edit)
  | undo

/-- A frame with the revisions that are not undone, latest first. -/
structure Walk where
  frame : Frame
  revisions : List Revision := []

namespace Walk

/-- Undoing takes back the latest revision that made a difference. -/
def act (w : Walk) : Act → Walk
  | .edit e => ⟨e.apply w.frame, e.revisions w.frame ++ w.revisions⟩
  | .undo => ⟨w.frame.undo.1, w.revisions.eraseP (·.differs)⟩

/-- What acts lead to from a frame. -/
def run (start : Frame) (acts : List Act) : Walk := acts.foldl act ⟨start, []⟩

end Walk

/-- The texts that undoing leads back over, from the present one. -/
def trail (f : Frame) : List Text := (f.text :: f.history).destutter (· ≠ ·)

theorem trail_eq (f : Frame) :
    f.trail = f.text :: (f.history.dropWhile (· == f.text)).destutter (· ≠ ·) := by
  unfold trail
  rw [List.destutter_cons']
  induction f.history with
  | nil => rfl
  | cons t older ih =>
    by_cases h : t = f.text
    · rw [List.destutter'_cons_neg _ (by simpa using h.symm), ih, List.dropWhile_cons_of_pos (by simpa using h)]
    · rw [List.destutter'_cons_pos _ (Ne.symm h), List.dropWhile_cons_of_neg (by simpa using h),
        List.destutter_cons']

/-- Where the trail is at its end, undoing fails. -/
theorem undo_of_trail_nil {f : Frame} (h : f.trail = [f.text]) :
    f.undo = ({ f with history := [] }, false) ∧ f.undo.1.trail = [f.text] := by
  have hkept : f.history.dropWhile (· == f.text) = [] := by
    rw [trail_eq, List.cons.injEq] at h
    exact (List.destutter_eq_nil (R := (· ≠ ·))).mp h.2
  unfold undo
  rw [hkept]
  exact ⟨rfl, rfl⟩

/-- Undoing goes one step back on the trail. -/
theorem undo_of_trail_cons {f : Frame} {t : Text} {rest : List Text} (h : f.trail = f.text :: t :: rest) :
    f.undo = ({ f with
      text := t
      history := f.undo.1.history
      marks := f.marks.clamp t.length
      cursor := min f.cursor t.length
      selection := .caret (min f.cursor t.length) }, true) ∧ f.undo.1.trail = t :: rest := by
  rw [trail_eq, List.cons.injEq] at h
  obtain ⟨-, hrest⟩ := h
  unfold undo
  cases hkept : f.history.dropWhile (· == f.text) with
  | nil => simp [hkept] at hrest
  | cons previous older =>
    rw [hkept] at hrest
    obtain ⟨g, htext, hhistory⟩ : ∃ g : Frame, g.text = previous ∧ g.history = older :=
      ⟨{ text := previous, history := older }, rfl, rfl⟩
    have hhead := g.trail_eq
    rw [trail, htext, hhistory, hrest, List.cons.injEq] at hhead
    obtain ⟨rfl, -⟩ := hhead
    exact ⟨rfl, hrest⟩

theorem undo_fails_iff {f : Frame} {rest : List Text} (h : f.trail = f.text :: rest) :
    f.undo.2 = false ↔ rest = [] := by
  cases rest with
  | nil => simp [(undo_of_trail_nil h).1]
  | cons t rest =>
    rw [(undo_of_trail_cons h).1]
    simp

/-- Undoing again and again goes back on the trail, and stays at its end. -/
theorem text_undos {f : Frame} {first : Text} (h : f.trail.getLast? = some first) (n : Nat) :
    ((fun g : Frame => g.undo.1)^[n] f).text = f.trail.getD n first := by
  induction n generalizing f with
  | zero => simp [f.trail_eq]
  | succ n ih =>
    rw [Function.iterate_succ_apply]
    cases hrest : f.trail.tail with
    | nil =>
      have htrail : f.trail = [f.text] := by
        rw [trail_eq, List.tail_cons] at hrest
        rw [trail_eq, hrest]
      have hundo := (undo_of_trail_nil htrail).2
      rw [htrail] at h
      rw [ih (hundo ▸ h), hundo, htrail]
      cases n <;> simp_all
    | cons t rest =>
      have htrail : f.trail = f.text :: t :: rest := by
        rw [trail_eq, List.tail_cons] at hrest
        rw [trail_eq, hrest]
      have hundo := (undo_of_trail_cons htrail).2
      rw [htrail, List.getLast?_cons_cons, ← hundo] at h
      rw [ih h, hundo, htrail, List.getD_cons_succ]

/-- A frame that another became by one revision of its text. -/
def Follows (f g : Frame) : Prop := g.trail = if g.text = f.text then f.trail else g.text :: f.trail

theorem follows_of_history {f g : Frame} (h : g.history = f.text :: f.history) : f.Follows g := by
  unfold Follows trail
  rw [h, List.destutter_cons_cons]
  by_cases heq : g.text = f.text
  · rw [if_neg (not_not.mpr heq), if_pos heq, heq, List.destutter_cons']
  · rw [if_pos heq, if_neg heq, List.destutter_cons']

theorem follows_self (f : Frame) : f.Follows f := (if_pos rfl).symm

theorem follows_insert {f : Frame} (hd : f.depth = 0) (offset : Nat) (t : Text) :
    f.Follows (f.insert offset t) := by
  unfold insert
  split
  · exact f.follows_self
  · exact follows_of_history (by simp [remember, hd])

theorem follows_delete {f : Frame} (hd : f.depth = 0) (a b : Nat) : f.Follows (f.delete a b) := by
  unfold delete
  dsimp only
  split
  · exact f.follows_self
  · exact follows_of_history (by simp [remember, hd])

/-- A group of edits keeps the text from before the group and no other. -/
theorem follows_group {f : Frame} (hd : f.depth = 0) (edits : List Edit) :
    f.Follows ((Edit.group edits).apply f) := by
  have hinside := (Edit.edited_applyAll edits f.openGroup).history (Nat.succ_pos _)
  rw [openGroup_history f hd] at hinside
  exact follows_of_history hinside

/-- The trail of a frame is that of its revisions, and ends at the text that there was first. -/
structure Walk.Kept (first : Text) (w : Walk) : Prop where
  depth : w.frame.depth = 0
  trail : w.frame.trail = w.frame.text :: Revision.earlier w.revisions
  last : w.frame.trail.getLast? = some first

namespace Walk.Kept
variable {first : Text} {w : Walk} {f g : Frame} {revisions : List Revision}

theorem start (hh : f.history = []) (hd : f.depth = 0) : Kept f.text ⟨f, []⟩ := by
  have htrail : f.trail = [f.text] := by rw [Frame.trail, hh, List.destutter_singleton]
  exact ⟨hd, htrail, by rw [htrail]; rfl⟩

theorem revise (h : Kept first ⟨f, revisions⟩) (hd : g.depth = f.depth) (hg : f.Follows g) :
    Kept first ⟨g, ⟨f.text, g.text⟩ :: revisions⟩ := by
  have htrail : f.trail = f.text :: Revision.earlier revisions := h.trail
  have hlast : f.trail.getLast? = some first := h.last
  unfold Follows at hg
  refine ⟨hd.trans h.depth, ?_, ?_⟩
  · change g.trail = g.text :: Revision.earlier (⟨f.text, g.text⟩ :: revisions)
    rw [hg, Revision.earlier_cons]
    split
    · next heq => rw [heq, htrail]
    · rw [htrail]
  · change g.trail.getLast? = some first
    rw [hg]
    split
    · exact hlast
    · rw [htrail, List.getLast?_cons_cons, ← htrail, hlast]

theorem edit (h : Kept first w) (e : Edit) : Kept first (w.act (.edit e)) := by
  obtain ⟨f, revisions⟩ := w
  have hd : f.depth = 0 := h.depth
  cases e with
  | insert offset t => exact h.revise (f.edited_insert offset t).depth (follows_insert hd offset t)
  | delete a b => exact h.revise (f.edited_delete a b).depth (follows_delete hd a b)
  | replace a b t =>
    have hdelete := (f.edited_delete a b).depth
    exact (h.revise hdelete (follows_delete hd a b)).revise (edited_insert _ a t).depth
      (follows_insert (hdelete.trans hd) a t)
  | group edits => exact h.revise (Edit.edited_apply (.group edits) f).depth (follows_group hd edits)

theorem undo (h : Kept first w) : Kept first (w.act .undo) := by
  have hd : w.frame.undo.1.depth = 0 := w.frame.undo_depth.trans h.depth
  have htrail := h.trail
  have hlast := h.last
  have herase := Revision.earlier_eraseP w.revisions
  cases hearlier : Revision.earlier w.revisions with
  | nil =>
    rw [hearlier] at htrail herase
    obtain ⟨hundo, hback⟩ := undo_of_trail_nil htrail
    have htext : w.frame.undo.1.text = w.frame.text := by rw [hundo]
    refine ⟨hd, ?_, hback.trans htrail.symm ▸ hlast⟩
    change w.frame.undo.1.trail = w.frame.undo.1.text :: Revision.earlier (w.revisions.eraseP _)
    rw [herase, hback, htext, List.tail_nil]
  | cons t rest =>
    rw [hearlier] at htrail herase
    obtain ⟨hundo, hback⟩ := undo_of_trail_cons htrail
    have htext : w.frame.undo.1.text = t := by rw [hundo]
    refine ⟨hd, ?_, ?_⟩
    · change w.frame.undo.1.trail = w.frame.undo.1.text :: Revision.earlier (w.revisions.eraseP _)
      rw [herase, hback, htext, List.tail_cons]
    · change w.frame.undo.1.trail.getLast? = some first
      rw [hback, ← hlast, htrail, List.getLast?_cons_cons]

theorem run {start : Frame} (hh : start.history = []) (hd : start.depth = 0) (acts : List Act) :
    Kept start.text (Walk.run start acts) := by
  refine List.foldlRecOn (motive := Kept start.text) acts Walk.act (.start hh hd) fun w hw a _ => ?_
  cases a with
  | edit e => exact hw.edit e
  | undo => exact hw.undo

end Walk.Kept

/-- However edits, groups of edits and undoing have followed each other: undoing goes back to the text from
before the latest revision that made a difference and is not undone, with the cursor and all marks brought
into it; where there is none it fails, and only drops what is left of the history. So undoing again and
again goes back over the texts from before those revisions, each another than the one it is reached from,
down to the text that there was first. -/
theorem undo_walks_history {start : Frame} (hh : start.history = []) (hd : start.depth = 0) (acts : List Act) :
    let w := Walk.run start acts
    let texts := w.frame.text :: Revision.earlier w.revisions
    (∀ r, w.revisions.find? (·.differs) = some r →
      w.frame.undo = ({ w.frame with
        text := r.before
        history := w.frame.undo.1.history
        marks := w.frame.marks.clamp r.before.length
        cursor := min w.frame.cursor r.before.length
        selection := .caret (min w.frame.cursor r.before.length) }, true)) ∧
    (w.frame.undo.2 = false ↔ ∀ r ∈ w.revisions, r.before = r.after) ∧
    (w.frame.undo.2 = false → w.frame.undo.1 = { w.frame with history := [] }) ∧
    (∀ n, ((fun f : Frame => f.undo.1)^[n] w.frame).text = texts.getD n start.text) ∧
    texts.IsChain (· ≠ ·) ∧ texts.getLast? = some start.text := by
  intro w texts
  have hkept : Walk.Kept start.text w := Walk.Kept.run hh hd acts
  have htrail : w.frame.trail = texts := hkept.trail
  have hfails := (undo_fails_iff htrail).trans Revision.earlier_eq_nil_iff
  refine ⟨fun r hr => ?_, hfails, fun hfail => ?_, fun n => ?_, ?_, ?_⟩
  · obtain ⟨rest, hrest⟩ := Revision.earlier_of_find? hr
    exact (undo_of_trail_cons (htrail.trans (congrArg _ hrest))).1
  · have hnil := (undo_fails_iff htrail).mp hfail
    rw [(undo_of_trail_nil (htrail.trans (congrArg _ hnil))).1]
  · rw [text_undos hkept.last, htrail]
  · exact htrail ▸ List.isChain_destutter _ _
  · exact htrail ▸ hkept.last

/-- A letter is replaced outside of any group; then a group deletes a letter and puts it back. Undoing goes past
the group to the text between the deletion and the insertion, where the mark behind the letter is in front. -/
theorem undo_walks_history_past_group :
    let start : Frame := { text := ['a'], marks := [(.named 'k', 1)] }
    let acts := [.edit (.replace 0 1 ['b']), .edit (.group [.delete 0 1, .insert 0 ['b']])]
    let w := Walk.run start acts
    start.history = [] ∧ start.depth = 0 ∧ w.frame.undo.2 = true ∧ w.frame.undo.1.text = [] ∧
      w.frame.undo.1.mark? (.named 'k') = some 0 := by
  intro start acts w
  have hfind : w.revisions.find? (·.differs) = some ⟨[], ['b']⟩ := by decide +kernel
  have hundo := (@undo_walks_history start rfl rfl acts).1 _ hfind
  refine ⟨rfl, rfl, by rw [hundo], by rw [hundo], ?_⟩
  rw [hundo]
  decide +kernel

end Frame
end ExEditor
