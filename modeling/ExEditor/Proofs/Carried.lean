import Mathlib.Data.List.Basic

/-! Things that are done one after the other, each from where the one before it has left off. -/
namespace ExEditor
variable {ι κ α β : Type} {found left : ι → α} {found' left' : κ → α} {a b c : α} {things things' : List ι}

/-- Whether the first of some things finds `a`, each finds what the one before it leaves, and the last leaves `b`. -/
def Carried (found left : ι → α) : α → List ι → α → Prop
  | a, [], b => a = b
  | a, i :: rest, b => found i = a ∧ Carried found left (left i) rest b

namespace Carried

theorem append (h : Carried found left a things b) (h' : Carried found left b things' c) :
    Carried found left a (things ++ things') c := by
  induction things generalizing a with
  | nil =>
    obtain rfl := h
    exact h'
  | cons i rest ih => exact ⟨h.1, ih h.2⟩

/-- Each thing may be done in parts. -/
theorem flatMap {parts : ι → List κ} (h : Carried found left a things b)
    (hparts : ∀ i ∈ things, Carried found' left' (found i) (parts i) (left i)) :
    Carried found' left' a (things.flatMap parts) b := by
  induction things generalizing a with
  | nil => exact h
  | cons i rest ih =>
    obtain ⟨rfl, hrest⟩ := h
    exact (hparts i List.mem_cons_self).append (ih hrest fun j hj => hparts j (List.mem_cons_of_mem _ hj))

theorem map {f : ι → κ} (h : Carried (fun i => found' (f i)) (fun i => left' (f i)) a things b) :
    Carried found' left' a (things.map f) b := by
  induction things generalizing a with
  | nil => exact h
  | cons i rest ih => exact ⟨h.1, ih h.2⟩

/-- What each thing leaves as it finds it, all of them leave as they find it. -/
theorem keeps {p : α → β} (h : Carried found left a things b) (hp : ∀ i ∈ things, p (left i) = p (found i)) :
    (∀ i ∈ things, p (found i) = p a) ∧ p b = p a := by
  induction things generalizing a with
  | nil =>
    obtain rfl := h
    exact ⟨nofun, rfl⟩
  | cons i rest ih =>
    obtain ⟨rfl, hrest⟩ := h
    obtain ⟨hfirst, hothers⟩ := List.forall_mem_cons.mp hp
    obtain ⟨hfound, hlast⟩ := ih hrest hothers
    exact ⟨List.forall_mem_cons.mpr ⟨rfl, fun j hj => (hfound j hj).trans hfirst⟩, hlast.trans hfirst⟩

end Carried
end ExEditor
