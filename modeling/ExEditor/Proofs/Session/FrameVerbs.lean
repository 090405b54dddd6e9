import ExEditor.Proofs.Session.Relay
import ExEditor.Proofs.Session.Uniform

/-! Verbs that work on the frame alone, or on the session apart from it. They leave whatever else there is as it was:
the registers, the last search, the store and the files. -/
namespace ExEditor

theorem Change.Keeps.imp {P Q : Editor → Prop} {c : Change} (h : c.Keeps P) (hPQ : ∀ after, P after → Q after) :
    c.Keeps Q :=
  fun after outcome hc => hPQ after (h after outcome hc)

namespace Editor
open Change

/-- An editor in which nothing but the frame may be another. -/
def Reframes (ed after : Editor) : Prop := after = ed.mapFrame fun _ => after.frame

theorem reframes_mapFrame (ed : Editor) (g : Frame → Frame) : ed.Reframes (ed.mapFrame g) := rfl

theorem Apart.reframes {α : Type} {part : Editor → α} (h : Apart part) {ed after : Editor}
    (hafter : ed.Reframes after) : part after = part ed := by
  rw [hafter]
  exact h.mapFrame ed _

variable (ed : Editor) (r : AddressRange)

theorem goto_reframes : (ed.goto r).Keeps ed.Reframes := keeps_bind fun _ _ => keeps_ok _ (ed.reframes_mapFrame _)

theorem put_reframes (line : Nat) (t : Text) : (ed.put line t).Keeps ed.Reframes :=
  keeps_bind fun _ _ => keeps_ite (keeps_error _) <| keeps_ite (keeps_error _) <| keeps_ok _ (ed.reframes_mapFrame _)

theorem copy_reframes (destination : Nat) : (ed.copy r destination).Keeps ed.Reframes :=
  keeps_bind fun _ _ => keeps_ok _ (ed.reframes_mapFrame _)

theorem move_reframes (destination : Nat) : (ed.move r destination).Keeps ed.Reframes :=
  keeps_bind fun _ _ => keeps_ite (keeps_error _) <| keeps_ok _ (ed.reframes_mapFrame _)

theorem join_reframes (asIs : Bool) : (ed.join r asIs).Keeps ed.Reframes :=
  keeps_bind fun _ _ => keeps_ite (keeps_error _) <| keeps_ok _ (ed.reframes_mapFrame _)

theorem print_reframes (numbered : Bool) : (ed.print r numbered).Keeps ed.Reframes :=
  keeps_bind fun _ _ => keeps_ok _ (ed.reframes_mapFrame _)

theorem showLineNumber_reframes : (ed.showLineNumber r).Keeps ed.Reframes := keeps_bind fun _ _ => keeps_ok _ rfl

theorem setMark_reframes (t : Text) : (ed.setMark r t).Keeps ed.Reframes := by
  refine keeps_bind fun _ _ => ?_
  dsimp only
  split
  · exact keeps_ok _ (ed.reframes_mapFrame _)
  · exact keeps_error _

theorem shift_reframes (forward : Bool) (count : Nat) : (ed.shift r forward count).Keeps ed.Reframes :=
  keeps_bind fun _ _ => keeps_ok _ (ed.reframes_mapFrame _)

theorem sort_reframes (t : Text) : (ed.sort r t).Keeps ed.Reframes :=
  keeps_bind fun _ _ => keeps_bind fun _ _ => keeps_ok _ (ed.reframes_mapFrame _)

theorem changeDirectory_moves (t : Text) :
    (ed.changeDirectory t).Keeps fun after => ∃ cwd, after = { ed with session := { ed.session with cwd } } := by
  have hgo : ∀ x : Except Failure Text,
      Keeps (fun after => ∃ cwd, after = { ed with session := { ed.session with cwd } }) (do
        let target ← x
        if !ed.shelf.files.isDirectory target then throw (.io (.notADirectory target))
        return ({ ed with session := { ed.session with cwd := ed.shelf.files.canonical target } }, .success)) :=
    fun x => keeps_bind fun _ _ => keeps_ite (keeps_error _) (keeps_ok _ ⟨_, rfl⟩)
  unfold changeDirectory
  refine keeps_ite ?_ (hgo _)
  split
  · exact hgo _
  · exact keeps_error _

theorem switchHighlight_switches (t : Text) :
    (ed.switchHighlight t).Keeps fun after =>
      ∃ highlight, after = { ed with session := { ed.session with highlight } } := by
  unfold switchHighlight
  dsimp only
  split
  · exact keeps_ok _ ⟨_, rfl⟩
  · exact keeps_ok _ ⟨_, rfl⟩
  · exact keeps_ok _ ⟨_, rfl⟩
  · exact keeps_error _

end Editor
end ExEditor
