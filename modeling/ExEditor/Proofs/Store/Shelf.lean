import ExEditor.Proofs.Disk.FileTree
import ExEditor.Proofs.Store.Document
import ExEditor.Recorder
import ExEditor.Register
import ExEditor.Store.Shelf

/-! A store and its file. What is saved is loaded again as it was. Once the file has been loaded it holds what
is in memory after every step, and before that no step writes to it. -/
namespace ExEditor
namespace Shelf

/-- A store that nothing has been done with, for a file on a disk. -/
def fresh (path : Text) (files : FileTree) : Shelf := { path := some path, files }

/-- Whether the document can be written to a path: the directories on the way can be made, which gives `tree`,
and the file can be written then. -/
structure Savable (files : FileTree) (path : Text) (tree : FileTree) (names : List Text) : Prop where
  made : (if (Path.parent? path).getD [] = [] then (.ok (), files)
    else files.makeDirectories ((Path.parent? path).getD [])) = (.ok (), tree)
  writable : tree.Writable path names

variable {s : Shelf} {path : Text} {files tree : FileTree} {names : List Text}

theorem save_of_savable (hpath : s.path = some path) (hloaded : s.loaded = true)
    (h : Savable s.files path tree names) :
    s.save = (.ok (), { s with files := tree.put names (.file (.text s.store.toText)) }) := by
  unfold save
  rw [hpath, hloaded]
  simp only [Bool.not_true, Bool.false_eq_true, ↓reduceIte, h.made, h.writable.write]

theorem savable_of_save (hpath : s.path = some path) (hloaded : s.loaded = true) (h : s.save.1 = .ok ()) :
    ∃ tree names, Savable s.files path tree names := by
  unfold save at h
  rw [hpath, hloaded] at h
  simp only [Bool.not_true, Bool.false_eq_true, ↓reduceIte] at h
  generalize hmade : (if (Path.parent? path).getD [] = [] then (.ok (), s.files)
    else s.files.makeDirectories ((Path.parent? path).getD [])) = made at h
  obtain ⟨_ | ⟨⟨⟩⟩, tree⟩ := made
  · cases h
  split at h
  · next hfault => cases hfault
  · cases h
  · next hwrite =>
    obtain ⟨names, hwritable, -⟩ := FileTree.writable_of_write hwrite
    exact ⟨tree, names, hmade, hwritable⟩

/-- What could be saved can be saved again. -/
theorem Savable.put (h : Savable files path tree names) (content : Content) :
    Savable (tree.put names (.file content)) path (tree.put names (.file content)) names where
  made := by
    have hmade := h.made
    split at hmade
    · next hempty => rw [if_pos hempty]
    · next hparent =>
      rw [if_neg hparent]
      exact FileTree.makeDirectories_again hmade h.writable
  writable := h.writable.put content

/-! What a load does, told by what is at the path. -/

theorem load_missing (hpath : s.path = some path) (h : s.files.has path = false) :
    s.load = .ok { s with loaded := true } := by
  obtain ⟨_, loaded, store, files⟩ := s
  cases hpath
  unfold load
  dsimp only at h ⊢
  rw [h, if_neg Bool.false_ne_true]

theorem load_nodes {t : Text} {nodes : List Node} (hpath : s.path = some path) (hhas : s.files.has path = true)
    (hread : s.files.readText path = .ok t) (hnodes : Store.readNodes? t = some nodes) :
    s.load = .ok { s with store := s.store.absorbAll nodes, loaded := true } := by
  obtain ⟨_, loaded, store, files⟩ := s
  cases hpath
  unfold load
  dsimp only at hhas hread ⊢
  rw [hhas, if_pos rfl, hread]
  dsimp only
  rw [hnodes]
  rfl

/-- A load that succeeds finds no file, or nodes that it adds. -/
theorem load_ok {r : Shelf} (hpath : s.path = some path) (h : s.load = .ok r) :
    (s.files.has path = false ∧ r = { s with loaded := true }) ∨
      ∃ t nodes, s.files.has path = true ∧ s.files.readText path = .ok t ∧ Store.readNodes? t = some nodes ∧
        r = { s with store := s.store.absorbAll nodes, loaded := true } := by
  obtain ⟨_, loaded, store, files⟩ := s
  cases hpath
  unfold load at h
  dsimp only at h
  split at h
  · next hhas =>
    split at h
    · cases h
    · next t hread =>
      split at h
      · cases h
      · next nodes hnodes =>
        cases h
        exact .inr ⟨t, nodes, hhas, hread, hnodes, rfl⟩
  · next hhas =>
    cases h
    exact .inl ⟨by simpa using hhas, rfl⟩

/-- A load adds nodes, none if there is no file. -/
theorem load_store {r : Shelf} (h : s.load = .ok r) : ∃ nodes, r.store = s.store.absorbAll nodes := by
  rcases hpath : s.path with _ | path
  · unfold load at h
    rw [hpath] at h
    cases h
    exact ⟨[], rfl⟩
  · rcases load_ok hpath h with ⟨-, rfl⟩ | ⟨t, nodes, -, -, -, rfl⟩
    · exact ⟨[], rfl⟩
    · exact ⟨nodes, rfl⟩

/-- Whether a load fails, and how, is a matter of the file. -/
theorem load_error {s' : Shelf} {fault : StoreFault} (hpath : s'.path = s.path) (hfiles : s'.files = s.files)
    (h : s.load = .error fault) : s'.load = .error fault := by
  unfold load at h ⊢
  rw [hpath, hfiles]
  split at h
  · cases h
  · split at h
    · next hhas =>
      rw [if_pos hhas]
      split at h
      · exact h
      · split at h
        · exact h
        · cases h
    · cases h

/-- The file holds what is in the store: read by itself it makes a store that holds the same. -/
def Mirrored (path : Text) (files : FileTree) (store : Store) : Prop :=
  ∃ again, (fresh path files).load = .ok again ∧ again.store.Same store

theorem mirrored_put {store : Store} (hstore : store.WellFormed) (h : tree.Writable path names) :
    Mirrored path (tree.put names (.file (.text store.toText))) store :=
  ⟨_, load_nodes rfl (h.has_put _) (h.readText_put _) store.readNodes?_toText, Store.absorbAll_nodes hstore⟩

/-- Saving a store and loading the file gives back what the store holds. -/
theorem save_then_load {s : Shelf} {path : Text} (hpath : s.path = some path) (hloaded : s.loaded = true)
    (hstore : s.store.WellFormed) (hsave : s.save.1 = .ok ()) :
    s.save.2.files.readText path = .ok s.store.toText ∧
      ∃ again, (fresh path s.save.2.files).load = .ok again ∧ again.store.Same s.store := by
  obtain ⟨tree, names, h⟩ := savable_of_save hpath hloaded hsave
  rw [save_of_savable hpath hloaded h]
  exact ⟨h.writable.readText_put _, mirrored_put hstore h.writable⟩

/-- A store with names and texts of every kind, in a directory that is yet to be made. -/
theorem save_then_load_unicode :
    let store : Store := {
      macros := [("", []), ("\n\t\u0001", ["s/\"a\"/\\\\/", "p"]), ("ф", [""])]
      abbreviations := [("a\"b", "\u001f\u007f"), ("😀", "")]
      mappings := {
        plain := some [("jj", "<Esc>")]
        alt := some []
        control := some [("<C-x>", "dd")]
        key := some [("<F1>", "\\"), ("é", "\r")] }
      vars := [
        ("date", { name := "date", kind := .builtin, format := some "%Y", ask := false }),
        ("x", { name := "x", kind := .inputSave, value := some "", linePrefix := some "// " })] }
    let s : Shelf := { path := some "/home/store.json", loaded := true, store }
    s.save.2.files.readText "/home/store.json" = .ok store.toText ∧
      ∃ again, (fresh "/home/store.json" s.save.2.files).load = .ok again ∧ again.store.Same store :=
  save_then_load rfl rfl
    { macros := by decide +kernel
      abbreviations := by decide +kernel
      mappings := fun kind => by cases kind <;> decide +kernel
      vars := by decide +kernel
      named := by decide +kernel }
    rfl

/-- What can be done with a store. -/
inductive Step
  | load
  | save
  | setMacro (name : Text) (commands : List Text)
  | appendMacro (name command : Text)
  | removeMacro (name : Text)
  | setAbbreviation (lhs rhs : Text)
  | removeAbbreviation (lhs : Text)
  | setMapping (lhs rhs : Text)
  | removeMapping (lhs : Text)
  | setVariable (v : Variable)

/-- The store after a step. A load that fails changes nothing. -/
def step (s : Shelf) : Step → Shelf
  | .load =>
    match s.load with
    | .ok s => s
    | .error _ => s
  | .save => s.save.2
  | .setMacro name commands => s.setMacro name commands
  | .appendMacro name command => s.appendMacro name command
  | .removeMacro name => (s.removeMacro name).1
  | .setAbbreviation lhs rhs => s.update (s.store.setAbbreviation lhs rhs)
  | .removeAbbreviation lhs => (s.update? (s.store.removeAbbreviation? lhs)).1
  | .setMapping lhs rhs => s.update (s.store.setMapping lhs rhs)
  | .removeMapping lhs => (s.update? (s.store.removeMapping? lhs)).1
  | .setVariable v => s.setVariable v

/-- The store after steps. -/
def run (s : Shelf) (steps : List Step) : Shelf := steps.foldl step s

/-- A shelf that is left alone, or saved with a store that is as well formed as before. -/
def Updates (s after : Shelf) : Prop :=
  after = s ∨ ∃ store, (s.store.WellFormed → store.WellFormed) ∧ after = s.update store

theorem updates_update? (s : Shelf) {store? : Option Store}
    (h : ∀ store, store? = some store → s.store.WellFormed → store.WellFormed) :
    s.Updates (s.update? store?).1 := by
  cases store? with
  | none => exact .inl rfl
  | some store => exact .inr ⟨store, h store rfl, rfl⟩

/-- All that steps other than loads do is saving a store. -/
theorem step_updates (s : Shelf) {step : Step} (hstep : step ≠ .load) : s.Updates (s.step step) := by
  cases step with
  | load => exact absurd rfl hstep
  | save => exact .inr ⟨s.store, id, rfl⟩
  | setMacro name commands => exact .inr ⟨_, fun h => h.setMacro name commands, rfl⟩
  | appendMacro name command => exact .inr ⟨_, fun h => h.setMacro name _, rfl⟩
  | removeMacro name => exact s.updates_update? fun _ hs h => h.removeMacro? hs
  | setAbbreviation lhs rhs => exact .inr ⟨_, fun h => h.setAbbreviation lhs rhs, rfl⟩
  | removeAbbreviation lhs => exact s.updates_update? fun _ hs h => h.removeAbbreviation? hs
  | setMapping lhs rhs => exact .inr ⟨_, fun h => h.setMapping lhs rhs, rfl⟩
  | removeMapping lhs => exact s.updates_update? fun _ hs h => h.removeMapping? hs
  | setVariable v => exact .inr ⟨_, fun h => h.setVariable v, rfl⟩

/-- A change stays in memory, whether it could be written or not. -/
theorem update_store (s : Shelf) (store : Store) : (s.update store).store = store := by
  unfold update save
  split
  · rfl
  · split
    · rfl
    · dsimp only
      split <;> rfl

theorem step_wellFormed (h : s.store.WellFormed) (step : Step) : (s.step step).store.WellFormed := by
  by_cases hload : step = .load
  · subst hload
    unfold Shelf.step
    rcases hload : s.load with fault | r
    · exact h
    · obtain ⟨nodes, hnodes⟩ := load_store hload
      change r.store.WellFormed
      rw [hnodes]
      exact h.absorbAll nodes
  · rcases s.step_updates hload with hsame | ⟨store, hstore, hupdate⟩
    · rw [hsame]
      exact h
    · rw [hupdate, update_store]
      exact hstore h

/-- Whatever is done, on any disk, the store is well formed. -/
theorem run_wellFormed (h : s.store.WellFormed) (steps : List Step) : (s.run steps).store.WellFormed := by
  induction steps generalizing s with
  | nil => exact h
  | cons step steps ih => exact ih (step_wellFormed h step)

/-! A store whose file could not be loaded. -/

/-- A store that has never been loaded, over a file that cannot be. -/
structure Shut (path : Text) (files : FileTree) (s : Shelf) : Prop where
  place : s.path = some path
  unwritten : s.files = files
  unloaded : s.loaded = false

theorem Shut.update (h : Shut path files s) (store : Store) : Shut path files (s.update store) := by
  have hsave : s.update store = { s with store } := by
    unfold Shelf.update save
    simp [h.place, h.unloaded]
  rw [hsave]
  exact ⟨h.place, h.unwritten, h.unloaded⟩

theorem Shut.step {fault : StoreFault} (h : Shut path files s) (hfault : (fresh path files).load = .error fault)
    (step : Step) : Shut path files (s.step step) := by
  by_cases hload : step = .load
  · subst hload
    have hagain : s.load = .error fault := load_error h.place h.unwritten hfault
    have hstep : s.step .load = s := by
      unfold Shelf.step
      rw [hagain]
    rw [hstep]
    exact h
  · rcases s.step_updates hload with hsame | ⟨store, -, hupdate⟩
    · rw [hsame]
      exact h
    · rw [hupdate]
      exact h.update store

theorem Shut.run {fault : StoreFault} (h : Shut path files s) (hfault : (fresh path files).load = .error fault)
    (steps : List Step) : Shut path files (s.run steps) :=
  List.foldlRecOn steps _ h fun _ hs step _ => hs.step hfault step

/-! A store whose file has been loaded. -/

/-- A loaded store whose file holds the same and can be written. -/
structure Kept (path : Text) (s : Shelf) : Prop where
  place : s.path = some path
  loaded : s.loaded = true
  wellFormed : s.store.WellFormed
  savable : ∃ tree names, Savable s.files path tree names
  mirrored : Mirrored path s.files s.store

theorem Kept.update (h : Kept path s) {store : Store} (hstore : store.WellFormed) : Kept path (s.update store) := by
  obtain ⟨tree, names, hsavable⟩ := h.savable
  have hsave : ({ s with store } : Shelf).save = _ := save_of_savable h.place h.loaded hsavable
  have hupdate : s.update store = { s with store, files := tree.put names (.file (.text store.toText)) } :=
    congrArg Prod.snd hsave
  rw [hupdate]
  exact ⟨h.place, h.loaded, hstore, ⟨_, _, hsavable.put _⟩, mirrored_put hstore hsavable.writable⟩

/-- A second load adds what is there. -/
theorem Kept.load (h : Kept path s) : ∃ r, s.load = .ok r ∧ Kept path r := by
  -- What the file makes by itself tells whether it is there, and which nodes it has.
  obtain ⟨again, hagain, hsame⟩ := h.mirrored
  rcases load_ok rfl hagain with ⟨hhas, -⟩ | ⟨t, nodes, hhas, hread, hnodes, rfl⟩
  · refine ⟨_, load_missing h.place hhas, ?_⟩
    exact ⟨h.place, rfl, h.wellFormed, h.savable, h.mirrored⟩
  · have hmerged : (Store.absorbAll {} nodes).Same (s.store.absorbAll nodes) :=
      (Store.absorbAll_again {} nodes).symm.trans (hsame.absorbAll nodes)
    refine ⟨_, load_nodes h.place hhas hread hnodes, h.place, rfl, h.wellFormed.absorbAll nodes, h.savable, ?_⟩
    exact ⟨_, hagain, hmerged⟩

theorem Kept.step (h : Kept path s) (step : Step) : Kept path (s.step step) := by
  by_cases hload : step = .load
  · subst hload
    obtain ⟨r, hr, hkept⟩ := h.load
    unfold Shelf.step
    rw [hr]
    exact hkept
  · rcases s.step_updates hload with hsame | ⟨store, hstore, hupdate⟩
    · rw [hsame]
      exact h
    · rw [hupdate]
      exact h.update (hstore h.wellFormed)

theorem Kept.run (h : Kept path s) (steps : List Step) : Kept path (s.run steps) :=
  List.foldlRecOn steps _ h fun _ hs step _ => hs.step step

/-- The first load makes a store that its file holds. -/
theorem kept_first {first : Shelf} (hload : (fresh path files).load = .ok first)
    (hsave : ({ fresh path files with loaded := true } : Shelf).save.1 = .ok ()) : Kept path first := by
  have hsavable : ∃ tree names, Savable files path tree names := savable_of_save rfl rfl hsave
  have hmirrored : Mirrored path files first.store := ⟨first, hload, .refl _⟩
  rcases load_ok rfl hload with ⟨-, rfl⟩ | ⟨t, nodes, -, -, -, rfl⟩
  · exact ⟨rfl, rfl, .empty, hsavable, hmirrored⟩
  · exact ⟨rfl, rfl, Store.WellFormed.empty.absorbAll nodes, hsavable, hmirrored⟩

/-- A store that begins with a load, on any disk. If the load fails it changes nothing, and no step after it
writes to the disk. If it succeeds, and the file can be written, the file read by itself holds what is in memory
after any steps. -/
theorem run_mirrors (path : Text) (files : FileTree) (steps : List Step) :
    (∀ fault, (fresh path files).load = .error fault →
      (fresh path files).step .load = fresh path files ∧
        ((fresh path files).run (.load :: steps)).files = files) ∧
    (∀ first, (fresh path files).load = .ok first →
      ({ fresh path files with loaded := true } : Shelf).save.1 = .ok () →
      ∃ again, (fresh path ((fresh path files).run (.load :: steps)).files).load = .ok again ∧
        again.store.Same ((fresh path files).run (.load :: steps)).store) := by
  constructor
  · intro fault hfault
    have hshut : Shut path files (fresh path files) := ⟨rfl, rfl, rfl⟩
    refine ⟨?_, (hshut.run hfault (.load :: steps)).unwritten⟩
    unfold step
    rw [hfault]
  · intro first hfirst hsave
    have hstart : (fresh path files).run (.load :: steps) = first.run steps := by
      have hstep : (fresh path files).step .load = first := by
        unfold step
        rw [hfirst]
      rw [← hstep]
      rfl
    rw [hstart]
    exact ((kept_first hfirst hsave).run steps).mirrored

/-- A file that is no document is kept as it is. One that has a name twice is loaded, and holds what is in memory
also after a removal that finds nothing and a second load. -/
theorem run_mirrors_twice_named :
    let node : Text := "\x7b\"kind\":\"abbreviation\",\"name\":\"a\",\"value\":\"1\"\x7d"
    let holding (t : Text) : FileTree := { entries := [(["s".toList], .file (.text t))] }
    let document : Text := "\x7b\"nodes\":[" ++ node ++ "," ++ node ++ "]\x7d"
    let steps : List Step := [.removeMacro "m", .load, .setMapping "<C-x>" "dd", .removeMapping "<C-x>", .save]
    ((fresh "/s" (holding "nodes")).run (.load :: steps)).files = holding "nodes" ∧
      ∃ again, (fresh "/s" ((fresh "/s" (holding document)).run (.load :: steps)).files).load = .ok again ∧
        again.store.Same ((fresh "/s" (holding document)).run (.load :: steps)).store := by
  intro node holding document steps
  have hmalformed : (fresh "/s" (holding "nodes")).load = .error (.malformed "/s") := by rfl
  have hnodes : Store.readNodes? document = some [.abbreviation "a" "1", .abbreviation "a" "1"] := by
    decide +kernel
  have hloaded := load_nodes (s := fresh "/s" (holding document)) rfl rfl rfl hnodes
  exact ⟨((run_mirrors "/s" (holding "nodes") steps).1 _ hmalformed).2,
    (run_mirrors "/s" (holding document) steps).2 _ hloaded rfl⟩

end Shelf

/-! Changes of a store write one file, its own. Whatever is done with registers and recordings, what the other files
hold stays as it was, and so does the place of the store. -/

namespace Shelf
variable {s after last : Shelf}

/-- The place of the file that the store is written to, if it is written to one. -/
def place? (s : Shelf) : Option (List Text) := if s.loaded then s.path.map s.files.placeOf else none

theorem place?_congr (hpath : after.path = s.path) (hloaded : after.loaded = s.loaded)
    (hworkDir : after.files.workDir = s.files.workDir) : after.place? = s.place? := by
  rw [place?, hpath, hloaded, FileTree.placeOf_congr hworkDir]
  rfl

/-- A shelf after steps that write no file but that of the store. -/
structure Saves (s after : Shelf) : Prop where
  path : after.path = s.path
  loaded : after.loaded = s.loaded
  workDir : after.files.workDir = s.files.workDir
  held : ∀ names, s.place? ≠ some names → after.files.held? names = s.files.held? names

namespace Saves

theorem refl (s : Shelf) : s.Saves s := ⟨rfl, rfl, rfl, fun _ _ => rfl⟩

theorem place (h : s.Saves after) : after.place? = s.place? := place?_congr h.path h.loaded h.workDir

theorem trans (h : s.Saves after) (h' : after.Saves last) : s.Saves last where
  path := h'.path.trans h.path
  loaded := h'.loaded.trans h.loaded
  workDir := h'.workDir.trans h.workDir
  held names hnames := (h'.held names (h.place ▸ hnames)).trans (h.held names hnames)

end Saves

theorem saves_save (s : Shelf) : s.Saves s.save.2 := by
  obtain ⟨_ | path, _ | _, store, files⟩ := s
  · exact .refl _
  · exact .refl _
  · exact .refl _
  · unfold save
    simp only [Bool.not_true, Bool.false_eq_true, ↓reduceIte]
    generalize hmade : (if (Path.parent? path).getD [] = [] then (Except.ok (), files)
      else files.makeDirectories ((Path.parent? path).getD [])) = made
    -- The directories on the way hold nothing, and the file is written at the place of the store.
    obtain ⟨hheld, hworkDir⟩ :
        (∀ names, made.2.held? names = files.held? names) ∧ made.2.workDir = files.workDir := by
      rw [← hmade]
      split
      · exact ⟨fun _ => rfl, rfl⟩
      · exact ⟨fun names => (files.makeDirectories_held? _ names).1, (files.makeDirectories_held? _ []).2⟩
    obtain ⟨result, tree⟩ := made
    split
    · exact ⟨rfl, rfl, hworkDir, fun names _ => hheld names⟩
    · exact ⟨rfl, rfl, hworkDir, fun names _ => hheld names⟩
    · next after hwrite =>
      obtain ⟨hwritten, hkept⟩ := FileTree.write_held? hwrite
      refine ⟨rfl, rfl, hkept.trans hworkDir, fun names hnames => ?_⟩
      have hplace : names ≠ tree.placeOf path := by
        rintro rfl
        exact hnames (congrArg some (congrFun (FileTree.placeOf_congr hworkDir.symm) path))
      exact (hwritten names).trans ((if_neg hplace).trans (hheld names))

theorem saves_update (s : Shelf) (store : Store) : s.Saves (s.update store) :=
  have h := saves_save { s with store }
  ⟨h.path, h.loaded, h.workDir, h.held⟩

theorem saves_update? (s : Shelf) (store? : Option Store) : s.Saves (s.update? store?).1 := by
  cases store? with
  | none => exact .refl s
  | some store => exact s.saves_update store

/-- A store that has been saved stands in its file. -/
theorem readText_save {path : Text} (hpath : s.path = some path) (hloaded : s.loaded = true)
    (h : s.save.1 = .ok ()) : s.save.2.files.readText path = .ok s.store.toText := by
  obtain ⟨tree, names, hsavable⟩ := savable_of_save hpath hloaded h
  rw [save_of_savable hpath hloaded hsavable]
  exact hsavable.writable.readText_put _

end Shelf

namespace Registers

theorem saves_set (r : Registers) (name : RegisterName) (t : Text) : r.shelf.Saves (r.set name t).shelf := by
  cases name with
  | clipboard | blackHole => exact .refl _
  | _ => exact r.shelf.saves_update _

theorem saves_yank (r : Registers) (name : Option RegisterName) (t : Text) :
    r.shelf.Saves (r.yank name t).shelf := by
  cases name with
  | none => exact r.saves_set .yank t
  | some name => exact r.saves_set name t

theorem saves_shiftFrom (shelf : Shelf) (n : Nat) : shelf.Saves (shiftFrom shelf n) := by
  unfold shiftFrom
  split
  · exact shelf.saves_update _
  · exact shelf.saves_update? _

theorem saves_shifts (shelf : Shelf) (numbers : List Nat) : shelf.Saves (numbers.foldl shiftFrom shelf) :=
  List.foldlRecOn numbers shiftFrom (.refl shelf) fun later h n _ => h.trans (saves_shiftFrom later n)

theorem saves_delete (r : Registers) (name : Option RegisterName) (t : Text) :
    r.shelf.Saves (r.delete name t).shelf := by
  cases name with
  | none =>
    have hshifts := saves_shifts r.shelf [8, 7, 6, 5, 4, 3, 2, 1]
    unfold delete
    dsimp only
    generalize [8, 7, 6, 5, 4, 3, 2, 1].foldl shiftFrom r.shelf = shelf at hshifts ⊢
    exact hshifts.trans (saves_set { r with shelf } (.numbered 1) t)
  | some name => exact r.saves_set name t

end Registers

namespace Recording

theorem saves_keep (r : Recording) (shelf : Shelf) : shelf.Saves (r.keep shelf) := by
  unfold keep
  split
  · split
    · exact .refl shelf
    · exact shelf.saves_update? _
  · split
    · exact List.foldlRecOn r.stored _ (Shelf.Saves.refl shelf) fun later h command _ =>
        h.trans (later.saves_update _)
    · exact shelf.saves_update _

end Recording

namespace Recorder

theorem saves_start {r : Recorder} {shelf after : Shelf} {name : Text} {recording : Recording}
    (h : r.start shelf name = .ok (recording, after)) : shelf.Saves after := by
  unfold start at h
  split at h
  · cases h
  · split at h
    · cases h
    · split at h
      · cases h
        exact .refl shelf
      · cases h
        exact shelf.saves_update? _

end Recorder
end ExEditor
