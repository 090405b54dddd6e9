import ExEditor.Program.Run
import ExEditor.Proofs.Session.Files

/-! A run of the program. It executes lines up to the first failure; only if there is none the file is written, after
its previous version has been kept; and the store is saved in the end in either case. -/
namespace ExEditor
namespace Program
open Editor

/-! ### Lines -/

/-- Lines that all succeed when they are executed one after the other. -/
def AllSucceed : List Text → Editor → Prop
  | [], _ => True
  | line :: rest, ed => (ed.execute line).2.isFailure = false ∧ AllSucceed rest (ed.execute line).1

instance decidableAllSucceed : (lines : List Text) → (ed : Editor) → Decidable (AllSucceed lines ed)
  | [], _ => inferInstanceAs (Decidable True)
  | _ :: rest, _ => @instDecidableAnd _ _ _ (decidableAllSucceed rest _)

section lines
variable {done rest lines : List Text} {line : Text} {ed : Editor}

end lines

section files
variable {files files' : FileTree} {path t : Text}

theorem placeOf_backupPath (files : FileTree) (path : Text) :
    files.placeOf (backupPath path) ≠ files.placeOf path :=
  FileTree.placeOf_append_ne (by decide) (List.mem_cons_self (a := '~')) (by decide)

/-- Before the text is written the file is moved to the place of the backup, if it is there. -/
theorem writeBack_kept (h : writeBack files path t = .ok files') :
    ∃ kept : FileTree, kept.write path (.text t) = .ok files' ∧ kept.workDir = files.workDir ∧
      ∀ names, names ≠ files.placeOf path → kept.held? names =
        if names = files.placeOf (backupPath path) then (files.held? (files.placeOf path)).or (files.held? names)
        else files.held? names := by
  unfold writeBack at h
  cases hhas : files.has path with
  | true =>
    rw [hhas, if_pos rfl] at h
    rcases hrename : files.rename path (backupPath path) with fault | kept <;> rw [hrename] at h
    · cases h
    · obtain ⟨⟨content, hcontent⟩, hmoved, hworkDir⟩ := FileTree.rename_held? hrename
      refine ⟨kept, ?_, hworkDir, fun names hnames => ?_⟩
      · dsimp only [bind, Except.bind, pure, Except.pure] at h
        split at h
        · next hwrite => cases h; exact hwrite
        · cases h
      · rw [hmoved, hcontent, if_neg hnames]
        rfl
  | false =>
    rw [hhas, if_neg Bool.false_ne_true] at h
    dsimp only [bind, Except.bind, pure, Except.pure] at h
    split at h
    · next hwrite =>
      cases h
      obtain ⟨names, hwritable, -⟩ := FileTree.writable_of_write hwrite
      have hnone := FileTree.held?_of_not_has hhas hwritable.found
      refine ⟨files, hwrite, rfl, fun other _ => ?_⟩
      rw [hnone]
      split <;> rfl
    · cases h

/-- Writing a file back puts the text at its place and what it held before at the place of the backup. -/
theorem writeBack_held? (h : writeBack files path t = .ok files') :
    files'.workDir = files.workDir ∧ ∀ names, files'.held? names =
      if names = files.placeOf path then some (.text t)
      else if names = files.placeOf (backupPath path) then (files.held? (files.placeOf path)).or (files.held? names)
      else files.held? names := by
  obtain ⟨kept, hwrite, hworkDir, hkept⟩ := writeBack_kept h
  obtain ⟨hwritten, hwrittenDir⟩ := FileTree.write_held? hwrite
  refine ⟨hwrittenDir.trans hworkDir, fun names => ?_⟩
  rw [hwritten, FileTree.placeOf_congr hworkDir]
  split
  · rfl
  · next hnames => exact hkept names hnames

end files

section store
variable {s : Setting} {a : Arguments}

theorem openShelf_path (s : Setting) (a : Arguments) :
    (openShelf s a).path = storePath? s.environment a ∧ (openShelf s a).files = s.files := by
  have hload : ∀ shelf r : Shelf, shelf.load = .ok r → r.path = shelf.path ∧ r.files = shelf.files := by
    intro shelf r h
    cases hpath : shelf.path with
    | none =>
      unfold Shelf.load at h
      rw [hpath] at h
      cases h
      exact ⟨rfl, rfl⟩
    | some path =>
      rcases Shelf.load_ok hpath h with ⟨-, rfl⟩ | ⟨-, -, -, -, -, rfl⟩ <;> exact ⟨hpath, rfl⟩
  unfold openShelf
  dsimp only
  split
  · next loaded hloaded => exact hload _ loaded hloaded
  · exact ⟨rfl, rfl⟩

/-- The store stands in its file, if it is kept in one. -/
def Flushed (shelf : Shelf) (files : FileTree) : Prop :=
  ∀ path, shelf.path = some path → shelf.loaded → files.readText path = .ok shelf.store.toText

/-- What is shown in a run, line by line. -/
def shownLines (shown : List Text) : Text := shown.flatMap (· ++ ['\n'])

theorem closeShelf_output (shelf : Shelf) (failed : Bool) (shown : List Text) :
    (closeShelf shelf failed shown).output = shownLines shown := by
  unfold closeShelf
  rcases shelf.save with ⟨fault | _, saved⟩ <;> rfl

theorem closeShelf_files (shelf : Shelf) (failed : Bool) (shown : List Text) :
    (closeShelf shelf failed shown).files = shelf.save.2.files := by
  unfold closeShelf
  rcases shelf.save with ⟨fault | _, saved⟩ <;> rfl

theorem closeShelf_failed (shelf : Shelf) (shown : List Text) : (closeShelf shelf true shown).exitCode = 1 := by
  unfold closeShelf
  rcases shelf.save with ⟨fault | _, saved⟩ <;> rfl

theorem closeShelf_saved {shelf : Shelf} (h : shelf.save.1 = .ok ()) (failed : Bool) (shown : List Text) :
    (closeShelf shelf failed shown).exitCode = (if failed then 1 else 0) ∧
      (closeShelf shelf failed shown).complaint = [] ∧ Flushed shelf (closeShelf shelf failed shown).files := by
  have hsave : shelf.save = (.ok (), shelf.save.2) := Prod.ext h rfl
  unfold closeShelf
  rw [hsave]
  exact ⟨rfl, rfl, fun path hpath hloaded => Shelf.readText_save hpath hloaded h⟩

/-- The file that is written in the end. -/
def written? (a : Arguments) : Option Text := if a.readOnly then none else a.file

theorem keepFile_eq (a : Arguments) (ed : Editor) :
    keepFile a ed =
      match written? a with
      | none => .ok (ed.shelf.files, [])
      | some path =>
        (writeBack ed.shelf.files path ed.frame.text).map fun files => (files, [writtenMessage path ed.frame.text]) := by
  unfold keepFile written?
  cases a.file with
  | none => cases a.readOnly <;> rfl
  | some path => cases a.readOnly <;> rfl

/-- What keeping the file changes. -/
theorem keepFile_held? {ed : Editor} {files : FileTree} {notice : List Text} (h : keepFile a ed = .ok (files, notice)) :
    files.workDir = ed.shelf.files.workDir ∧
      (∀ file ∈ written? a, writeBack ed.shelf.files file ed.frame.text = .ok files) ∧
      ∀ names, (∀ file ∈ written? a, names ≠ ed.shelf.files.placeOf file ∧
        names ≠ ed.shelf.files.placeOf (backupPath file)) → files.held? names = ed.shelf.files.held? names := by
  rw [keepFile_eq] at h
  cases hwritten : written? a with
  | none =>
    rw [hwritten] at h
    cases h
    exact ⟨rfl, nofun, fun _ _ => rfl⟩
  | some path =>
    rw [hwritten] at h
    dsimp only at h
    cases hback : writeBack ed.shelf.files path ed.frame.text with
    | error fault =>
      rw [hback] at h
      cases h
    | ok after =>
      rw [hback] at h
      cases h
      obtain ⟨hworkDir, hheld⟩ := writeBack_held? hback
      refine ⟨hworkDir, fun file hfile => ?_, fun names hnames => ?_⟩
      · rwa [← Option.some.inj hfile]
      · obtain ⟨hplace, hbackup⟩ := hnames path rfl
        rw [hheld, if_neg hplace, if_neg hbackup]

end store

/-! ### Runs -/

/-- Lines that leave the file at a place alone: the store is not kept there, and no process that they run changes it. -/
structure LeaveAlone (shelf : Shelf) (calls : List Call) (names : List Text) : Prop where
  store : shelf.place? ≠ some names
  processes : ∀ c ∈ calls, c.runsProcess → c.Spares names

/-- A run that has executed some lines, the last of which has failed. -/
structure Stopped (s : Setting) (a : Arguments) (first : Editor) (executed : List Text) : Prop where
  exitCode : (run s).exitCode = 1
  output : (run s).output = shownLines ((first.executeEach executed).host.messages ++ [failureNotice])
  flushed : (first.executeEach executed).shelf.save.1 = .ok () →
    (run s).complaint = [] ∧ Flushed (first.executeEach executed).shelf (run s).files
  unwritten : ∀ names, LeaveAlone (openShelf s a) (callsOfEach executed first) names →
    (run s).files.held? names = s.files.held? names

/-- A run that has executed all its lines, none of which has failed, and has kept the file. -/
structure Finished (s : Setting) (a : Arguments) (first : Editor) (executed notice : List Text) : Prop where
  exitCode : (run s).exitCode = 0
  complaint : (run s).complaint = []
  output : (run s).output = shownLines ((first.executeEach executed).host.messages ++ notice)
  flushed : Flushed (first.executeEach executed).shelf (run s).files
  written : ∀ file ∈ written? a, (openShelf s a).place? ≠ some (s.files.placeOf file) →
    (run s).files.held? (s.files.placeOf file) = some (.text (first.executeEach executed).frame.text)
  backedUp : ∀ file ∈ written? a, LeaveAlone (openShelf s a) (callsOfEach executed first) (s.files.placeOf file) →
    LeaveAlone (openShelf s a) (callsOfEach executed first) (s.files.placeOf (backupPath file)) →
    (run s).files.held? (s.files.placeOf (backupPath file)) =
      (s.files.held? (s.files.placeOf file)).or (s.files.held? (s.files.placeOf (backupPath file)))
  unwritten : ∀ names, LeaveAlone (openShelf s a) (callsOfEach executed first) names →
    (∀ file ∈ written? a, names ≠ s.files.placeOf file ∧ names ≠ s.files.placeOf (backupPath file)) →
    (run s).files.held? names = s.files.held? names

section runs
variable {s : Setting} {a : Arguments} {lines : List Text} {t : Text}

/-- What lines that are executed first leave on the disk. -/
structure Executed (s : Setting) (a : Arguments) (last : Editor) (calls : List Call) : Prop where
  place : last.shelf.place? = (openShelf s a).place?
  workDir : last.shelf.files.workDir = s.files.workDir
  unwritten : ∀ names, LeaveAlone (openShelf s a) calls names → last.shelf.files.held? names = s.files.held? names

theorem executed (s : Setting) (a : Arguments) (t : Text) (lines : List Text) :
    Executed s a ((openEditor s a (openShelf s a) t).executeEach lines)
      (callsOfEach lines (openEditor s a (openShelf s a) t)) := by
  have hshelf : (openEditor s a (openShelf s a) t).shelf = openShelf s a := rfl
  have hfiles := (openShelf_path s a).2
  obtain ⟨-, hpath, hloaded, hworkDir⟩ := executeEach_kept lines (openEditor s a (openShelf s a) t)
  refine ⟨Shelf.place?_congr hpath hloaded hworkDir, hworkDir.trans (by rw [hshelf, hfiles]), fun names hnames => ?_⟩
  have hstore : (openEditor s a (openShelf s a) t).shelf.place? ≠ some names := hnames.store
  rw [executeEach_spares hstore hnames.processes, hshelf, hfiles]

/-- What the flush leaves of what is held. -/
theorem closeShelf_held? (shelf : Shelf) (failed : Bool) (shown : List Text) {names : List Text}
    (h : shelf.place? ≠ some names) :
    (closeShelf shelf failed shown).files.held? names = shelf.files.held? names := by
  rw [closeShelf_files]
  exact shelf.saves_save.held names h

theorem stopped {first last : Editor} {executed : List Text} (hlast : first.executeEach executed = last)
    (hrun : run s = closeShelf last.shelf true (last.host.messages ++ [failureNotice]))
    (h : Executed s a last (callsOfEach executed first)) : Stopped s a first executed := by
  subst hlast
  refine ⟨?_, ?_, fun hsave => ?_, fun names hnames => ?_⟩ <;> rw [hrun]
  · exact closeShelf_failed _ _
  · exact closeShelf_output _ _ _
  · exact (closeShelf_saved hsave _ _).2
  · rw [closeShelf_held? _ _ _ (h.place ▸ hnames.store), h.unwritten names hnames]

theorem finished {first last : Editor} {executed notice : List Text} {files : FileTree}
    (hlast : first.executeEach executed = last) (hkept : keepFile a last = .ok (files, notice))
    (hrun : run s = closeShelf { last.shelf with files } false (last.host.messages ++ notice))
    (hsave : ({ last.shelf with files } : Shelf).save.1 = .ok ()) (h : Executed s a last (callsOfEach executed first)) :
    Finished s a first executed notice := by
  subst hlast
  obtain ⟨hworkDir, hback, hheld⟩ := keepFile_held? hkept
  have hplaces := FileTree.placeOf_congr h.workDir
  rw [hplaces] at hheld
  have hstore : ({ (first.executeEach executed).shelf with files } : Shelf).place? = (openShelf s a).place? := by
    rw [← h.place]
    exact Shelf.place?_congr rfl rfl hworkDir
  -- Nothing but the store is written after the file.
  have hclosed : ∀ names, (openShelf s a).place? ≠ some names → (run s).files.held? names = files.held? names := by
    intro names hnames
    rw [hrun]
    exact closeShelf_held? _ _ _ (hstore ▸ hnames)
  obtain ⟨hexit, hcomplaint, hflushed⟩ :=
    closeShelf_saved hsave false ((first.executeEach executed).host.messages ++ notice)
  rw [← hrun] at hexit hcomplaint hflushed
  refine ⟨hexit, hcomplaint, ?_, hflushed, fun file hfile hplace => ?_, fun file hfile hplace hbackup => ?_,
    fun names hnames hfile => ?_⟩
  · rw [hrun]
    exact closeShelf_output _ _ _
  · rw [hclosed _ hplace, (writeBack_held? (hback file hfile)).2, hplaces, if_pos rfl]
  · rw [hclosed _ hbackup.store, (writeBack_held? (hback file hfile)).2, hplaces, if_neg (placeOf_backupPath _ _),
      if_pos rfl, h.unwritten _ hplace, h.unwritten _ hbackup]
  · rw [hclosed _ hnames.store, hheld names hfile, h.unwritten names hnames]

end runs

end Program
end ExEditor
