import ExEditor.Proofs.Disk.FileTree
import ExEditor.Proofs.Session.Calls
import Mathlib.Data.List.Perm.Subperm
import Mathlib.Tactic.IntervalCases

/-! Lines do not run inside themselves. Each line that a line starts lies in one more macro, in one more
script or in the one global command. So lines nest no deeper than there are macros to play and scripts to
read, and two: the line at the top and the global command. -/
namespace ExEditor

/-- What may come to be under way where a line is started. -/
inductive Running.Enters (running : Running) (ed : Editor) : Running → Prop
  | play {name : Text} {lines : List Text} (h : Editor.playable running ed name = .ok lines)
    (hkey : ∃ written, name = Editor.macroKey written) : Enters running ed (running.playingOf name)
  | source {name script : Text} (hnew : ed.scriptPath name ∉ running.sourcing)
    (hread : ed.shelf.files.readText (ed.scriptPath name) = .ok script) :
    Enters running ed (running.sourcingOf (ed.scriptPath name))
  | global (h : running.inGlobal = false) : Enters running ed running.visiting

theorem Running.Enters.log {running inner : Running} {ed : Editor} {c : Command}
    (h : running.Enters (ed.log c) inner) : running.Enters ed inner := by
  cases h with
  | play hp hkey => exact .play hp hkey
  | source hnew hread => exact .source hnew hread
  | global hg => exact .global hg

theorem Running.Enters.mapFrame {running inner : Running} {ed : Editor} {g : Frame → Frame}
    (h : running.Enters (ed.mapFrame g) inner) : running.Enters ed inner := by
  cases h with
  | play hp hkey => exact .play hp hkey
  | source hnew hread => exact .source hnew hread
  | global hg => exact .global hg

/-- A register is kept as a macro of its own name. -/
theorem RegisterName.slot_ofChar {c : Char} {r : RegisterName} {slot : Text} (hc : ¬ ('A' ≤ c ∧ c ≤ 'Z'))
    (h : RegisterName.ofChar? c = some r) (hs : r.slot? = some slot) : slot = [c] := by
  unfold RegisterName.ofChar? at h
  split_ifs at h with named yank numbered last <;> cases h <;> cases hs
  · rfl
  · rw [yank]
  · obtain ⟨hone, hnine⟩ := numbered
    have hone : 49 ≤ c.toNat := hone
    have hnine : c.toNat ≤ 57 := hnine
    rw [← Char.ofNat_toNat c]
    generalize c.toNat = n at hone hnine ⊢
    interval_cases n <;> rfl
  · rw [last]

theorem RegisterName.eq_of_clipboard {c : Char} (h : RegisterName.ofChar? c = some .clipboard) :
    c = '"' ∨ c = '*' := by
  unfold RegisterName.ofChar? at h
  split_ifs at h <;> simp_all

theorem toLower_not_upper (c : Char) : ¬ ('A' ≤ c.toLower ∧ c.toLower ≤ 'Z') := by
  rintro ⟨hlow, hhigh⟩
  unfold Char.toLower at hlow hhigh
  split at hhigh
  · next h =>
    have hhigh : (c.val + 32).toNat ≤ 90 := hhigh
    have hA : 65 ≤ c.val.toNat := h.1
    have hZ : c.val.toNat ≤ 90 := h.2
    rw [UInt32.toNat_add] at hhigh
    have h32 : (32 : UInt32).toNat = 32 := rfl
    omega
  · next h =>
    rw [dif_neg h] at hlow
    exact h ⟨hlow, hhigh⟩

namespace Editor

/-- The macros that there are: those kept, and the clipboard. -/
def keptMacros (ed : Editor) : List Text :=
  ed.shelf.store.macros.map Prod.fst ++ if ed.context.registers.clipboard = [] then [] else [['"'], ['*']]

theorem mem_of_find {table : Table (List Text)} {name : Text} {commands : List Text}
    (h : table.find? name = some commands) : name ∈ table.map Prod.fst := by
  obtain ⟨before, after, htable, -⟩ := List.lookup_eq_some_iff.mp h
  simp [htable]

theorem macroKey_singleton {written : Text} {c : Char} (h : macroKey written = [c]) :
    ¬ ('A' ≤ c ∧ c ≤ 'Z') := by
  unfold macroKey at h
  split at h
  · next hone =>
    obtain ⟨c', rfl⟩ := List.length_eq_one_iff.mp (eq_of_beq hone)
    cases h
    exact toLower_not_upper c'
  · next hone => exact absurd (by rw [h]; rfl) hone

/-- A macro that has lines is one that there is. -/
theorem mem_keptMacros {ed : Editor} {written : Text} {lines : List Text}
    (h : ed.macroLines (macroKey written) = some lines) : macroKey written ∈ ed.keptMacros := by
  unfold keptMacros
  generalize hkey : macroKey written = name at h
  unfold macroLines at h
  split at h
  · next c =>
    obtain ⟨r, hr, h⟩ := Option.bind_eq_some_iff.mp h
    have hget : ed.context.registers.get r ≠ [] := by
      intro hnil
      simp [hnil, show Text.rows [] = [] from rfl] at h
    unfold Registers.get at hget
    split at hget
    · next slot hs =>
      cases RegisterName.slot_ofChar (macroKey_singleton hkey) hr hs
      cases hc : ed.shelf.store.commands? [c] with
      | none => exact absurd (by rw [show ed.context.registers.shelf = ed.shelf from rfl, hc]; rfl) hget
      | some commands => exact List.mem_append_left _ (mem_of_find hc)
    · next hs =>
      split at hget
      · next hclip =>
        subst hclip
        rw [if_neg hget]
        refine List.mem_append_right _ ?_
        rcases RegisterName.eq_of_clipboard hr with rfl | rfl <;> simp
      · exact absurd rfl hget
  · exact List.mem_append_left _ (mem_of_find h)

/-- A macro that may be played is not being recorded and not playing. -/
theorem playable_ok {running : Running} {ed : Editor} {name : Text} {lines : List Text}
    (h : playable running ed name = .ok lines) :
    ed.session.recorder.name? ≠ some name ∧ name ∉ running.playing ∧ ed.macroLines name = some lines := by
  unfold playable at h
  split at h
  · cases h
  · next hrecorded =>
    split at h
    · cases h
    · next hplaying =>
      split at h
      · cases h
      · next hlines =>
        cases h
        exact ⟨hrecorded, by simpa using hplaying, hlines⟩

section starts
variable {run : Runner} {running : Running} {ed : Editor} {c : Call}

theorem running_of_playLines {lines : List Text} (h : c ∈ playLinesCalls run running lines ed) :
    c.running = running := by
  induction lines generalizing ed with
  | nil => cases h
  | cons line rest ih =>
    unfold playLinesCalls at h
    generalize ed.look = looked at h
    rcases looked with ⟨_ | _, ed'⟩
    · rcases List.mem_cons.mp h with rfl | h
      · rfl
      · split at h
        · cases h
        · exact ih h
    · cases h

theorem running_of_playTimes {name : Text} {lines : List Text} {n : Nat}
    (h : c ∈ playTimesCalls run running name lines n ed) : c.running = running := by
  induction n generalizing ed with
  | zero => cases h
  | succ n ih =>
    rcases List.mem_append.mp h with h | h
    · exact running_of_playLines h
    · split at h
      · cases h
      · exact ih h

theorem running_of_runScript {lines : List Text} (h : c ∈ runScriptCalls run running lines ed) :
    c.running = running := by
  induction lines generalizing ed with
  | nil => cases h
  | cons line rest ih =>
    unfold runScriptCalls at h
    split at h
    · cases h
    · generalize ed.look = looked at h
      rcases looked with ⟨_ | _, ed'⟩
      · rcases List.mem_cons.mp h with rfl | h
        · rfl
        · split at h
          · exact ih h
          · exact ih h
          · cases h
      · cases h

theorem enters_play {name : Text} {count : Int} (h : c ∈ playCalls run running name count ed) :
    running.Enters ed c.running := by
  unfold playCalls at h
  split at h
  · cases h
  · split at h
    · cases h
    · next lines hp =>
      rw [running_of_playTimes h]
      exact .play hp ⟨name, rfl⟩

theorem enters_playCommand {count name : Text} (h : c ∈ playCommandCalls run running count name ed) :
    running.Enters ed c.running := by
  unfold playCommandCalls at h
  dsimp only at h
  split at h
  · cases h
  split at h
  · exact enters_play h
  · split at h
    · cases h
    · exact enters_play h

theorem enters_source {name : Text} (h : c ∈ sourceCalls run running name ed) :
    running.Enters ed c.running := by
  unfold sourceCalls at h
  split at h
  · cases h
  split at h
  · cases h
  · next hnew =>
    split at h
    · cases h
    · next script hread =>
      rw [running_of_runScript h]
      exact .source (by simpa using hnew) hread

theorem enters_global {r : AddressRange} {t : Text} {invert : Bool} {ed' : Editor}
    (h : c ∈ globalCalls run running r t invert ed') : running.Enters ed c.running := by
  unfold globalCalls at h
  split at h
  · cases h
  · next v hv =>
    obtain ⟨visit, -, rfl⟩ := List.mem_map.mp h
    obtain ⟨g, m, first, last, hprepared, -⟩ := beginGlobal_ok hv
    exact .global (prepareGlobal_ok hprepared).1

/-- A line is started in one more macro or script, or in the one global command. -/
theorem enters_runParsed {line : Text} (h : c ∈ runParsedCalls run running line ed) :
    running.Enters ed c.running := by
  unfold runParsedCalls at h
  split at h
  · next command _ =>
    split at h
    · cases h
    · unfold dispatchCalls at h
      split at h
      · exact (enters_playCommand h).log
      · exact (enters_source h).log
      · split at h
        · cases h
        · exact enters_global h
      · cases h
  · cases h

end starts
end Editor

namespace Call
open Editor

/-- What is under way around the lines that a line starts, the line itself included. -/
def inner (c : Call) : Running := { c.running with invoking := c.running.invoking ++ [c.line] }

/-- The lines that a line starts itself. -/
def starts (n : Nat) (c : Call) : List Call :=
  runParsedCalls (runLine n) c.inner c.line (c.editor.mapFrame Frame.openGroup)

/-- The lines at a depth below a line. The first argument bounds how deep lines nest. -/
def nested : Nat → Nat → Call → List Call
  | _, 0, c => [c]
  | 0, _ + 1, _ => []
  | n + 1, d + 1, c => (c.starts n).flatMap (nested n d)

/-- The macros that may be played and the scripts that can be read at some moment while a line runs are
among these. -/
structure Covered (names paths : List Text) (n : Nat) (c : Call) : Prop where
  macros : ∀ d, ∀ c' ∈ c.nested n d, ∀ written,
    (playable c'.running c'.editor (macroKey written)).isOk → macroKey written ∈ names
  scripts : ∀ d, ∀ c' ∈ c.nested n d, ∀ name,
    (c'.editor.shelf.files.readText (c'.editor.scriptPath name)).isOk → c'.editor.scriptPath name ∈ paths

variable {names paths : List Text} {n : Nat} {c c' : Call}

theorem Covered.start (h : Covered names paths (n + 1) c) (hc : c' ∈ c.starts n) :
    Covered names paths n c' where
  macros d c'' hc'' := h.macros (d + 1) c'' (List.mem_flatMap.mpr ⟨c', hc, hc''⟩)
  scripts d c'' hc'' := h.scripts (d + 1) c'' (List.mem_flatMap.mpr ⟨c', hc, hc''⟩)

theorem nested_eq_nil {d : Nat} (h : n < d) : c.nested n d = [] := by
  induction n generalizing d c with
  | zero =>
    obtain ⟨d, rfl⟩ := Nat.exists_eq_add_of_lt h
    rfl
  | succ n ih =>
    obtain ⟨d, rfl⟩ := Nat.exists_eq_add_of_lt h
    exact List.flatMap_eq_nil_iff.mpr fun c' _ => ih (by omega)

/-- The macros that there are and the files on the disk are all that may be played and read. -/
theorem Covered.of_kept (h : ∀ d ≤ n, ∀ c' ∈ c.nested n d, c'.editor.keptMacros ⊆ names ∧
    (c'.editor.shelf.files.entries.map fun e => Path.ofNames e.1) ⊆ paths) : Covered names paths n c := by
  have hall : ∀ d, ∀ c' ∈ c.nested n d, c'.editor.keptMacros ⊆ names ∧
      (c'.editor.shelf.files.entries.map fun e => Path.ofNames e.1) ⊆ paths := by
    intro d c' hc'
    rcases Nat.lt_or_ge n d with hd | hd
    · rw [nested_eq_nil hd] at hc'
      cases hc'
    · exact h d hd c' hc'
  constructor
  · intro d c' hc' written hok
    cases hp : playable c'.running c'.editor (macroKey written) with
    | error failure => simp [hp, Except.isOk, Except.toBool] at hok
    | ok lines => exact (hall d c' hc').1 (mem_keptMacros (playable_ok hp).2.2)
  · intro d c' hc' name hok
    cases hr : c'.editor.shelf.files.readText (c'.editor.scriptPath name) with
    | error fault => simp [hr, Except.isOk, Except.toBool] at hok
    | ok script => exact (hall d c' hc').2 (FileTree.canonical_mem hr)

/-- A line is started in one more macro or script, or in the one global command. -/
theorem enters (h : c' ∈ c.starts n) : c.inner.Enters c.editor c'.running :=
  (enters_runParsed h).mapFrame

/-- What is under way around a line at a depth. -/
structure Guarded (names paths : List Text) (d : Nat) (running : Running) : Prop where
  playing_nodup : running.playing.Nodup
  playing_mem : running.playing ⊆ names
  sourcing_nodup : running.sourcing.Nodup
  sourcing_mem : running.sourcing ⊆ paths
  depth : d = running.playing.length + running.sourcing.length + running.inGlobal.toNat

theorem nodup_concat {names : List Text} {name : Text} (h : names.Nodup) (hname : name ∉ names) :
    (names ++ [name]).Nodup := by
  simpa [List.nodup_append] using ⟨h, fun a ha => ne_of_mem_of_not_mem ha hname⟩

theorem Guarded.start {d : Nat} (h : Guarded names paths d c.running)
    (hcover : Covered names paths n c) (hc : c.inner.Enters c.editor c'.running) :
    Guarded names paths (d + 1) c'.running := by
  have hself : c ∈ c.nested n 0 := by
    cases n <;> exact List.mem_singleton_self c
  obtain ⟨hplaying, hnames, hsourcing, hpaths, hdepth⟩ := h
  generalize c'.running = running at hc ⊢
  cases hc with
  | @play name lines hp hkey =>
    obtain ⟨written, rfl⟩ := hkey
    have hok : playable c.running c.editor (macroKey written) = .ok lines := hp
    have hmem := hcover.macros 0 c hself written (by rw [hok]; rfl)
    exact ⟨nodup_concat hplaying (playable_ok hok).2.1, by simp [Running.playingOf, inner, hnames, hmem],
      hsourcing, hpaths, by simp [Running.playingOf, inner, hdepth]; omega⟩
  | @source name script hnew hread =>
    have hmem := hcover.scripts 0 c hself name (by rw [hread]; rfl)
    exact ⟨hplaying, hnames, nodup_concat hsourcing hnew, by simp [Running.sourcingOf, inner, hpaths, hmem],
      by simp [Running.sourcingOf, inner, hdepth]; omega⟩
  | global hg =>
    have hout : c.running.inGlobal = false := hg
    exact ⟨hplaying, hnames, hsourcing, hpaths, by simp [Running.visiting, inner, hdepth, hout]⟩

theorem Guarded.nested {d e : Nat} (h : Guarded names paths d c.running)
    (hcover : Covered names paths n c) (hc : c' ∈ c.nested n e) :
    Guarded names paths (d + e) c'.running := by
  induction e generalizing n c d with
  | zero =>
    have hself : c' = c := by
      cases n <;> exact List.mem_singleton.mp hc
    exact hself ▸ h
  | succ e ih =>
    cases n with
    | zero => cases hc
    | succ n =>
      obtain ⟨c₁, hstart, hc⟩ := List.mem_flatMap.mp hc
      have hnext := ih (h.start hcover (enters hstart)) (hcover.start hstart) hc
      rwa [Nat.add_assoc, Nat.add_comm 1] at hnext

theorem Guarded.depth_lt {d : Nat} {running : Running} (h : Guarded names paths d running) :
    d + 1 ≤ names.length + paths.length + 2 := by
  have hnames := (List.subperm_of_subset h.playing_nodup h.playing_mem).length_le
  have hpaths := (List.subperm_of_subset h.sourcing_nodup h.sourcing_mem).length_le
  have hglobal := running.inGlobal.toNat_le
  have hdepth := h.depth
  omega

/-- A bound on how deep lines nest that leaves room for what is still to come changes nothing. -/
theorem Guarded.runLine_eq {d m : Nat} (h : Guarded names paths d c.running)
    (hcover : Covered names paths n c) (hn : names.length + paths.length + 2 ≤ d + n) (hm : n ≤ m) :
    runLine m c.running c.line c.editor = runLine n c.running c.line c.editor := by
  induction n generalizing c d m with
  | zero =>
    have hdepth := h.depth_lt
    omega
  | succ n ih =>
    obtain ⟨m, rfl⟩ := Nat.exists_eq_add_of_le' (Nat.le_of_lt_succ (Nat.lt_succ_of_le hm))
    have hagree : Agree (runLine n) (runLine (m + n)) (c.starts n) := fun c' hc =>
      (ih (h.start hcover (enters hc)) (hcover.start hc) (by omega) (Nat.le_add_left n m)).symm
    have hparsed := runParsed_agree hagree
    exact congrArg (fun r : Result => (r.1.mapFrame Frame.closeGroup, r.2)) hparsed.symm

/-- A macro that is started is not being recorded. -/
theorem not_recorded {name : Text} (hc : c' ∈ c.starts n)
    (hname : c'.running.playing = c.running.playing ++ [name]) :
    c.editor.session.recorder.name? ≠ some name := by
  have henters := enters hc
  generalize c'.running = running at henters hname
  cases henters with
  | @play name' lines hp hkey =>
    have hsame : name' = name := by simpa [Running.playingOf, inner] using hname
    exact hsame ▸ (playable_ok hp).1
  | source hnew hread => simp [Running.sourcingOf, inner] at hname
  | global hg => simp [Running.visiting, inner] at hname

end Call

namespace Editor

/-- How often a command plays a macro. -/
def playCount (ed : Editor) (range : Text) : Except Failure Int :=
  if range = [] then .ok 1 else Calculator.evaluate ed.frame range

theorem play_playing {run : Runner} {running : Running} {name : Text} {count : Int} {ed : Editor}
    (hcount : 0 < count) (h : macroKey name ∈ running.playing) :
    (∃ cause, play run running name count ed = (ed, .failure (.recursion cause))) ∧
      playCalls run running name count ed = [] := by
  obtain ⟨cause, hp⟩ : ∃ cause, playable running ed (macroKey name) = .error (.recursion cause) := by
    unfold playable
    split
    · exact ⟨_, rfl⟩
    · rw [if_pos (by simpa using h)]
      exact ⟨_, rfl⟩
  have hcount : ¬ count ≤ 0 := by omega
  constructor
  · refine ⟨cause, ?_⟩
    rw [play_eq, if_neg hcount, hp]
  · unfold playCalls
    rw [if_neg hcount, hp]

theorem playCommand_of_count (run : Runner) (running : Running) {range name : Text} {count : Int}
    {ed : Editor} (hname : name.trim ≠ []) (hrange : ed.playCount range = .ok count) :
    playCommand run running range name ed = play run running name.trim count ed ∧
      playCommandCalls run running range name ed = playCalls run running name.trim count ed := by
  unfold playCount at hrange
  unfold playCommand playCommandCalls
  dsimp only
  rw [if_neg hname, if_neg hname]
  split
  · next hblank =>
    rw [if_pos hblank] at hrange
    cases hrange
    exact ⟨rfl, rfl⟩
  · next hblank =>
    rw [if_neg hblank] at hrange
    rw [hrange]
    exact ⟨rfl, rfl⟩

/-- A macro that is playing is not played again. -/
theorem playCommand_playing {run : Runner} {running : Running} {range name : Text} {count : Int}
    {ed : Editor} (hname : name.trim ≠ []) (hrange : ed.playCount range = .ok count) (hcount : 0 < count)
    (h : macroKey name.trim ∈ running.playing) :
    (∃ cause, playCommand run running range name ed = (ed, .failure (.recursion cause))) ∧
      playCommandCalls run running range name ed = [] := by
  rw [(playCommand_of_count run running hname hrange).1, (playCommand_of_count run running hname hrange).2]
  exact play_playing hcount h

/-- A script that is being sourced is not sourced again. -/
theorem source_sourcing {run : Runner} {running : Running} {name : Text} {ed : Editor}
    (hname : name.trim ≠ []) (h : ed.scriptPath name ∈ running.sourcing) :
    (∃ cause, source run running name ed = (ed, .failure (.recursion cause))) ∧
      sourceCalls run running name ed = [] := by
  have hcontains : running.sourcing.contains (ed.scriptPath name) := by simpa using h
  constructor
  · refine ⟨.sourcing (ed.scriptPath name), ?_⟩
    rw [source_eq, if_neg hname, if_pos hcontains]
  · unfold sourceCalls
    rw [if_neg hname, if_pos hcontains]

/-- Lines do not run inside themselves. Around every line that a line leads to, no macro plays twice, no
script is sourced twice, there is at most one global command and nothing else, and the macro being recorded
is never started. So lines nest no deeper than the macros that may be played at some moment and the scripts
that can be read are many, and two; the bound that runs are given stays out of play once it leaves room for
them. To play or to source what is under way fails, and starts no line. -/
theorem recursion_cut (n : Nat) (line : Text) (ed : Editor) (names paths : List Text)
    (hcover : Call.Covered names paths n ⟨{}, line, ed⟩) :
    (∀ d, ∀ c ∈ Call.nested n d ⟨{}, line, ed⟩,
      c.running.playing.Nodup ∧ c.running.sourcing.Nodup ∧
        d = c.running.playing.length + c.running.sourcing.length + c.running.inGlobal.toNat ∧
        (∀ k, ∀ c' ∈ c.starts k, ∀ name, c'.running.playing = c.running.playing ++ [name] →
          c.editor.session.recorder.name? ≠ some name) ∧
        d + 1 ≤ names.length + paths.length + 2) ∧
    (names.length + paths.length + 2 ≤ n → ∀ m, n ≤ m → runLine m {} line ed = runLine n {} line ed) ∧
    (∀ run running range name count ed', name.trim ≠ [] → playCount ed' range = .ok count → 0 < count →
      macroKey name.trim ∈ running.playing →
        (∃ cause, playCommand run running range name ed' = (ed', .failure (.recursion cause))) ∧
          playCommandCalls run running range name ed' = []) ∧
    ∀ run running name ed', name.trim ≠ [] → scriptPath ed' name ∈ running.sourcing →
      (∃ cause, source run running name ed' = (ed', .failure (.recursion cause))) ∧
        sourceCalls run running name ed' = [] := by
  have htop : Call.Guarded names paths 0 ({} : Running) :=
    ⟨List.nodup_nil, List.nil_subset _, List.nodup_nil, List.nil_subset _, rfl⟩
  refine ⟨fun d c hc => ?nested, fun hn m hm => ?bound, ?play, ?source⟩
  case nested =>
    have h := Call.Guarded.nested (c := ⟨{}, line, ed⟩) htop hcover hc
    rw [Nat.zero_add] at h
    exact ⟨h.playing_nodup, h.sourcing_nodup, h.depth, fun k c' hc' name => Call.not_recorded hc', h.depth_lt⟩
  case bound => exact Call.Guarded.runLine_eq (c := ⟨{}, line, ed⟩) htop hcover (by omega) hm
  case play =>
    intro run running range name count ed' hname hrange hcount h
    exact playCommand_playing hname hrange hcount h
  case source =>
    intro run running name ed' hname h
    exact source_sourcing hname h

/-- A macro that sources a script, which plays another macro on the lines that match, and this one plays the
first again: the five lines nest as deep as two macros and one script can make them. -/
theorem recursion_cut_circular :
    let ed : Editor := { ofText "x\n".toList with
      context.registers.shelf :=
        { store := { macros := [("ab".toList, ["so /s".toList]), ("cd".toList, ["@ab".toList])] }
          files := { entries := [([['s']], .file (.text "g/x/@cd\n".toList))] } } }
    let top : Call := ⟨{}, "@ab".toList, ed⟩
    Call.Covered ["ab".toList, "cd".toList] ["/s".toList] 5 top ∧
      (Call.nested 5 4 top).map (fun c => (c.line, c.running.playing, c.running.sourcing)) =
        [("@ab".toList, ["ab".toList, "cd".toList], ["/s".toList])] ∧
      (∀ d, ∀ c ∈ Call.nested 5 d top, c.running.playing.Nodup ∧ d + 1 ≤ 5) ∧
      (runLine 5 {} "@ab".toList ed).2 = .failure (.recursion (.playingMacro "ab".toList)) ∧
      ∀ m, 5 ≤ m → runLine m {} "@ab".toList ed = runLine 5 {} "@ab".toList ed := by
  intro ed top
  have hcover : Call.Covered ["ab".toList, "cd".toList] ["/s".toList] 5 top :=
    .of_kept (by decide +kernel)
  obtain ⟨hnested, hbound, -⟩ := recursion_cut 5 "@ab".toList ed _ _ hcover
  refine ⟨hcover, by decide +kernel, fun d c hc => ?_, by decide +kernel, hbound (by decide)⟩
  obtain ⟨hplaying, -, -, -, hdepth⟩ := hnested d c hc
  exact ⟨hplaying, hdepth⟩

end Editor
end ExEditor
