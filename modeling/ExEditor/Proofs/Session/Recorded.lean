import ExEditor.Proofs.Frame.OpenEnd
import ExEditor.Proofs.Register
import ExEditor.Proofs.Session.Recursion

/-! What is recorded and what is played. A register keeps its commands as one text, each ended by a line feed,
and playing takes the rows of that text; so a command comes back as it was recorded if it is such a row. -/
namespace ExEditor

namespace Text

/-- Whether a text ended by a line feed is one row, and reads as it is written. -/
def FitsRow (t : Text) : Prop := '\n' ∉ t ∧ t.getLast? ≠ some '\r'

instance (t : Text) : Decidable t.FitsRow := inferInstanceAs (Decidable (_ ∧ _))

theorem splitAfter_ne_nil {p : Char → Bool} {t : Text} (h : t ≠ []) : splitAfter p t ≠ [] := by
  cases t with
  | nil => exact absurd rfl h
  | cons c t =>
    unfold splitAfter
    split
    · simp
    · split <;> simp

theorem splitAfter_append_break {p : Char → Bool} {c : Char} (hc : p c) (t u : Text) :
    splitAfter p (t ++ c :: u) = splitAfter p (t ++ [c]) ++ splitAfter p u := by
  induction t with
  | nil => simp [splitAfter, hc]
  | cons d t ih =>
    simp only [List.cons_append, splitAfter]
    by_cases hd : p d
    · simp [hd, ih]
    · obtain ⟨piece, rest, hpieces⟩ :=
        List.exists_cons_of_ne_nil (splitAfter_ne_nil (p := p) (t := t ++ [c]) (by simp))
      simp [hd, ih, hpieces]

theorem rows_append_feed (t u : Text) : rows (t ++ '\n' :: u) = rows (t ++ ['\n']) ++ rows u := by
  rw [rows, splitAfter_append_break (by simp), List.map_append]
  rfl

theorem rows_ne_nil {t : Text} (h : t ≠ []) : rows t ≠ [] := by
  rw [rows, ne_eq, List.map_eq_nil_iff]
  exact splitAfter_ne_nil h

theorem rows_row {t : Text} (h : '\n' ∉ t) : rows (t ++ ['\n']) = [(t.dropEnding? ['\r']).getD t] := by
  have hfront : ∀ c ∈ t, decide (c = '\n') = false := fun c hc => by
    simpa using fun heq : c = '\n' => h (heq ▸ hc)
  rw [rows, splitAfter_append hfront (by simp)]
  simp [splitAfter, dropEnding?_append]

theorem dropEnding?_return (t : Text) : (t.dropEnding? ['\r']).getD t = t ↔ t.getLast? ≠ some '\r' := by
  by_cases h : t.getLast? = some '\r'
  · obtain ⟨front, rfl⟩ := List.getLast?_eq_some_iff.mp h
    rw [dropEnding?_append]
    simp
  · have hends : ¬ t.endsWith ['\r'] := by
      rw [endsWith, List.isSuffixOf_iff_suffix]
      rintro ⟨front, rfl⟩
      exact h (by simp)
    simp [dropEnding?, hends, h]

/-- A text ended by a line feed reads as itself alone if it is one row. -/
theorem rows_ended_iff (t : Text) : rows (t ++ ['\n']) = [t] ↔ t.FitsRow := by
  unfold FitsRow
  by_cases h : '\n' ∈ t
  · obtain ⟨front, back, rfl⟩ := List.append_of_mem h
    have htwo : 2 ≤ (rows ((front ++ '\n' :: back) ++ ['\n'])).length := by
      rw [List.append_assoc, List.cons_append, rows_append_feed, List.length_append]
      have hfront := List.length_pos_iff.mpr (rows_ne_nil (t := front ++ ['\n']) (by simp))
      have hback := List.length_pos_iff.mpr (rows_ne_nil (t := back ++ ['\n']) (by simp))
      omega
    refine ⟨fun heq => ?_, fun hfits => absurd h hfits.1⟩
    rw [heq] at htwo
    exact absurd htwo (by simp)
  · rw [rows_row h, List.cons.injEq, dropEnding?_return]
    simp [h]

theorem flatMap_eq_self_iff {α : Type} {g : α → List α} (h : ∀ a, g a ≠ []) (l : List α) :
    l.flatMap g = l ↔ ∀ a ∈ l, g a = [a] := by
  have hlength : ∀ l : List α, l.length ≤ (l.flatMap g).length := by
    intro l
    induction l with
    | nil => exact Nat.le_refl _
    | cons a l ih =>
      have hone := List.length_pos_iff.mpr (h a)
      rw [List.flatMap_cons, List.length_append, List.length_cons]
      omega
  induction l with
  | nil => simp
  | cons a l ih =>
    obtain ⟨b, rest, hg⟩ := List.exists_cons_of_ne_nil (h a)
    rw [List.flatMap_cons, List.forall_mem_cons, hg, List.cons_append, List.cons.injEq, List.cons.injEq]
    constructor
    · rintro ⟨rfl, heq⟩
      have hsum := congrArg List.length heq
      have hl := hlength l
      rw [List.length_append] at hsum
      obtain rfl : rest = [] := List.length_eq_zero_iff.mp (by omega)
      exact ⟨⟨rfl, rfl⟩, ih.mp heq⟩
    · rintro ⟨⟨rfl, rfl⟩, hall⟩
      exact ⟨rfl, ih.mpr hall⟩

theorem rows_flatten (texts : List Text) :
    rows (texts.map (· ++ ['\n'])).flatten = texts.flatMap fun t => rows (t ++ ['\n']) := by
  induction texts with
  | nil => rfl
  | cons t texts ih =>
    rw [List.map_cons, List.flatten_cons, List.append_assoc, List.flatMap_cons, ← ih]
    exact rows_append_feed _ _

/-- Texts ended by line feeds read as themselves if each of them does. -/
theorem rows_flatten_iff (texts : List Text) :
    rows (texts.map (· ++ ['\n'])).flatten = texts ↔ ∀ t ∈ texts, t.FitsRow := by
  rw [rows_flatten, flatMap_eq_self_iff fun t => rows_ne_nil (by simp)]
  simp only [rows_ended_iff]

end Text

namespace Recording

/-- A command as it is recorded: a lone blank as the command to move right. -/
def entry (command : Text) : Text := if command = [' '] then ['l'] else command

theorem fitsRow_entry (command : Text) : (entry command).FitsRow ↔ command.FitsRow := by
  unfold entry
  split
  · next h => simp [h, Text.FitsRow]
  · rfl

theorem add_complete {r : Recording} (h : r.isOpen = false) (command : Text) :
    r.add command true = { r with commands := r.commands ++ [entry command] } := by
  unfold add
  simp [h, entry]

/-- Complete commands are recorded one after the other. -/
theorem record_complete {r : Recording} (h : r.isOpen = false) (commands : List Text) :
    commands.foldl (fun recorder command => Recorder.record recorder command true) (some r) =
      some { r with commands := r.commands ++ commands.map entry } := by
  induction commands generalizing r with
  | nil => simp
  | cons command commands ih =>
    have hadd : Recorder.record (some r) command true =
        some { r with commands := r.commands ++ [entry command] } := congrArg some (add_complete h command)
    have hrest := ih (r := { r with commands := r.commands ++ [entry command] }) h
    rw [List.foldl_cons, hadd, hrest]
    simp

end Recording

namespace Recorder

/-- Whether a recording is added to what the macro of this name has. -/
def appends (name : Text) : Bool := isRegisterMacro name && name.all Char.isUpper

/-- A recording begins where none is under way, empty and under the name that its macro is played by. -/
theorem start_ok {recorder : Recorder} {shelf shelf' : Shelf} {name : Text} {r : Recording}
    (h : recorder.start shelf name = .ok (r, shelf')) :
    recorder = none ∧ name ≠ [] ∧ (∀ c ∈ name, isNameChar c) ∧
      r = { name := Editor.macroKey name, append := appends name } := by
  unfold start at h
  split at h
  · cases h
  split at h
  · cases h
  next hname =>
  have hvalid : name ≠ [] ∧ ∀ c ∈ name, isNameChar c := by simpa using hname
  refine ⟨rfl, hvalid.1, hvalid.2, ?_⟩
  change (if appends name then _ else _) = _ at h
  unfold Editor.macroKey
  split at h
  · next happ =>
    have hone : isRegisterMacro name := (Bool.and_eq_true_iff.mp happ).1
    cases h
    rw [if_pos hone, happ]
  · next happ =>
    cases h
    rw [Bool.eq_false_iff.mpr happ]
    split
    · next hone =>
      obtain ⟨c, rfl⟩ := List.length_eq_one_iff.mp (eq_of_beq hone)
      have hc : ¬ c.isUpper := fun hc => happ (by simp [appends, isRegisterMacro, hc])
      have hlower : c.toLower = c := dif_neg fun hupper => hc (decide_eq_true hupper)
      rw [Text.toAsciiLower, List.map_singleton, hlower]
    · rfl

end Recorder

namespace Recording

theorem commands?_appendAll (name : Text) (commands : List Text) (shelf : Shelf) :
    ((commands.foldl (fun shelf command => shelf.appendMacro name command) shelf).commands? name).getD [] =
      (shelf.commands? name).getD [] ++ commands := by
  induction commands generalizing shelf with
  | nil => simp
  | cons command commands ih => simp [ih, Shelf.commands?_appendMacro]

/-- A recording without commands leaves its slot empty, or as it was if it was to be added to. -/
theorem keep_none {r : Recording} (h : r.commands = []) (shelf : Shelf) :
    if r.append then r.keep shelf = shelf else (r.keep shelf).commands? r.name = none := by
  have hstored : r.stored = [] := by simp [stored, h]
  unfold keep
  rw [hstored]
  split
  · rfl
  · rw [Shelf.commands?_removeMacro, if_pos rfl]

/-- A recording with commands leaves them in its slot, after those that it is added to. -/
theorem keep_some {r : Recording} (h : r.commands ≠ []) (shelf : Shelf) :
    ((r.keep shelf).commands? r.name).getD [] =
      (if r.append then (shelf.commands? r.name).getD [] else []) ++ r.stored := by
  have hstored : r.stored ≠ [] := by
    unfold stored
    split
    · simpa using h
    · exact h
  obtain ⟨command, rest, hcons⟩ := List.exists_cons_of_ne_nil hstored
  unfold keep
  rw [hcons]
  dsimp only
  split
  · exact commands?_appendAll _ _ _
  · rw [Shelf.commands?_setMacro, if_pos rfl]
    rfl

end Recording

namespace RegisterName

/-- A letter or a digit is the name of a register that is kept under the small letter or the digit. -/
theorem slot_of_alphanum {c : Char} (h : c.isAlphanum) :
    ∃ r, ofChar? c.toLower = some r ∧ r.slot? = some [c.toLower] := by
  have hkept : ∃ r slot, ofChar? c.toLower = some r ∧ r.slot? = some slot := by
    by_cases hupper : 'A' ≤ c ∧ c ≤ 'Z'
    · exact ⟨.named c.toLower, _, if_pos (Registers.isLetter_toLower hupper.1 hupper.2), rfl⟩
    · rw [show c.toLower = c from dif_neg hupper]
      have hclass : ('a' ≤ c ∧ c ≤ 'z') ∨ '0' ≤ c ∧ c ≤ '9' := by
        have hany : ((c.isUpper || c.isLower) || c.isDigit) = true := h
        rw [Bool.or_eq_true, Bool.or_eq_true] at hany
        rcases hany with (h | h) | h
        · exact absurd (of_decide_eq_true h) hupper
        · exact .inl ((Bool.and_eq_true_iff.mp h).imp of_decide_eq_true of_decide_eq_true)
        · exact .inr ((Bool.and_eq_true_iff.mp h).imp of_decide_eq_true of_decide_eq_true)
      rcases hclass with hlower | ⟨hzero, hnine⟩
      · exact ⟨.named c, _, if_pos hlower, rfl⟩
      · have hzero : 48 ≤ c.toNat := hzero
        have hnine : c.toNat ≤ 57 := hnine
        rw [← Char.ofNat_toNat c]
        generalize c.toNat = n at hzero hnine ⊢
        interval_cases n <;> exact ⟨_, _, rfl, rfl⟩
  obtain ⟨r, slot, hr, hs⟩ := hkept
  exact ⟨r, hr, hs.trans (congrArg some (slot_ofChar (toLower_not_upper c) hr hs))⟩

end RegisterName

namespace Editor

theorem macroLines_register {c : Char} {r : RegisterName} (hr : RegisterName.ofChar? c = some r)
    (hs : r.slot? = some [c]) (ed : Editor) :
    ed.macroLines [c] = if Text.rows (ed.context.registers.fragments [c]).flatten = [] then none
      else some (Text.rows (ed.context.registers.fragments [c]).flatten) := by
  have hget := Registers.get_of_slot hs ed.context.registers
  simp only [macroLines, hr, hget, Option.bind_eq_bind, Option.bind_some]

theorem macroLines_long {name : Text} (h : name.length ≠ 1) (ed : Editor) :
    ed.macroLines name = ed.shelf.commands? name := by
  unfold macroLines
  split
  · exact absurd rfl h
  · rfl

/-- What is kept in a register as ended commands is played as those commands if each of them is a row. -/
theorem macroLines_register_iff {c : Char} {r : RegisterName} (hr : RegisterName.ofChar? c = some r)
    (hs : r.slot? = some [c]) {ed : Editor} {commands : List Text} (hne : commands ≠ [])
    (h : ed.context.registers.fragments [c] = commands.map (· ++ ['\n'])) :
    ed.macroLines [c] = some commands ↔ ∀ command ∈ commands, command.FitsRow := by
  have hrows : Text.rows (commands.map (· ++ ['\n'])).flatten ≠ [] := by
    obtain ⟨command, rest, rfl⟩ := List.exists_cons_of_ne_nil hne
    exact Text.rows_ne_nil (by simp)
  rw [macroLines_register hr hs, h, if_neg hrows, Option.some.injEq, Text.rows_flatten_iff]

theorem stopRecording_eq {ed : Editor} {r : Recording} (h : ed.session.recorder = some r) :
    ∃ stopped said, ed.stopRecording = .ok (stopped, said) ∧ stopped.shelf = r.keep ed.shelf := by
  unfold stopRecording
  rw [h]
  exact ⟨_, _, rfl, rfl⟩

theorem startRecording_ok {ed ed' : Editor} {t : Text} {said : Outcome}
    (h : ed.startRecording t = .ok (ed', said)) :
    t.trim ≠ [] ∧ (∀ c ∈ t.trim, Recorder.isNameChar c) ∧
      ed'.session.recorder = some { name := macroKey t.trim, append := Recorder.appends t.trim } := by
  unfold startRecording at h
  cases hr : ed.session.recorder.start ed.shelf t.trim with
  | error failure => rw [hr] at h; cases h
  | ok started =>
    obtain ⟨r, shelf⟩ := started
    rw [hr] at h
    cases h
    obtain ⟨-, hne, hchars, hrecording⟩ := Recorder.start_ok hr
    exact ⟨hne, hchars, congrArg some hrecording⟩

theorem isRegisterMacro_macroKey (name : Text) : isRegisterMacro (macroKey name) = isRegisterMacro name := by
  unfold macroKey
  split <;> simp [isRegisterMacro, Text.toAsciiLower]

/-- What the names of macros that can be recorded are played as: longer names, the register that keeps nothing,
and the registers of letters and digits. -/
theorem macroKey_cases {name : Text} (hchars : ∀ c ∈ name, Recorder.isNameChar c) :
    isRegisterMacro name = false ∨ name = ['_'] ∨ isRegisterMacro name ∧ name ≠ ['_'] ∧
      ∃ c r, macroKey name = [c] ∧ RegisterName.ofChar? c = some r ∧ r.slot? = some [c] := by
  cases hone : isRegisterMacro name with
  | false => exact .inl rfl
  | true =>
    obtain ⟨c, rfl⟩ := List.length_eq_one_iff.mp (eq_of_beq hone)
    by_cases hc : c = '_'
    · exact .inr (.inl (by rw [hc]))
    · have halnum : c.isAlphanum := by simpa [Recorder.isNameChar, hc] using hchars c (by simp)
      obtain ⟨r, hr, hs⟩ := RegisterName.slot_of_alphanum halnum
      exact .inr (.inr ⟨rfl, by simpa using hc, _, r, rfl, hr, hs⟩)

theorem macroLines_of_keepsNone {name : Text} (hchars : ∀ c ∈ name, Recorder.isNameChar c) {ed : Editor}
    (h : ed.shelf.commands? (macroKey name) = none) : ed.macroLines (macroKey name) = none := by
  rcases macroKey_cases hchars with hlong | rfl | ⟨-, -, c, r, hkey, hr, hs⟩
  · rwa [macroLines_long (by rw [← isRegisterMacro_macroKey] at hlong; simpa [isRegisterMacro] using hlong)]
  · rfl
  · rw [hkey] at h ⊢
    have hnone : ed.context.registers.fragments [c] = [] := congrArg (Option.getD · []) h
    rw [macroLines_register hr hs, hnone]
    rfl

/-- A recording under way that was started under a name, with the commands recorded since. -/
structure Records (ed : Editor) (name : Text) (commands : List Text) (r : Recording) : Prop where
  recorder : ed.session.recorder = some r
  key : r.name = macroKey name
  append : r.append = Recorder.appends name
  commands : r.commands = commands.map Recording.entry

theorem records_of_start {before started during : Editor} {t : Text} {said : Outcome}
    (hstart : before.startRecording t = .ok (started, said)) {commands : List Text}
    (hrecorded : during.session.recorder =
      commands.foldl (fun recorder command => recorder.record command true) started.session.recorder) :
    ∃ r, during.Records t.trim commands r := by
  obtain ⟨-, -, hempty⟩ := startRecording_ok hstart
  rw [hempty, Recording.record_complete rfl, List.nil_append] at hrecorded
  exact ⟨_, hrecorded, rfl, rfl, rfl⟩

section stop
variable {during stopped : Editor} {name : Text} {earlier commands : List Text} {r : Recording}

/-- A macro of more than one character is played as it was recorded. -/
theorem Records.played_long (h : during.Records name commands r) (hlong : isRegisterMacro name = false)
    (hshelf : stopped.shelf = r.keep during.shelf) (hne : commands ≠ []) :
    stopped.macroLines (macroKey name) = some (commands.map Recording.entry) := by
  have hkey : macroKey name = name := if_neg (by simp [hlong])
  have happend : r.append = false := by rw [h.append, Recorder.appends, hlong, Bool.false_and]
  have hstored : r.stored = commands.map Recording.entry := by
    rw [Recording.stored, h.key, hkey, hlong, if_neg Bool.false_ne_true, h.commands]
  have hkept := Recording.keep_some (r := r) (by simpa [h.commands] using hne) during.shelf
  rw [h.key, hkey, happend, hstored, ← hshelf] at hkept
  rw [hkey, macroLines_long (by simpa [isRegisterMacro] using hlong)]
  cases hfound : stopped.shelf.commands? name with
  | none => simp [hfound, hne] at hkept
  | some found => simpa [hfound] using hkept

/-- What the slot of a register holds when a recording into it has ended: a line for each command. -/
theorem Records.fragments (h : during.Records name commands r) (hone : isRegisterMacro name)
    (hshelf : stopped.shelf = r.keep during.shelf) (hne : commands ≠ [])
    (hearlier : if Recorder.appends name then
        during.context.registers.fragments (macroKey name) = earlier.map (· ++ ['\n'])
      else earlier = []) :
    stopped.context.registers.fragments (macroKey name) =
      (earlier ++ commands.map Recording.entry).map (· ++ ['\n']) := by
  have hstored : r.stored = (commands.map Recording.entry).map (· ++ ['\n']) := by
    rw [Recording.stored, h.key, isRegisterMacro_macroKey, if_pos hone, h.commands]
  have hkept := Recording.keep_some (r := r) (by simpa [h.commands] using hne) during.shelf
  rw [h.key, h.append, hstored, ← hshelf] at hkept
  rw [List.map_append]
  refine hkept.trans (congrArg (· ++ _) ?_)
  split
  · next happend => exact (if_pos happend ▸ hearlier :)
  · next happend =>
    rw [if_neg happend] at hearlier
    rw [hearlier, List.map_nil]

end stop

/-- Commands are recorded between a start and a stop, and possibly added to what an earlier recording has left.
A macro of more than one character is played as it was recorded. One of one character is a register, and is
played so if the register keeps what is written to it and each command is a row of its text. Where nothing was
recorded, there is no macro, or the one there was. -/
theorem recorded_is_played {before started during : Editor} {t : Text} {said : Outcome}
    (hstart : before.startRecording t = .ok (started, said)) {earlier commands : List Text}
    (hrecorded : during.session.recorder =
      commands.foldl (fun recorder command => recorder.record command true) started.session.recorder)
    (hearlier : if Recorder.appends t.trim then
        during.context.registers.fragments (macroKey t.trim) = earlier.map (· ++ ['\n'])
      else earlier = []) :
    ∃ stopped said', during.stopRecording = .ok (stopped, said') ∧
      (commands ≠ [] →
        (stopped.macroLines (macroKey t.trim) = some (earlier ++ commands.map Recording.entry) ↔
          1 < t.trim.length ∨ t.trim ≠ ['_'] ∧ ∀ c ∈ earlier ++ commands, c.FitsRow)) ∧
      (commands = [] →
        if Recorder.appends t.trim then stopped.shelf = during.shelf
        else stopped.macroLines (macroKey t.trim) = none) := by
  obtain ⟨hname, hchars, -⟩ := startRecording_ok hstart
  obtain ⟨r, hr⟩ := records_of_start hstart hrecorded
  obtain ⟨stopped, said', hstop, hshelf⟩ := stopRecording_eq hr.recorder
  generalize t.trim = name at hname hchars hr hearlier ⊢
  refine ⟨stopped, said', hstop, fun hne => ?_, fun hnone => ?_⟩
  · rcases macroKey_cases hchars with hlong | rfl | ⟨hone, hkept, c, register, hkey, hregister, hslot⟩
    · have hlong' : 1 < name.length := by
        have hne1 : name.length ≠ 1 := by simpa [isRegisterMacro] using hlong
        have hpos := List.length_pos_iff.mpr hname
        omega
      have hnone : earlier = [] := by simpa [Recorder.appends, hlong] using hearlier
      rw [hr.played_long hlong hshelf hne, hnone]
      simp [hlong']
    · have hnone : stopped.macroLines (macroKey ['_']) = none := rfl
      simp [hnone]
    · have hfragments := hr.fragments hone hshelf hne hearlier
      rw [hkey] at hfragments ⊢
      have hone' : ¬ 1 < name.length := by
        have hlength : name.length = 1 := by simpa [isRegisterMacro] using hone
        omega
      rw [macroLines_register_iff hregister hslot (by simp [hne]) hfragments]
      simp [hone', hkept, or_imp, forall_and, Recording.fitsRow_entry]
  · have hkept := Recording.keep_none (r := r) (by simp [hr.commands, hnone]) during.shelf
    rw [hr.append, ← hshelf, hr.key] at hkept
    split
    · next happend => exact (if_pos happend ▸ hkept :)
    · next happend =>
      rw [if_neg happend] at hkept
      exact macroLines_of_keepsNone hchars hkept

/-- Two commands are added to one that the register has. -/
theorem recorded_is_played_appended :
    let before : Editor :=
      { context := { registers := { shelf := { store := { macros := [(['q'], [['x', '\n']])] } } } } }
    let started := before.setRecorder (some { name := ['q'], append := true })
    let during := (started.record [' '] true).record "a \rb".toList true
    ∃ stopped said, during.stopRecording = .ok (stopped, said) ∧
      stopped.macroLines ['q'] = some ["x".toList, "l".toList, "a \rb".toList] := by
  intro before started during
  obtain ⟨stopped, said, hstop, hplayed, -⟩ :=
    @recorded_is_played before started during ['Q'] (.message "recording q".toList) rfl [['x']]
      [[' '], "a \rb".toList] rfl rfl
  exact ⟨stopped, said, hstop, (hplayed (by decide)).mpr (by decide)⟩

/-- The editor after lines that are typed one after the other, whether they fail or not. -/
def executeEach (ed : Editor) (lines : List Text) : Editor := lines.foldl (fun ed line => (ed.execute line).1) ed

/-- A recording into `_` is stored and cannot be played, and one of a command with a line feed in a register is
played as two commands. -/
theorem recorded_unplayable :
    let blackHole := executeEach {} ["rec _".toList, "1ka".toList, "stop".toList]
    let register := executeEach {} ["rec q".toList, "a x\ny".toList, "stop".toList]
    blackHole.shelf.commands? ['_'] = some ["1ka\n".toList] ∧ blackHole.macroLines ['_'] = none ∧
      register.macroLines ['q'] = some ["a x".toList, ['y']] := by
  decide +kernel

end Editor
end ExEditor
