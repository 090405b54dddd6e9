import ExEditor.Proofs.Frame.Uniform
import ExEditor.Proofs.Register
import ExEditor.Proofs.Session.Failure
import ExEditor.Proofs.Session.LineMoves
import ExEditor.Proofs.Session.Steps

/-! Line breaks stay uniform in a session. What a verb puts into the text or into a register is put together from
pieces of the text, from what registers hold, from new lines and from texts without breaks, and the history holds
earlier texts, so text, history and registers are kept so together. -/
namespace ExEditor

/-- Whether all line breaks in registers are the given one. -/
structure Registers.BrokenBy (b : LineBreak) (r : Registers) : Prop where
  clipboard : r.clipboard.BrokenBy b
  fragments : ∀ slot fragments, r.shelf.commands? slot = some fragments → ∀ t ∈ fragments, Text.BrokenBy b t
  /-- Nothing is written out as another text. -/
  abbreviations : r.shelf.store.abbreviations = []

namespace Registers.BrokenBy
variable {b : LineBreak} {r : Registers} (h : r.BrokenBy b)
include h

theorem get (name : RegisterName) : (r.get name).BrokenBy b := by
  unfold Registers.get
  split
  · next slot _ =>
    cases hcommands : r.shelf.store.commands? slot with
    | none => exact .nil
    | some fragments => exact .flatten (h.fragments slot fragments hcommands)
  · split
    · exact h.clipboard
    · exact .nil

theorem setClipboard {t : Text} (ht : t.BrokenBy b) : ({ r with clipboard := t } : Registers).BrokenBy b :=
  ⟨ht, h.fragments, h.abbreviations⟩

theorem setMacro (slot : Text) {fragments : List Text} (hf : ∀ t ∈ fragments, Text.BrokenBy b t) :
    ({ r with shelf := r.shelf.setMacro slot fragments } : Registers).BrokenBy b where
  clipboard := h.clipboard
  fragments := by
    intro other found hfound
    rw [Shelf.commands?_setMacro] at hfound
    split at hfound
    · cases hfound
      exact hf
    · exact h.fragments other found hfound
  abbreviations := by
    rw [Shelf.setMacro, Shelf.update_store]
    exact h.abbreviations

theorem removeMacro (slot : Text) :
    ({ r with shelf := (r.shelf.removeMacro slot).1 } : Registers).BrokenBy b where
  clipboard := h.clipboard
  fragments := by
    intro other found hfound
    rw [Shelf.commands?_removeMacro] at hfound
    split at hfound
    · cases hfound
    · exact h.fragments other found hfound
  abbreviations := by
    unfold Shelf.removeMacro Store.removeMacro?
    cases r.shelf.store.commands? slot with
    | none => exact h.abbreviations
    | some commands =>
      rw [Option.map_some, Shelf.update?, Shelf.update_store]
      exact h.abbreviations

theorem set (name : RegisterName) {t : Text} (ht : t.BrokenBy b) : (r.set name t).BrokenBy b := by
  have hone : ∀ u ∈ [t], Text.BrokenBy b u := fun u hu => List.mem_singleton.mp hu ▸ ht
  cases name with
  | clipboard => exact h.setClipboard ht
  | blackHole => exact h
  | append c =>
    have hall : ∀ u ∈ (r.shelf.store.commands? [c]).getD [] ++ [t], Text.BrokenBy b u := by
      intro u hu
      rcases List.mem_append.mp hu with hu | hu
      · cases hcommands : r.shelf.store.commands? [c] with
        | none => simp [hcommands] at hu
        | some fragments => exact h.fragments [c] fragments hcommands u (by simpa [hcommands] using hu)
      · exact hone u hu
    exact h.setMacro [c] hall
  | named c => exact h.setMacro _ hone
  | numbered n => exact h.setMacro _ hone
  | yank => exact h.setMacro _ hone
  | lastInsert => exact h.setMacro _ hone

theorem yank (name : Option RegisterName) {t : Text} (ht : t.BrokenBy b) : (r.yank name t).BrokenBy b := by
  cases name with
  | some name => exact h.set name ht
  | none => exact (h.set .yank ht).setClipboard ht

/-- Numbered registers move up. -/
theorem shiftFrom (n : Nat) : ({ r with shelf := Registers.shiftFrom r.shelf n } : Registers).BrokenBy b := by
  unfold Registers.shiftFrom
  split
  · next fragments hcommands => exact h.setMacro _ (h.fragments _ fragments hcommands)
  · exact h.removeMacro _

theorem shift (numbers : List Nat) :
    ({ r with shelf := numbers.foldl Registers.shiftFrom r.shelf } : Registers).BrokenBy b := by
  induction numbers generalizing r with
  | nil => exact h
  | cons n rest ih => exact ih (h.shiftFrom n)

theorem delete (name : Option RegisterName) {t : Text} (ht : t.BrokenBy b) : (r.delete name t).BrokenBy b := by
  cases name with
  | some name => exact h.set name ht
  | none => exact ((h.shift _).set (.numbered 1) ht).setClipboard ht

end Registers.BrokenBy

namespace Editor

/-- Whether all line breaks of the text, of its history and of the registers are the given one. -/
structure BrokenBy (b : LineBreak) (ed : Editor) : Prop where
  frame : ed.frame.BrokenBy b
  registers : ed.context.registers.BrokenBy b

end Editor

/-- A change that leaves a property where it goes through. -/
def Change.Keeps (P : Editor → Prop) (c : Change) : Prop := ∀ after outcome, c = .ok (after, outcome) → P after

namespace Change
variable {P : Editor → Prop}

theorem keeps_ok {after : Editor} (outcome : Outcome) (h : P after) : Keeps P (.ok (after, outcome)) := by
  rintro _ _ ⟨⟩
  exact h

theorem keeps_error (failure : Failure) : Keeps P (.error failure) := by
  rintro _ _ ⟨⟩

theorem keeps_bind {α : Type} {x : Except Failure α} {f : α → Change} (h : ∀ a, x = .ok a → Keeps P (f a)) :
    Keeps P (x >>= f) := by
  cases x with
  | error failure => exact keeps_error failure
  | ok a => exact h a rfl

theorem keeps_ite {p : Prop} [Decidable p] {c d : Change} (hc : c.Keeps P) (hd : d.Keeps P) :
    Keeps P (if p then c else d) := by
  split
  · exact hc
  · exact hd

/-- A change of lines that may be edited, which are there in order. -/
theorem keeps_editable {r : AddressRange} {f : Frame} {change : Nat × Nat → Change}
    (h : ∀ first last, first ≤ last → Keeps P (change (first, last))) : Keeps P (r.editable f >>= change) :=
  keeps_bind fun (_, _) hr => h _ _ (AddressRange.checked_le (AddressRange.editable_checked hr)).1

end Change

theorem splitAfter_flatten (p : Char → Bool) (t : Text) : (Text.splitAfter p t).flatten = t := by
  induction t with
  | nil => rfl
  | cons c t ih =>
    unfold Text.splitAfter
    split
    · simp [ih]
    · split
      · next hnil => simpa [hnil] using ih
      · next piece rest hpieces => simpa [hpieces] using ih

namespace Editor
open Change

/-- Without abbreviations a text is entered as it is. -/
theorem expandAbbreviations_nil (t : Text) : expandAbbreviations [] t = t := by
  have hpieces : expandAbbreviations [] t = (Text.splitAfter Unicode.isBlank t).flatten := by
    unfold expandAbbreviations
    simp [Table.find?, List.flatMap]
  rw [hpieces, splitAfter_flatten]

variable {b : LineBreak} {ed : Editor}

namespace BrokenBy

theorem congr {after : Editor} (h : ed.BrokenBy b) (hf : after.frame = ed.frame)
    (hr : after.context.registers = ed.context.registers) : after.BrokenBy b :=
  ⟨hf ▸ h.frame, hr ▸ h.registers⟩

theorem mapFrame (h : ed.BrokenBy b) {g : Frame → Frame} (hg : (g ed.frame).BrokenBy b) : (ed.mapFrame g).BrokenBy b :=
  ⟨hg, h.registers⟩

theorem mapRegisters (h : ed.BrokenBy b) {g : Registers → Registers} (hg : (g ed.context.registers).BrokenBy b) :
    (ed.mapRegisters g).BrokenBy b :=
  ⟨h.frame, hg⟩

end BrokenBy

section verbs
variable (h : ed.BrokenBy b) (r : AddressRange)
include h

theorem delete_brokenBy (t : Text) : (ed.delete r t).Keeps (·.BrokenBy b) := by
  refine keeps_bind fun _ _ => keeps_editable fun first last hf => keeps_ok _ ?_
  exact (h.mapRegisters (h.registers.delete _ (h.frame.linesText first last))).mapFrame (h.frame.deleteLines hf)

theorem yank_brokenBy (t : Text) : (ed.yank r t).Keeps (·.BrokenBy b) := by
  refine keeps_bind fun _ _ => keeps_bind fun lines _ => keeps_ok _ ?_
  exact h.mapRegisters (h.registers.yank _ (h.frame.linesText lines.1 lines.2))

omit r in
theorem put_brokenBy (line : Nat) (t : Text) : (ed.put line t).Keeps (·.BrokenBy b) := by
  refine keeps_bind fun _ _ => keeps_ite (keeps_error _) <| keeps_ite (keeps_error _) <| keeps_ok _ ?_
  exact h.mapFrame (h.frame.putAndFollow (h.registers.get _) line)

theorem copy_brokenBy (destination : Nat) : (ed.copy r destination).Keeps (·.BrokenBy b) :=
  keeps_editable fun first last _ => keeps_ok _ (h.mapFrame (h.frame.copyLines first last destination))

theorem move_brokenBy (destination : Nat) : (ed.move r destination).Keeps (·.BrokenBy b) :=
  keeps_editable fun _ _ hf => keeps_ite (keeps_error _) <| keeps_ok _ (h.mapFrame (h.frame.moveLines hf destination))

theorem enterText_brokenBy (placement : Placement) {t : Text} (ht : t.IsPlain) :
    (ed.enterText r placement t).Keeps (·.BrokenBy b) := by
  have hexpanded : Text.BrokenBy b (expandAbbreviations ed.shelf.store.abbreviations t) := by
    rw [shelf, h.registers.abbreviations, expandAbbreviations_nil]
    exact .of_isPlain ht
  refine keeps_editable fun first last hf => keeps_ok _ ?_
  refine (h.mapRegisters (h.registers.set .lastInsert hexpanded)).mapFrame ?_
  cases placement with
  | append => exact h.frame.insertLine hexpanded (last + 1)
  | insert => exact h.frame.insertLine hexpanded first
  | change => exact h.frame.changeLines hf hexpanded

theorem join_brokenBy (asIs : Bool) : (ed.join r asIs).Keeps (·.BrokenBy b) := by
  refine keeps_editable fun first last hf => keeps_ite (keeps_error _) <| keeps_ok _ (h.mapFrame ?_)
  refine h.frame.joinLines ?_ asIs
  split <;> omega

theorem shift_brokenBy (forward : Bool) (count : Nat) : (ed.shift r forward count).Keeps (·.BrokenBy b) := by
  refine keeps_editable fun first last _ => keeps_ok _ (h.mapFrame ?_)
  cases forward with
  | true =>
    have hindent : Text.IsPlain (List.replicate count ed.context.settings.indentUnit).flatten := by
      intro c hc
      obtain ⟨unit, hunit, hc⟩ := List.mem_flatten.mp hc
      exact isPlain_indentUnit _ c (List.eq_of_mem_replicate hunit ▸ hc)
    exact h.frame.eachLine (fun f line hf => hf.indentLine hindent line) first last
  | false => exact h.frame.eachLine (fun f line hf => hf.outdentLine _ _ line) first last

theorem sort_brokenBy (t : Text) : (ed.sort r t).Keeps (·.BrokenBy b) :=
  keeps_bind fun options _ => keeps_editable fun _ _ hf => keeps_ok _ (h.mapFrame (h.frame.sortLines options hf))

omit r

theorem resolveRange_brokenBy (t default : Text) : (ed.resolveRange t default).2.BrokenBy b := by
  obtain ⟨cursor, hf⟩ := Address.resolveRange_frame ed.frame ed.searchRule ed.context.lastSearch
    (if t.isBlank then default else t)
  have hframe : (ed.resolveRange t default).2.frame = { ed.frame with cursor } := hf
  exact ⟨hframe ▸ h.frame.congr rfl rfl rfl, h.registers⟩

theorem resolveDestination_brokenBy (t : Text) : (ed.resolveDestination t).2.BrokenBy b := by
  unfold resolveDestination
  split
  · exact h
  · exact h.congr rfl rfl

theorem settle_brokenBy {change : Change} (hc : change.Keeps (·.BrokenBy b)) : (ed.settle change).1.BrokenBy b := by
  cases change with
  | error failure => exact h
  | ok result => exact hc result.1 result.2 rfl

theorem changeRange_brokenBy (c : Command) (default : Text) {change : Editor → AddressRange → Change}
    (hc : ∀ ed r, ed.BrokenBy b → (change ed r).Keeps (·.BrokenBy b)) :
    (ed.changeRange c default change).1.BrokenBy b := by
  have hresolved := resolveRange_brokenBy h c.range default
  unfold changeRange onRange
  rcases hrange : ed.resolveRange c.range default with ⟨failure | r, ed'⟩ <;> rw [hrange] at hresolved
  · exact hresolved
  · exact settle_brokenBy hresolved (hc ed' r hresolved)

theorem changeTo_brokenBy (c : Command) {change : Editor → AddressRange → Nat → Change}
    (hc : ∀ ed r destination, ed.BrokenBy b → (change ed r destination).Keeps (·.BrokenBy b)) :
    (ed.changeTo c change).1.BrokenBy b := by
  have hresolved := resolveRange_brokenBy h c.range ['.']
  unfold changeTo onRange
  rcases hrange : ed.resolveRange c.range ['.'] with ⟨failure | r, ed'⟩ <;> rw [hrange] at hresolved
  · exact hresolved
  · have hdestination := resolveDestination_brokenBy hresolved c.text
    dsimp only
    rcases hline : ed'.resolveDestination c.text with ⟨failure | destination, ed''⟩ <;> rw [hline] at hdestination
    · exact hdestination
    · exact settle_brokenBy hdestination (hc ed'' r destination hdestination)

theorem enter_brokenBy (c : Command) (placement : Placement) (ht : c.text.IsPlain) :
    (ed.enter c placement).1.BrokenBy b := by
  unfold enter
  split
  · exact settle_brokenBy h (enterText_brokenBy h _ .insert ht)
  · exact changeRange_brokenBy h c _ fun ed r h => enterText_brokenBy h r placement ht

theorem putAt_brokenBy (c : Command) : (ed.putAt c).1.BrokenBy b := by
  unfold putAt
  split
  · exact settle_brokenBy h (put_brokenBy h 0 c.text)
  · exact changeRange_brokenBy h c _ fun ed r h => keeps_bind fun _ _ => put_brokenBy h r.last.line c.text

end verbs

end Editor

/-- Verbs that edit, keep and put lines, and the one that takes that back. -/
def Verb.worksOnLines : Verb → Bool
  | delete | yank | put | append | insert | change | copy | move | join | sort | shift _ _ | undo => true
  | _ => false

namespace Editor
variable {b : LineBreak} {ed : Editor}

section runs
variable (h : ed.BrokenBy b)
include h

theorem dispatch_brokenBy (run : Runner) (running : Running) {c : Command} (hv : c.verb.worksOnLines)
    (ht : c.text.IsPlain) : (dispatch run running c ed).1.BrokenBy b := by
  obtain ⟨range, verb, t, bang⟩ := c
  cases verb <;> try cases hv
  case delete => exact changeRange_brokenBy h _ _ fun ed r h => delete_brokenBy h r t
  case yank => exact changeRange_brokenBy h _ _ fun ed r h => yank_brokenBy h r t
  case put => exact putAt_brokenBy h _
  case append => exact enter_brokenBy h _ .append ht
  case insert => exact enter_brokenBy h _ .insert ht
  case change => exact enter_brokenBy h _ .change ht
  case copy => exact changeTo_brokenBy h _ fun ed r destination h => copy_brokenBy h r destination
  case move => exact changeTo_brokenBy h _ fun ed r destination h => move_brokenBy h r destination
  case join => exact changeRange_brokenBy h _ _ fun ed r h => join_brokenBy h r bang
  case sort => exact changeRange_brokenBy h _ _ fun ed r h => sort_brokenBy h r t
  case shift forward count => exact changeRange_brokenBy h _ _ fun ed r h => shift_brokenBy h r forward count
  case undo => exact ⟨h.frame.undo, h.registers⟩

theorem runParsed_brokenBy (run : Runner) (running : Running) {line : Text}
    (hline : ∀ c, Command.parse line = .ok (some c) → c.verb.worksOnLines ∧ c.text.IsPlain) :
    (runParsed run running line ed).1.BrokenBy b := by
  unfold runParsed
  split
  · exact h
  · exact h
  · next c hparse =>
    obtain ⟨hv, ht⟩ := hline c hparse
    have hlogged : (ed.log c).BrokenBy b := h.congr rfl rfl
    dsimp only
    split
    · exact hlogged
    · exact dispatch_brokenBy hlogged run running hv ht

theorem execute_brokenBy {line : Text}
    (hline : ∀ c, Command.parse line = .ok (some c) → c.verb.worksOnLines ∧ c.text.IsPlain) :
    (ed.execute line).1.BrokenBy b := by
  have hrun : ∀ n running, (runLine n running line ed.resume).1.BrokenBy b := by
    have hresume : ed.resume.BrokenBy b := h.congr rfl rfl
    intro n running
    cases n with
    | zero => exact hresume
    | succ n =>
      have hopen : (ed.resume.mapFrame Frame.openGroup).BrokenBy b := hresume.mapFrame hresume.frame.openGroup
      have hparsed := runParsed_brokenBy hopen (runLine n) { running with invoking := running.invoking ++ [line] } hline
      exact hparsed.mapFrame hparsed.frame.closeGroup
  have hreport : ∀ (after : Editor) (outcome : Outcome), after.BrokenBy b → (after.report outcome).BrokenBy b := by
    intro after outcome hafter
    rcases after.report_eq outcome with heq | ⟨t, heq⟩ <;> rw [heq]
    · exact hafter
    · exact hafter.congr rfl rfl
  have hafter := hrun ed.nestingBound {}
  unfold execute
  generalize runLine ed.nestingBound {} line ed.resume = result at hafter
  refine hreport _ _ ?_
  split
  · exact hafter.congr rfl rfl
  · exact hafter

/-- One command after the other. -/
theorem steps_brokenBy {lines : List Text} (hlines : ∀ line ∈ lines, ∀ c, Command.parse line = .ok (some c) →
    c.verb.worksOnLines ∧ c.text.IsPlain) : (ed.steps (lines.map Step.execute)).BrokenBy b := by
  induction lines generalizing ed with
  | nil => exact h
  | cons line rest ih =>
    simp only [List.mem_cons, forall_eq_or_imp] at hlines
    exact ih (execute_brokenBy h hlines.1) hlines.2

end runs

/-- In a session on a new frame, with nothing in the registers and no abbreviations, commands that edit, keep and put
lines leave all line breaks as they are, whatever ranges, registers and texts without breaks they are given: after any
of them each line break of the text, and of what any register holds, is the one of the text that was opened. A text
without breaks counts as one with feeds. -/
theorem line_breaks_stay_uniform {b : LineBreak} {t : Text} (ht : t.BrokenBy b) (hplain : t.IsPlain → b = .feed)
    {ed : Editor} (hframe : ed.frame = .ofText t) (hclipboard : ed.context.registers.clipboard = [])
    (hmacros : ed.shelf.store.macros = []) (habbreviations : ed.shelf.store.abbreviations = []) {lines : List Text}
    (hlines : ∀ line ∈ lines, ∀ c, Command.parse line = .ok (some c) → c.verb.worksOnLines ∧ c.text.IsPlain) :
    (ed.steps (lines.map Step.execute)).frame.text.BrokenBy b ∧
      ∀ name, ((ed.steps (lines.map Step.execute)).context.registers.get name).BrokenBy b := by
  have hregisters : ed.context.registers.BrokenBy b := by
    refine ⟨hclipboard ▸ .nil, fun slot fragments hfound => ?_, habbreviations⟩
    change ed.shelf.store.macros.find? slot = some fragments at hfound
    rw [hmacros] at hfound
    cases hfound
  have hstart : ed.BrokenBy b := ⟨hframe ▸ Frame.brokenBy_ofText ht hplain, hregisters⟩
  have hend := steps_brokenBy hstart hlines
  exact ⟨hend.frame.text, hend.registers.get⟩

/-- Lines are deleted, put behind an end that lacks its break, and a line is entered there. -/
theorem line_breaks_stay_uniform_pairs :
    ((ofText "b\r\n\r\na".toList).steps
      (["1,2d".toList, "$pu".toList, "$a x".toList].map Step.execute)).frame.text.BrokenBy .returnFeed := by
  have hdelete : Command.parse "1,2d".toList = .ok (some ⟨"1,2".toList, .delete, [], false⟩) := rfl
  have hput : Command.parse "$pu".toList = .ok (some ⟨"$".toList, .put, [], false⟩) := rfl
  have happend : Command.parse "$a x".toList = .ok (some ⟨"$".toList, .append, "x".toList, false⟩) := rfl
  have hpairs : Text.BrokenBy .returnFeed "b\r\n\r\na".toList := by decide
  refine (line_breaks_stay_uniform hpairs (fun hplain => ?_) rfl rfl rfl rfl ?_).1
  · exact absurd (hplain '\r' (by decide)) (by decide)
  · simp only [List.forall_mem_cons, hdelete, hput, happend, Except.ok.injEq, Option.some.injEq, forall_eq']
    exact ⟨⟨rfl, nofun⟩, ⟨rfl, nofun⟩, ⟨rfl, by simp [Text.IsPlain, Text.isBreak]⟩, nofun⟩

end Editor

end ExEditor
