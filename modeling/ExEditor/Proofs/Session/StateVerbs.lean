import ExEditor.Proofs.Command.Written
import ExEditor.Proofs.Frame.Sort
import ExEditor.Proofs.Session.Recorded
import ExEditor.Proofs.Session.Visits
import ExEditor.Proofs.Settings
import ExEditor.Proofs.Store.Mappings
import ExEditor.Proofs.Substitution.Fields

/-! Commands that change what all sessions share: the options, and the mappings of keys. -/
namespace ExEditor

namespace Command

/-- A word and what stands behind a blank after it make a command without a range. -/
theorem parse_word {letters : Text} {named : Verb} (h : Verb.Spells letters named) (t : Text) :
    parse (letters ++ ' ' :: t) =
      .ok (some ⟨[], named, Text.trimStart (Text.dropEndWhile (fun c => c = '\n' || c = '\r') (' ' :: t)), false⟩) := by
  let none : Address.WrittenPart :=
    { expression := [], opened := 0, search := .none, calculates := .done, head_ne := by decide, searches := nofun }
  have harg : ∀ c ∈ (' ' :: t).head?, (WrittenVerb.word letters named h false).continues c = false := by
    simp only [List.head?_cons, Option.mem_some_iff]
    rintro c rfl
    rfl
  have hparse := (parse_written ⟨[], none⟩ (.word letters named h false) (' ' :: t) harg).1
  have hline : letters ++ ' ' :: t =
      (Address.WrittenRange.text ⟨[], none⟩) ++ (WrittenVerb.word letters named h false).text ++ ' ' :: t := by
    simp [Address.WrittenRange.text, Address.WrittenPart.text, WrittenVerb.text, none]
  have hverb : (WrittenVerb.word letters named h false).verb = named := by
    cases named <;> simp [WrittenVerb.verb, WrittenVerb.named, WrittenVerb.hasBang]
  rw [hline, hparse, hverb]
  rfl

end Command

namespace Text

/-- A text that can stand as one word. -/
def IsWord (t : Text) : Prop := t ≠ [] ∧ ∀ c ∈ t, Unicode.isBlank c = false

instance (t : Text) : Decidable t.IsWord := @instDecidableAnd _ _ _ (List.decidableBAll _ t)

/-- Line breaks that are dropped at the end would go with the blanks there. -/
theorem trim_dropBreaks (t : Text) : Text.trim (dropEndWhile (fun c => c = '\n' || c = '\r') t) = t.trim := by
  rw [trim, trimStart, dropWhile_dropEndWhile, trimEnd, dropEndWhile_of_less fun c hc => Command.isBlank_of_break c hc]
  rfl

variable {word : Text}

theorem IsWord.trimStart_append (h : word.IsWord) (t : Text) : Text.trimStart (word ++ t) = word ++ t := by
  obtain ⟨c, rest, rfl⟩ := List.exists_cons_of_ne_nil h.1
  exact List.dropWhile_cons_of_neg (by simpa using h.2 c List.mem_cons_self)

theorem IsWord.trim (h : word.IsWord) : word.trim = word := by
  have hlast : ∀ c ∈ word.getLast?, ¬ Unicode.isBlank c := fun c hc => by
    simpa using h.2 c (List.mem_of_mem_getLast? hc)
  have hstart := h.trimStart_append []
  rw [List.append_nil] at hstart
  rw [Text.trim, hstart, trimEnd, ← List.append_nil word, dropEndWhile_append hlast]
  rfl

end Text

namespace Editor

section definitions
variable {lhs rhs : Text}

/-- A left-hand side is a word, if there is one. -/
theorem splitDefinition_isWord (t : Text) (h : (splitDefinition t).1 ≠ []) : (splitDefinition t).1.IsWord := by
  refine ⟨h, ?_⟩
  have hfront := Text.splitFirst?_front (p := Unicode.isBlank) (t := t.trim)
  unfold splitDefinition
  cases hsplit : Text.splitFirst? Unicode.isBlank t.trim with
  | none => exact fun c hc => hfront c (by rwa [hsplit])
  | some parts => exact fun c hc => hfront c (by rwa [hsplit])

/-- A word with something behind it is split there. -/
theorem splitDefinition_written (h : lhs.IsWord) (hrhs : rhs.trim ≠ []) :
    splitDefinition (lhs ++ ' ' :: rhs) = (lhs, rhs.trim) := by
  have hlast : ∀ c ∈ lhs.getLast?, ¬ Unicode.isBlank c := fun c hc => by
    simpa using h.2 c (List.mem_of_mem_getLast? hc)
  have hkept : Text.trimEnd (' ' :: rhs) = ' ' :: Text.trimEnd rhs := by
    have hne : Text.trimEnd rhs ≠ [] := by
      intro hnil
      refine hrhs ?_
      have hswap : rhs.trim = Text.trimStart (Text.trimEnd rhs) := (Text.dropWhile_dropEndWhile _ _ _).symm
      rw [hswap, hnil]
      rfl
    rw [Text.trimEnd, Text.dropEndWhile_cons, if_neg fun hdrop => hne hdrop.1]
    rfl
  have htrim : Text.trim (lhs ++ ' ' :: rhs) = lhs ++ ' ' :: Text.trimEnd rhs := by
    rw [Text.trim, h.trimStart_append, Text.trimEnd, Text.dropEndWhile_append hlast]
    exact congrArg (lhs ++ ·) hkept
  rw [splitDefinition, htrim, Text.splitFirst?_append h.2 rfl]
  exact congrArg (Prod.mk lhs) (Text.dropWhile_dropEndWhile _ _ _)

end definitions

section commands
variable {n : Nat} {running : Running} {line : Text} {ed : Editor} {c : Command}

theorem execute_context (ed : Editor) (line : Text) :
    (ed.execute line).1.context = (runLine ed.nestingBound {} line ed.resume).1.context := by
  unfold execute report record
  dsimp only
  generalize runLine ed.nestingBound {} line ed.resume = result
  cases result.2.shown <;> dsimp only [Option.elim] <;> split <;> rfl

theorem runLine_bare (hc : Command.parse line = .ok (some c)) (hr : c.range = []) :
    runLine (n + 1) running line ed =
      let (after, outcome) := dispatch (runLine n) { running with invoking := running.invoking ++ [line] } c
        (ed.begun c)
      (after.mapFrame Frame.closeGroup, outcome) := by
  unfold runLine runParsed
  simp only [hc, hr, ne_eq, not_true_eq_false, decide_false, Bool.and_false, Bool.false_eq_true, ↓reduceIte]
  rfl

/-- A command without a range is carried out. -/
theorem execute_dispatched (ed : Editor) (hc : Command.parse line = .ok (some c)) (hr : c.range = []) :
    ∃ run running, (ed.execute line).2 = (dispatch run running c (ed.resume.begun c)).2 ∧
      (ed.execute line).1.context = (dispatch run running c (ed.resume.begun c)).1.context := by
  obtain ⟨n, hn⟩ : ∃ n, ed.nestingBound = n + 1 := ⟨_, rfl⟩
  refine ⟨runLine n, { invoking := [line] }, ?_, ?_⟩
  · rw [execute, hn, runLine_bare hc hr]
    rfl
  · rw [execute_context, hn, runLine_bare hc hr]
    rfl

/-- A range in front of a command that takes none is refused. -/
theorem execute_refused (ed : Editor) (hc : Command.parse line = .ok (some c)) (hv : c.verb.takesRange = false)
    (hr : c.range ≠ []) : (ed.execute line).1.context = ed.context := by
  obtain ⟨n, hn⟩ : ∃ n, ed.nestingBound = n + 1 := ⟨_, rfl⟩
  rw [execute_context, hn]
  unfold runLine runParsed
  simp only [hc, hv, hr, Bool.not_false, Bool.true_and, ne_eq, not_false_eq_true, decide_true, ↓reduceIte]
  rfl

end commands

/-! ### Options -/

section options
variable {ed : Editor} {line : Text} {c : Command}

/-- What a command line that sets options leaves behind, and how it goes. -/
theorem execute_set (hc : Command.parse line = .ok (some c)) (hv : c.verb = .set) (hr : c.range = []) :
    let applied := ed.context.settings.apply (if c.text.isBlank then "all" else c.text)
    (ed.execute line).1.context = { ed.context with settings := applied.1 } ∧
      (ed.execute line).2 = match applied.2 with
        | .ok (some listing) => .message listing
        | .ok none => .success
        | .error failure => .failure failure := by
  obtain ⟨run, running, houtcome, hcontext⟩ := ed.execute_dispatched hc hr
  have hdispatch : dispatch run running c (ed.resume.begun c) = (ed.resume.begun c).setOptions c.text := by
    unfold dispatch
    rw [hv]
  have hsettings : (ed.resume.begun c).context = ed.context := rfl
  rw [hdispatch, setOptions, hsettings] at houtcome hcontext
  intro applied
  rw [houtcome, hcontext]
  rcases happlied : ed.context.settings.apply (if c.text.isBlank then "all" else c.text) with
    ⟨settings, (failure | _ | listing)⟩ <;> simp [applied, happlied]

end options

/-- Options are applied from left to right. Where none is refused each setting comes to have the value that the last
option for it gives, or keeps its own, and the listing is what it was at the last place that asks for it. Where one is
refused those in front of it have been applied all the same, so that the settings are what they were exactly if these
change nothing. A command line that sets options does the same to the options of its editor and to nothing else that is
shared. -/
theorem set_applies_up_to_refused (s : Settings) (arguments : Text) :
    let options := arguments.words
    ((∀ option ∈ options, Assignment.refusal? option = none) →
      ∃ shown, s.apply arguments = (s.assignAll (Assignment.readAll options), .ok shown) ∧
        (∀ k, (s.assignAll (Assignment.readAll options)).valueOf k =
          (Assignment.lastFor? (Assignment.readAll options) k).getD (s.valueOf k)) ∧
        ("all".toList ∉ options → shown = none) ∧
        ∀ before after, options = before ++ "all".toList :: after → "all".toList ∉ after →
          shown = some (s.assignAll (Assignment.readAll before)).listing) ∧
    (∀ before option after cause, options = before ++ option :: after →
      (∀ option ∈ before, Assignment.refusal? option = none) → Assignment.refusal? option = some cause →
      s.apply arguments = (s.assignAll (Assignment.readAll before), .error (.malformed cause)) ∧
        ((s.apply arguments).1 = s ↔
          ∀ k, ∀ a ∈ Assignment.lastFor? (Assignment.readAll before) k, a = s.valueOf k)) ∧
    ∀ (ed : Editor) (line : Text) (c : Command), Command.parse line = .ok (some c) → c.verb = .set → c.range = [] →
      ed.context.settings = s → (if c.text.isBlank then "all".toList else c.text) = arguments →
      (ed.execute line).1.context = { ed.context with settings := (s.apply arguments).1 } ∧
        (ed.execute line).2 = match (s.apply arguments).2 with
          | .ok (some listing) => .message listing
          | .ok none => .success
          | .error failure => .failure failure := by
  intro options
  refine ⟨fun haccepted => ?_, fun before option after cause hoptions hbefore hrefused => ?_, ?_⟩
  · obtain ⟨shown, happly⟩ := s.applyOptions_append none haccepted []
    rw [List.append_nil] at happly
    refine ⟨shown, happly, s.valueOf_assignAll _, fun hall => ?_, fun before after hoptions hall => ?_⟩
    · exact (Except.ok.inj (congrArg Prod.snd (happly.symm.trans (s.applyOptions_quiet none haccepted hall))))
    · have hparts := hoptions ▸ haccepted
      obtain ⟨shown', hbefore⟩ := s.applyOptions_append none (fun o ho => hparts o (List.mem_append_left _ ho))
        ("all".toList :: after)
      have hafter := (s.assignAll (Assignment.readAll before)).applyOptions_quiet
        (some (s.assignAll (Assignment.readAll before)).listing)
        (fun o ho => hparts o (List.mem_append_right _ (List.mem_cons_of_mem _ ho))) hall
      rw [hoptions, hbefore, Settings.applyOptions_all, hafter] at happly
      exact (Except.ok.inj (congrArg Prod.snd happly)).symm
  · obtain ⟨shown, hfront⟩ := s.applyOptions_append none hbefore (option :: after)
    have happly : s.apply arguments = (s.assignAll (Assignment.readAll before), .error (.malformed cause)) := by
      rw [Settings.apply, show arguments.words = before ++ option :: after from hoptions, hfront,
        Settings.applyOptions_refused _ _ hrefused]
    refine ⟨happly, ?_⟩
    rw [happly]
    exact Settings.assignAll_eq_self_iff
  · rintro ed line c hc hv hr rfl rfl
    exact execute_set hc hv hr

/-- The width is given twice and the last one counts; the listing is what it was in between. The options in front of
one that is refused change two settings, and the one behind it changes none. -/
theorem set_applies_up_to_refused_width :
    let s : Settings := {}
    s.apply "sw=2 noic ic all et sw=8" =
        ({ s with ignoreCase := true, shiftWidth := 8 },
          .ok (some "ignorecase wrapscan expandtab shiftwidth=2 commentbegin=//".toList)) ∧
      s.apply "sw=2 nows bogus ic" =
        ({ s with wrapScan := false, shiftWidth := 2 }, .error (.malformed (.unknownOption "bogus".toList))) ∧
      ((s.apply "sw=2 nows bogus ic").1 = s ↔ False) ∧
      ((Editor.ofText []).execute "se sw=2 nows bogus ic".toList).1.context =
        { (Editor.ofText []).context with settings := (s.apply "sw=2 nows bogus ic").1 } := by
  intro s
  obtain ⟨haccepted, -, -⟩ := set_applies_up_to_refused s "sw=2 noic ic all et sw=8"
  obtain ⟨-, hrefused, hcommand⟩ := set_applies_up_to_refused s "sw=2 nows bogus ic"
  obtain ⟨shown, happly, -, -, hshown⟩ := haccepted (by decide)
  obtain rfl := hshown ["sw=2".toList, "noic".toList, "ic".toList] ["et".toList, "sw=8".toList] (by decide) (by decide)
  obtain ⟨hstopped, hsame⟩ := hrefused ["sw=2".toList, "nows".toList] "bogus".toList ["ic".toList]
    (.unknownOption "bogus".toList) (by decide) (by decide) (by decide)
  refine ⟨happly.trans (by decide +kernel), hstopped.trans (by decide +kernel), hsame.trans ?_, ?_⟩
  · refine iff_of_false (fun h => ?_) id
    exact absurd (h .shiftWidth (.shiftWidth 2) (by decide)) (by decide)
  · exact (hcommand (Editor.ofText []) _ ⟨[], .set, "sw=2 nows bogus ic".toList, false⟩ (by decide +kernel) rfl rfl rfl
      rfl).1

/-- The option in front of one that is unknown has been set although the command fails. -/
theorem set_refused_changes :
    let result := (Editor.ofText []).execute "set ic bogus".toList
    result.2 = .failure (.malformed (.unknownOption "bogus".toList)) ∧
      (Editor.ofText []).context.settings.ignoreCase = false ∧ result.1.context.settings.ignoreCase = true := by
  decide +kernel

/-! ### Mappings -/

/-- Whether a line is a command that makes, lists or removes mappings. -/
def IsMapping (line : Text) : Prop := ∃ c, Command.parse line = .ok (some c) ∧ (c.verb = .map ∨ c.verb = .unmap)

section mappings
variable {ed : Editor} {line lhs rhs : Text} {c : Command} {nodes : List Node}

theorem updateStore_store (ed : Editor) (store : Store) : (ed.updateStore store).shelf.store = store :=
  Shelf.update_store _ _

/-- What `map` leaves in the store, and how it goes. -/
theorem execute_mapKeys (ed : Editor) (hc : Command.parse line = .ok (some c)) (hv : c.verb = .map) (hr : c.range = []) :
    ((ed.execute line).1.shelf.store = ed.shelf.store ∧
        ((splitDefinition c.text).1 = [] ∨ (splitDefinition c.text).2 = [])) ∨
      (splitDefinition c.text).1 ≠ [] ∧ (splitDefinition c.text).2 ≠ [] ∧ (ed.execute line).2 = .success ∧
        (ed.execute line).1.shelf.store =
          ed.shelf.store.setMapping (splitDefinition c.text).1 (splitDefinition c.text).2 := by
  obtain ⟨run, running, houtcome, hcontext⟩ := ed.execute_dispatched hc hr
  have hdispatch : dispatch run running c (ed.resume.begun c) =
      (ed.resume.begun c).settle ((ed.resume.begun c).mapKeys c.text) := by
    unfold dispatch
    rw [hv]
  have hstore : (ed.resume.begun c).shelf.store = ed.shelf.store := rfl
  have hleft : (ed.execute line).1.shelf.store = _ := congrArg (·.registers.shelf.store) hcontext
  rw [hdispatch, mapKeys, hstore] at houtcome hleft
  rcases hsplit : splitDefinition c.text with ⟨lhs, rhs⟩
  rw [hsplit] at houtcome hleft
  cases lhs with
  | nil => exact .inl ⟨hleft, .inl rfl⟩
  | cons first lhs =>
    cases rhs with
    | nil => exact .inl ⟨hleft, .inr rfl⟩
    | cons d rhs => exact .inr ⟨List.cons_ne_nil _ _, List.cons_ne_nil _ _, houtcome, hleft.trans (updateStore_store _ _)⟩

/-- What `unmap` leaves in the store, and how it goes. -/
theorem execute_unmapKeys (ed : Editor) (hc : Command.parse line = .ok (some c)) (hv : c.verb = .unmap) (hr : c.range = []) :
    (ed.shelf.store.removeMapping? c.text.trim = none ∧ (ed.execute line).2.isFailure ∧
        (ed.execute line).1.shelf.store = ed.shelf.store) ∨
      ∃ store, ed.shelf.store.removeMapping? c.text.trim = some store ∧ (ed.execute line).2 = .success ∧
        (ed.execute line).1.shelf.store = store := by
  obtain ⟨run, running, houtcome, hcontext⟩ := ed.execute_dispatched hc hr
  have hdispatch : dispatch run running c (ed.resume.begun c) =
      (ed.resume.begun c).settle ((ed.resume.begun c).unmapKeys c.text) := by
    unfold dispatch
    rw [hv]
  have hstore : (ed.resume.begun c).shelf.store = ed.shelf.store := rfl
  have hleft : (ed.execute line).1.shelf.store = _ := congrArg (·.registers.shelf.store) hcontext
  rw [hdispatch, unmapKeys, hstore] at houtcome hleft
  cases hremoved : ed.shelf.store.removeMapping? c.text.trim with
  | none =>
    rw [hremoved] at houtcome hleft
    exact .inl ⟨rfl, by rw [houtcome]; rfl, hleft⟩
  | some store =>
    rw [hremoved] at houtcome hleft
    exact .inr ⟨store, rfl, houtcome, hleft.trans (updateStore_store _ _)⟩

/-- A mapping that is made has a word for its left-hand side, and one is removed where its left-hand side belongs. -/
theorem execute_mapping_store (ed : Editor) (h : IsMapping line) :
    (ed.execute line).1.shelf.store = ed.shelf.store ∨
      (∃ lhs rhs, lhs.IsWord ∧ (ed.execute line).1.shelf.store = ed.shelf.store.setMapping lhs rhs) ∨
      ∃ lhs, ed.shelf.store.removeMapping? lhs = some (ed.execute line).1.shelf.store := by
  obtain ⟨c, hc, hverb⟩ := h
  by_cases hr : c.range = []
  · rcases hverb with hv | hv
    · obtain ⟨hsame, -⟩ | ⟨hlhs, -, -, hset⟩ := ed.execute_mapKeys hc hv hr
      · exact .inl hsame
      · exact .inr (.inl ⟨_, _, splitDefinition_isWord _ hlhs, hset⟩)
    · obtain ⟨-, -, hsame⟩ | ⟨store, hremoved, -, rfl⟩ := ed.execute_unmapKeys hc hv hr
      · exact .inl hsame
      · exact .inr (.inr ⟨_, hremoved⟩)
  · have hv : c.verb.takesRange = false := by rcases hverb with hv | hv <;> rw [hv] <;> rfl
    exact .inl (congrArg (·.registers.shelf.store) (ed.execute_refused hc hv hr))

theorem execute_mapping_wellFormed (h : IsMapping line) (hstore : ed.shelf.store.WellFormed) :
    (ed.execute line).1.shelf.store.WellFormed := by
  obtain hsame | ⟨lhs, rhs, -, hset⟩ | ⟨lhs, hremoved⟩ := ed.execute_mapping_store h
  · rwa [hsame]
  · rw [hset]
    exact hstore.setMapping lhs rhs
  · exact hstore.removeMapping? hremoved

/-- Mappings that stand with another kind than the one that their left-hand side is written as are passed by. -/
theorem execute_mapping_astray (ed : Editor) (h : IsMapping line) {kind : MapKind} (hkind : kind ≠ MapKind.ofKeys lhs) :
    (ed.execute line).1.shelf.store.mapped? kind lhs = ed.shelf.store.mapped? kind lhs := by
  obtain hsame | ⟨lhs', rhs, -, hset⟩ | ⟨lhs', hremoved⟩ := ed.execute_mapping_store h
  · rw [hsame]
  · rw [hset, Store.mapped?_setMapping, if_neg]
    rintro ⟨hof, rfl⟩
    exact hkind hof
  · rw [Store.mapped?_removeMapping? hremoved, if_neg]
    rintro ⟨hof, rfl⟩
    exact hkind hof

/-- A run of such commands keeps the store well formed, and what is astray. -/
theorem executeEach_mappings {lines : List Text} (h : ∀ line ∈ lines, IsMapping line)
    (hstore : ed.shelf.store.WellFormed) :
    (ed.executeEach lines).shelf.store.WellFormed ∧ ∀ kind lhs, kind ≠ MapKind.ofKeys lhs →
      (ed.executeEach lines).shelf.store.mapped? kind lhs = ed.shelf.store.mapped? kind lhs := by
  induction lines generalizing ed with
  | nil => exact ⟨hstore, fun _ _ _ => rfl⟩
  | cons line lines ih =>
    obtain ⟨hline, hlines⟩ := List.forall_mem_cons.mp h
    obtain ⟨hwell, hastray⟩ := ih hlines (execute_mapping_wellFormed hline hstore)
    exact ⟨hwell, fun kind lhs hkind => (hastray kind lhs hkind).trans (ed.execute_mapping_astray hline hkind)⟩

/-- `map` with a left-hand side and a right-hand side as it is written. -/
def mapLine (lhs rhs : Text) : Text := "map ".toList ++ lhs ++ ' ' :: rhs

/-- `unm` with a left-hand side as it is written. -/
def unmapLine (lhs : Text) : Text := "unm ".toList ++ lhs

theorem parse_mapLine (lhs rhs : Text) : ∃ c, Command.parse (mapLine lhs rhs) = .ok (some c) ∧ c.verb = .map ∧
    c.range = [] ∧ c.text.trim = Text.trim (lhs ++ ' ' :: rhs) := by
  have hspells : Verb.Spells "map".toList .map := Verb.ofWord?_eq_some_iff.mp (by decide)
  refine ⟨_, Command.parse_word hspells (lhs ++ ' ' :: rhs), rfl, rfl, ?_⟩
  rw [Text.trim_trimStart, Text.trim_dropBreaks]
  rfl

theorem parse_unmapLine (lhs : Text) : ∃ c, Command.parse (unmapLine lhs) = .ok (some c) ∧ c.verb = .unmap ∧
    c.range = [] ∧ c.text.trim = lhs.trim := by
  have hspells : Verb.Spells "unm".toList .unmap := Verb.ofWord?_eq_some_iff.mp (by decide)
  refine ⟨_, Command.parse_word hspells lhs, rfl, rfl, ?_⟩
  rw [Text.trim_trimStart, Text.trim_dropBreaks]
  rfl

/-- The commands for mappings manage a left-hand side that is listed: it is shown once, `map` replaces its right-hand
side, and `unm` removes it. -/
structure Manages (ed : Editor) (lhs : Text) : Prop where
  once : ∃ rhs, ed.shelf.store.shown lhs = [rhs]
  replaced : ∀ rhs : Text, rhs.trim ≠ [] → (ed.execute (mapLine lhs rhs)).2 = .success ∧
    (ed.execute (mapLine lhs rhs)).1.shelf.store.shown lhs = [rhs.trim]
  removed : (ed.execute (unmapLine lhs)).2 = .success ∧ (ed.execute (unmapLine lhs)).1.shelf.store.shown lhs = []

/-- A listed word that stands where it belongs is managed. -/
theorem manages_of_filed (hstore : ed.shelf.store.WellFormed) (hword : lhs.IsWord)
    (hlisted : ed.shelf.store.shown lhs ≠ []) (hfiled : ed.shelf.store.Filed lhs) : ed.Manages lhs := by
  have hshown := hstore.shown_of_filed hfiled
  have hkept : ∀ {line}, IsMapping line → (ed.execute line).1.shelf.store.Filed lhs := fun h kind hkind =>
    (ed.execute_mapping_astray h hkind).trans (hfiled kind hkind)
  obtain ⟨rhs, hmapped⟩ : ∃ rhs, ed.shelf.store.mapped? (MapKind.ofKeys lhs) lhs = some rhs := by
    rw [hshown] at hlisted
    exact Option.ne_none_iff_exists'.mp fun hnone => hlisted (by rw [hnone]; rfl)
  refine ⟨⟨rhs, by rw [hshown, hmapped]; rfl⟩, fun rhs hrhs => ?_, ?_⟩
  · obtain ⟨c, hc, hv, hr, htext⟩ := parse_mapLine lhs rhs
    have hsplit : splitDefinition c.text = (lhs, rhs.trim) := by
      have htrim : splitDefinition c.text = splitDefinition (lhs ++ ' ' :: rhs) := by
        rw [splitDefinition, htext]
        rfl
      rw [htrim, splitDefinition_written hword hrhs]
    obtain ⟨-, hnone⟩ | ⟨-, -, hsuccess, hset⟩ := ed.execute_mapKeys hc hv hr
    · rw [hsplit] at hnone
      exact absurd hnone (not_or.mpr ⟨hword.1, hrhs⟩)
    · rw [hsplit] at hset
      refine ⟨hsuccess, ?_⟩
      rw [(execute_mapping_wellFormed ⟨c, hc, .inl hv⟩ hstore).shown_of_filed (hkept ⟨c, hc, .inl hv⟩), hset,
        Store.mapped?_setMapping, if_pos ⟨rfl, rfl⟩]
      rfl
  · obtain ⟨c, hc, hv, hr, htext⟩ := parse_unmapLine lhs
    rw [hword.trim] at htext
    have hfound := ed.shelf.store.isSome_removeMapping? lhs
    rw [hmapped] at hfound
    obtain ⟨hnone, -, -⟩ | ⟨store, hremoved, hsuccess, hleft⟩ := ed.execute_unmapKeys hc hv hr
    · rw [htext] at hnone
      rw [hnone] at hfound
      cases hfound
    · rw [htext] at hremoved
      refine ⟨hsuccess, ?_⟩
      rw [(execute_mapping_wellFormed ⟨c, hc, .inr hv⟩ hstore).shown_of_filed (hkept ⟨c, hc, .inr hv⟩), hleft,
        Store.mapped?_removeMapping? hremoved, if_pos ⟨rfl, rfl⟩]
      rfl

/-- `map` makes no left-hand side that is not a word, so that it cannot replace one. -/
theorem isWord_of_manages (hstore : ed.shelf.store.WellFormed) (h : ed.Manages lhs) : lhs.IsWord := by
  by_contra hword
  have hsame : ∀ rhs, (ed.execute (mapLine lhs rhs)).1.shelf.store.shown lhs = ed.shelf.store.shown lhs := by
    intro rhs
    obtain ⟨c, hc, hv, hr, -⟩ := parse_mapLine lhs rhs
    have hmapped : ∀ kind, (ed.execute (mapLine lhs rhs)).1.shelf.store.mapped? kind lhs =
        ed.shelf.store.mapped? kind lhs := by
      intro kind
      obtain ⟨hstored, -⟩ | ⟨hlhs, -, -, hset⟩ := ed.execute_mapKeys hc hv hr
      · rw [hstored]
      · rw [hset, Store.mapped?_setMapping, if_neg]
        rintro ⟨-, heq⟩
        exact hword (heq ▸ splitDefinition_isWord _ hlhs)
    rw [(execute_mapping_wellFormed ⟨c, hc, .inl hv⟩ hstore).shown_eq, hstore.shown_eq]
    exact List.flatMap_congr fun kind _ => congrArg Option.toList (hmapped kind)
  have hx := (h.replaced ['x'] (by decide)).2
  have hy := (h.replaced ['y'] (by decide)).2
  rw [hsame] at hx hy
  exact absurd (hx.symm.trans hy) (by decide)

/-- What is astray is not removed. -/
theorem filed_of_manages (hstore : ed.shelf.store.WellFormed) (h : ed.Manages lhs) : ed.shelf.store.Filed lhs := by
  intro kind hkind
  obtain ⟨c, hc, hv, -, -⟩ := parse_unmapLine lhs
  rw [← ed.execute_mapping_astray ⟨c, hc, .inr hv⟩ hkind]
  refine Option.eq_none_iff_forall_ne_some.mpr fun rhs hmapped => ?_
  have hshown := (execute_mapping_wellFormed ⟨c, hc, .inr hv⟩ hstore).mem_shown hmapped
  rw [h.removed.2] at hshown
  cases hshown

/-- The listing of the mappings is what `map` shows by itself. -/
theorem execute_map_lists (ed : Editor) :
    (ed.execute "map".toList).2 = listed (definitionLines ed.shelf.store.mappings.listing) "no mappings" := by
  have hparse : Command.parse "map".toList = .ok (some ⟨[], .map, [], false⟩) := by decide +kernel
  obtain ⟨run, running, houtcome, -⟩ := ed.execute_dispatched hparse rfl
  exact houtcome

end mappings

/-- In a store that has been loaded from a document, after any commands that make and remove mappings: what stands with
another kind than its left-hand side is written as is what the document put there. So a left-hand side that is listed
is managed by the commands, that is shown once, replaced by `map` and removed by `unm`, exactly if it is a word and no
node of the document holds it for another kind. -/
theorem mappings_managed_iff {shelf : Shelf} {ed : Editor} {lines : List Text} (hnew : shelf.store = {})
    (hload : shelf.load = .ok ed.shelf) (hlines : ∀ line ∈ lines, IsMapping line) :
    let after := ed.executeEach lines
    (after.execute "map".toList).2 = listed (definitionLines after.shelf.store.mappings.listing) "no mappings" ∧
      (∀ kind lhs, kind ≠ MapKind.ofKeys lhs →
        after.shelf.store.mapped? kind lhs = Table.find? (shelf.nodes.filterMap (Node.mapping? kind)) lhs) ∧
      ∀ lhs, after.shelf.store.shown lhs ≠ [] →
        (after.Manages lhs ↔
          lhs.IsWord ∧ ∀ kind rhs, .mapping kind lhs rhs ∈ shelf.nodes → kind = MapKind.ofKeys lhs) := by
  intro after
  have hloaded : ed.shelf.store = Store.absorbAll {} shelf.nodes := hnew ▸ Shelf.load_nodes_eq hload
  have hstore : ed.shelf.store.WellFormed := hloaded ▸ Store.WellFormed.empty.absorbAll _
  obtain ⟨hafter, hastray⟩ := executeEach_mappings hlines hstore
  have hheld : ∀ kind lhs, kind ≠ MapKind.ofKeys lhs →
      after.shelf.store.mapped? kind lhs = Table.find? (shelf.nodes.filterMap (Node.mapping? kind)) lhs := by
    intro kind lhs hkind
    have hempty : Store.mapped? {} kind lhs = none := by cases kind <;> rfl
    rw [hastray kind lhs hkind, hloaded, Store.mapped?_absorbAll, hempty, Option.none_or]
  refine ⟨after.execute_map_lists, hheld, fun lhs hlisted => ⟨fun h => ?_, fun ⟨hword, hnodes⟩ => ?_⟩⟩
  · refine ⟨isWord_of_manages hafter h, fun kind rhs hnode => ?_⟩
    by_contra hkind
    have hnone := filed_of_manages hafter h kind hkind
    rw [hheld kind lhs hkind, Node.find?_mapping_eq_none_iff] at hnone
    exact hnone rhs hnode
  · refine manages_of_filed hafter hword hlisted fun kind hkind => ?_
    rw [hheld kind lhs hkind, Node.find?_mapping_eq_none_iff]
    exact fun rhs hnode => hkind (hnodes kind rhs hnode)

/-- One left-hand side stands where it belongs, another with a kind that it is not written as, from where a mapping
that is made beside it does not move it. -/
theorem mappings_managed_iff_astray :
    let node (kind lhs rhs : Text) : Text :=
      "\x7b\"kind\":\"" ++ kind ++ "\",\"name\":\"" ++ lhs ++ "\",\"value\":\"" ++ rhs ++ "\"\x7d"
    let document : Text := "\x7b\"nodes\":[" ++ node "map" "<C-x>" "dd" ++ "," ++ node "map-key" "<F1>" "p" ++ "]\x7d"
    let shelf := Shelf.fresh "/s" { entries := [(["s".toList], .file (.text document))] }
    let nodes : List Node := [.mapping .plain "<C-x>" "dd", .mapping .key "<F1>" "p"]
    let loaded : Shelf := { shelf with store := Store.absorbAll {} nodes, loaded := true }
    let after := Editor.executeEach ((Editor.ofText []).setShelf loaded) ["map <C-x> u".toList, "unm <C-y>".toList]
    shelf.load = .ok loaded ∧ shelf.nodes = nodes ∧ after.shelf.store.shown "<C-x>" = ["dd".toList, "u".toList] ∧
      after.Manages "<F1>" ∧ ¬ after.Manages "<C-x>" := by
  intro node document shelf nodes loaded after
  have hnodes : Store.readNodes? document = some nodes := by decide +kernel
  have hload : shelf.load = .ok loaded := Shelf.load_nodes rfl rfl rfl hnodes
  have hheld : shelf.nodes = nodes := by
    change (Option.bind (some document) Store.readNodes?).getD [] = nodes
    rw [Option.bind_some, hnodes]
    rfl
  have hlines : ∀ line ∈ ["map <C-x> u".toList, "unm <C-y>".toList], IsMapping line := by
    intro line hline
    rcases List.mem_cons.mp hline with rfl | hline
    · exact ⟨⟨[], .map, "<C-x> u".toList, false⟩, by decide +kernel, .inl rfl⟩
    · rw [List.mem_singleton.mp hline]
      exact ⟨⟨[], .unmap, "<C-y>".toList, false⟩, by decide +kernel, .inr rfl⟩
  have hshelf : shelf.load = .ok ((Editor.ofText []).setShelf loaded).shelf := hload
  obtain ⟨-, -, hmanaged⟩ := mappings_managed_iff rfl hshelf hlines
  rw [hheld] at hmanaged
  refine ⟨hload, hheld, by decide +kernel, (hmanaged "<F1>" (by decide +kernel)).mpr ?_, fun h => ?_⟩
  · refine ⟨by decide, fun kind rhs hmem => ?_⟩
    rcases List.mem_cons.mp hmem with hfirst | hmem
    · exact absurd (Node.mapping.inj hfirst).2.1 (by decide)
    · rw [(Node.mapping.inj (List.mem_singleton.mp hmem)).1]
      decide
  · have hkind := ((hmanaged "<C-x>" (by decide +kernel)).mp h).2 .plain "dd" List.mem_cons_self
    exact absurd hkind (by decide)

/-- A document is loaded that holds a mapping for another kind than its left-hand side is written as, and one whose
left-hand side is no word. Both are listed; the one is not found when it is to be removed, and instead of the other
a new one is made. -/
theorem loaded_mapping_astray :
    let document : Text := "\x7b\"nodes\":[\x7b\"kind\":\"map\",\"name\":\"<C-x>\",\"value\":\"dd\"\x7d,".toList ++
      "\x7b\"kind\":\"map\",\"name\":\"a b\",\"value\":\"p\"\x7d]\x7d"
    let shelf := Shelf.fresh "/s" { entries := [(["s".toList], .file (.text document))] }
    let ed := (Editor.ofText []).setShelf (shelf.load.toOption.getD shelf)
    ed.shelf.loaded = true ∧ ed.shelf.store.mappings.listing = [("<C-x>".toList, "dd".toList), ("a b", "p")] ∧
      (ed.execute (unmapLine "<C-x>")).2 = .failure (.malformed (.noSuchMapping "<C-x>")) ∧
      (ed.execute (mapLine "<C-x>" "u")).1.shelf.store.shown "<C-x>" = ["dd".toList, "u".toList] ∧
      (ed.execute (mapLine "a b" "u")).1.shelf.store.mappings.listing =
        [("<C-x>".toList, "dd".toList), ("a", "b u"), ("a b", "p")] := by
  decide +kernel

end Editor
end ExEditor
