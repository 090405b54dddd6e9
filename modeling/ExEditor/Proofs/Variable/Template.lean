import ExEditor.Proofs.Variable.Nesting
import Mathlib.Algebra.Ring.Parity

/-! The parts of a template. However texts and names follow each other, the text in which every `@` of a text is
doubled and every name stands between two is read back as them, and comes to what they come to one after the other. -/
namespace ExEditor
namespace Variable

/-- A part of a template: a text, or the name of a variable. -/
inductive Part
  | literal (t : Text)
  | token (name : Text) (h : name ≠ [] ∧ '@' ∉ name)

namespace Part

/-- A part as it is written. -/
def written : Part → Text
  | literal t => t.flatMap fun c => if c = '@' then ['@', '@'] else [c]
  | token name _ => '@' :: (name ++ ['@'])

/-- The pieces that a part is read as. -/
def pieces : Part → List Piece
  | literal t => t.map fun c => .literal [c]
  | token name _ => [.token name]

end Part

/-- The text of a template. -/
def written (parts : List Part) : Text := parts.flatMap Part.written

theorem written_cons (part : Part) (parts : List Part) : written (part :: parts) = part.written ++ written parts :=
  List.flatMap_cons

/-- Up to the next `@` all is one name. -/
theorem pieces_name {t : Text} (h : '@' ∉ t) (name rest : Text) :
    pieces (some name) (t ++ rest) = pieces (some (name ++ t)) rest := by
  induction t generalizing name with
  | nil => rw [List.nil_append, List.append_nil]
  | cons c t ih =>
    obtain ⟨hc, ht⟩ := List.ne_and_not_mem_of_not_mem_cons h
    rw [List.cons_append, pieces, if_neg hc.symm, ih ht, List.append_assoc]
    rfl

theorem pieces_part (part : Part) (rest : Text) :
    pieces none (part.written ++ rest) = part.pieces ++ pieces none rest := by
  cases part with
  | token name h =>
    change pieces (some []) ((name ++ ['@']) ++ rest) = _
    rw [List.append_assoc, pieces_name h.2, List.nil_append]
    change (if name = [] then Piece.literal ['@'] else .token name) :: _ = _
    rw [if_neg h.1]
    rfl
  | literal t =>
    unfold Part.written Part.pieces
    dsimp only
    induction t with
    | nil => rfl
    | cons c t ih =>
      rw [List.flatMap_cons, List.append_assoc, List.map_cons, List.cons_append, ← ih]
      by_cases hc : c = '@'
      · subst hc
        rfl
      · rw [if_neg hc, List.singleton_append, pieces, if_neg hc]

/-- A template is read as its parts. -/
theorem pieces_written (parts : List Part) (rest : Text) :
    pieces none (written parts ++ rest) = parts.flatMap Part.pieces ++ pieces none rest := by
  induction parts with
  | nil => rfl
  | cons part parts ih => rw [written_cons, List.append_assoc, pieces_part, ih, List.flatMap_cons, List.append_assoc]

theorem even_count_part (part : Part) : Even (part.written.count '@') := by
  cases part with
  | token name h =>
    rw [Part.written, List.count_cons_self, List.count_append, List.count_eq_zero_of_not_mem h.2]
    decide
  | literal t =>
    unfold Part.written
    induction t with
    | nil => decide
    | cons c t ih =>
      dsimp only at ih ⊢
      rw [List.flatMap_cons, List.count_append]
      refine Even.add ?_ ih
      split
      · decide
      · next hc => simp [List.count_eq_zero_of_not_mem, Ne.symm hc]

theorem even_count_written (parts : List Part) : Even ((written parts).count '@') := by
  induction parts with
  | nil => decide
  | cons part parts ih =>
    rw [written_cons, List.count_append]
    exact (even_count_part part).add ih

/-- Whether a text has parts, to its end or to an `@` that is left open. -/
def HasParts (t : Text) : Prop :=
  (∃ parts, t = written parts) ∨ ∃ parts rest, '@' ∉ rest ∧ t = written parts ++ '@' :: rest

theorem HasParts.cons {t : Text} (h : HasParts t) (part : Part) : HasParts (part.written ++ t) := by
  rcases h with ⟨parts, rfl⟩ | ⟨parts, rest, hrest, rfl⟩
  · exact .inl ⟨part :: parts, (written_cons part parts).symm⟩
  · exact .inr ⟨part :: parts, rest, hrest, by rw [written_cons, List.append_assoc]⟩

/-- Every text has parts. `open?` is the name that is being read. -/
theorem hasParts_of_open (open? : Option Text) (hopen : ∀ name ∈ open?, '@' ∉ name) (t : Text) :
    HasParts (open?.elim t fun name => '@' :: (name ++ t)) := by
  induction t generalizing open? with
  | nil =>
    cases open? with
    | none => exact .inl ⟨[], rfl⟩
    | some name => exact .inr ⟨[], name, hopen name rfl, by simp [written]⟩
  | cons c t ih =>
    have hrest : HasParts t := ih none nofun
    cases open? with
    | none =>
      by_cases hc : c = '@'
      · subst hc
        exact ih (some []) (by simp)
      · simpa [Part.written, hc] using hrest.cons (.literal [c])
    | some name =>
      have hname := hopen name rfl
      by_cases hc : c = '@'
      · subst hc
        by_cases hblank : name = []
        · simpa [Part.written, hblank] using hrest.cons (.literal ['@'])
        · simpa [Part.written] using hrest.cons (.token name ⟨hblank, hname⟩)
      · simpa using ih (some (name ++ [c])) (by simpa [Ne.symm hc] using hname)

theorem hasParts (t : Text) : HasParts t := hasParts_of_open none nofun t

/-- A text with an odd number of `@` leaves the last one open. -/
theorem exists_open {t : Text} (h : Odd (t.count '@')) :
    ∃ parts rest, '@' ∉ rest ∧ t = written parts ++ '@' :: rest := by
  rcases hasParts t with ⟨parts, rfl⟩ | hopen
  · exact absurd (even_count_written parts) (Nat.not_even_iff_odd.mpr h)
  · exact hopen

/-- The texts that parts come to from left to right, each part in the state that the ones before it leave. -/
inductive Expands (expand : Expander) : List Part → ExpansionState → List Text → ExpansionState → Prop
  | nil (state : ExpansionState) : Expands expand [] state [] state
  | literal {parts : List Part} {state state' : ExpansionState} {texts : List Text} (t : Text)
    (h : Expands expand parts state texts state') : Expands expand (.literal t :: parts) state (t :: texts) state'
  | token {parts : List Part} {state middle state' : ExpansionState} {name t : Text} {texts : List Text}
    (hname : name ≠ [] ∧ '@' ∉ name) (hexpand : expand name state = (.ok t, middle))
    (h : Expands expand parts middle texts state') :
    Expands expand (.token name hname :: parts) state (t :: texts) state'

/-- The first name that fails, after parts that do not. -/
inductive Fails (expand : Expander) : List Part → ExpansionState → Failure → ExpansionState → Prop
  | intro {before after : List Part} {state middle state' : ExpansionState} {texts : List Text} {name : Text}
    {failure : Failure} (hbefore : Expands expand before state texts middle) (hname : name ≠ [] ∧ '@' ∉ name)
    (hexpand : expand name middle = (.error failure, state')) :
    Fails expand (before ++ .token name hname :: after) state failure state'

section expands
variable {expand : Expander} {parts : List Part} {state state' : ExpansionState} {texts : List Text}

/-- Parts expand, or one of them is the first to fail. -/
theorem expands_or_fails (expand : Expander) (parts : List Part) (state : ExpansionState) :
    (∃ texts state', Expands expand parts state texts state') ∨
      ∃ failure state', Fails expand parts state failure state' := by
  induction parts generalizing state with
  | nil => exact .inl ⟨[], state, .nil state⟩
  | cons part parts ih =>
    cases part with
    | literal t =>
      rcases ih state with ⟨texts, state', h⟩ | ⟨failure, state', ⟨hbefore, hname, hexpand⟩⟩
      · exact .inl ⟨t :: texts, state', h.literal t⟩
      · exact .inr ⟨failure, state', .intro (hbefore.literal t) hname hexpand⟩
    | token name hname =>
      rcases hresult : expand name state with ⟨failure | t, middle⟩
      · exact .inr ⟨failure, middle, .intro (.nil state) hname hresult⟩
      · rcases ih middle with ⟨texts, state', h⟩ | ⟨failure, state', ⟨hbefore, hname', hexpand⟩⟩
        · exact .inl ⟨t :: texts, state', h.token hname hresult⟩
        · exact .inr ⟨failure, state', .intro (hbefore.token hname hresult) hname' hexpand⟩

theorem expandPieces_literals (t : Text) (rest : List Piece) (state : ExpansionState) :
    expandPieces expand ((t.map fun c => .literal [c]) ++ rest) state = ahead t (expandPieces expand rest state) := by
  induction t with
  | nil => rw [ahead_nil, List.map_nil, List.nil_append]
  | cons c t ih => rw [List.map_cons, List.cons_append, expandPieces_literal, ih, ahead_ahead, List.singleton_append]

/-- Parts that expand put what they come to in front of what is behind them. -/
theorem Expands.expandPieces_append (h : Expands expand parts state texts state') (rest : List Piece) :
    expandPieces expand (parts.flatMap Part.pieces ++ rest) state =
      ahead texts.flatten (expandPieces expand rest state') := by
  induction h with
  | nil state => rw [List.flatten_nil, ahead_nil, List.flatMap_nil, List.nil_append]
  | literal t h ih =>
    rw [List.flatMap_cons, List.append_assoc, Part.pieces, expandPieces_literals, ih, ahead_ahead, List.flatten_cons]
  | token hname hexpand h ih =>
    rw [List.flatMap_cons, List.append_assoc, Part.pieces, List.singleton_append, expandPieces_token_ok hexpand, ih,
      ahead_ahead, List.flatten_cons]

theorem Expands.expandPieces (h : Expands expand parts state texts state') :
    expandPieces expand (pieces none (written parts)) state = (.ok texts.flatten, state') := by
  have hparts := pieces_written parts []
  rw [List.append_nil] at hparts
  rw [hparts, h.expandPieces_append]
  change ahead texts.flatten (.ok [], state') = _
  rw [ahead_ok, List.append_nil]

/-- What is behind the first name that fails does not matter. -/
theorem Fails.expandPieces {failure : Failure} (h : Fails expand parts state failure state') (rest : Text) :
    Variable.expandPieces expand (pieces none (written parts ++ rest)) state = (.error failure, state') := by
  obtain ⟨hbefore, hname, hexpand⟩ := h
  rw [pieces_written, List.flatMap_append, List.append_assoc, hbefore.expandPieces_append, List.flatMap_cons,
    Part.pieces, List.singleton_append, List.cons_append, expandPieces_token_error hexpand, ahead_error]

theorem Fails.append {failure : Failure} (h : Fails expand parts state failure state') (after : List Part) :
    Fails expand (parts ++ after) state failure state' := by
  obtain ⟨hbefore, hname, hexpand⟩ := h
  rw [List.append_assoc]
  exact .intro hbefore hname hexpand

theorem Expands.steps (hexpand : ∀ name state, ExpansionState.Steps state (expand name state).2)
    (h : Expands expand parts state texts state') : ExpansionState.Steps state state' := by
  induction h with
  | nil state => exact .refl
  | literal t h ih => exact ih
  | @token parts state middle state' name t texts hname hresult h ih =>
    have hname := hexpand name state
    rw [hresult] at hname
    exact hname.trans ih

/-- A run over more parts. -/
theorem Expands.append {parts' : List Part} {last : ExpansionState} {texts' : List Text}
    (h : Expands expand parts state texts state') (h' : Expands expand parts' state' texts' last) :
    Expands expand (parts ++ parts') state (texts ++ texts') last := by
  induction h with
  | nil state => exact h'
  | literal t h ih => exact (ih h').literal t
  | token hname hexpand h ih => exact (ih h').token hname hexpand

end expands

/-! A variable that is asked for once. -/

theorem askUser_settled {v : Variable} (h : v.ask = false) (host : Host) :
    askUser v host = (.ok (v.value.getD [], v), host) := by
  simp [askUser, h]

/-- A variable that is kept under its name, and is not asked for any more. -/
structure Settled (name : Text) (v : Variable) (store : Store) : Prop where
  wellFormed : store.WellFormed
  kept : store.findVariable? name = some v
  kind : v.kind = .inputOnce
  quiet : v.ask = false

section settled
variable {name : Text} {v : Variable} {store : Store} {state state' : ExpansionState}

theorem name_of_find (h : store.WellFormed) (hv : store.findVariable? name = some v) : v.name = name := by
  obtain ⟨before, after, htable, -⟩ := List.lookup_eq_some_iff.mp hv
  exact (h.named (name, v) (by simp [htable])).symm

theorem findVariable?_setVariable (store : Store) (v : Variable) (name : Text) :
    (store.setVariable v).findVariable? name = if name = v.name then some v else store.findVariable? name :=
  Table.find?_insert store.vars v.name name v

theorem Settled.keep (state : ExpansionState) (hstore : state.shelf.store.WellFormed) (hkind : v.kind = .inputOnce)
    (hquiet : v.ask = false) : Settled v.name v (keep v state).shelf.store := by
  have hcached : v.kind.isCached = true := by rw [hkind]; rfl
  rw [Variable.keep, if_pos hcached]
  dsimp only
  rw [Shelf.setVariable, Shelf.update_store]
  exact ⟨hstore.setVariable v, by rw [findVariable?_setVariable, if_pos rfl], hkind, hquiet⟩

/-- No expansion changes a variable that is settled. -/
theorem Settled.step (h : Settled name v state.shelf.store) (hstep : ExpansionState.Step state state') :
    Settled name v state'.shelf.store := by
  cases hstep with
  | ask w => exact h
  | command w cwd =>
    rw [commandText_store]
    exact h
  | @answer w w' other t host _ hw hkind hask =>
    dsimp only
    rw [Shelf.setVariable, Shelf.update_store]
    refine ⟨h.wellFormed.setVariable w', ?_, h.kind, h.quiet⟩
    have hname : w'.name = other := (askUser_ok hask).2.trans (name_of_find h.wellFormed hw)
    rw [findVariable?_setVariable, hname]
    split
    · next hsame =>
      subst hsame
      cases hw.symm.trans h.kept
      rw [askUser_settled h.quiet] at hask
      cases hask
      rfl
    · exact h.kept

theorem Settled.steps (h : Settled name v state.shelf.store) (hsteps : ExpansionState.Steps state state') :
    Settled name v state'.shelf.store := by
  induction hsteps with
  | refl => exact h
  | tail _ hstep ih => exact ih.step hstep

/-- What is settled is used as it is, and nobody is asked. -/
theorem Settled.expandNamed (h : Settled name v state.shelf.store) (expand : Expander) (context : ExpansionContext) :
    expandNamed expand context name state = (.ok (prefixLines v (v.value.getD [])), Variable.keep v state) := by
  have hnamed : named state name = v := by rw [named, h.kept, Option.getD_some]
  have hcached : v.kind.isCached = true := by rw [h.kind]; rfl
  rw [Variable.expandNamed, hnamed, expandWith_cached hcached, askUser_settled h.quiet]

end settled

theorem expandNamed_template {expand : Expander} {context : ExpansionContext} {name text : Text}
    {state : ExpansionState} (hkind : (named state name).kind = .template)
    (htext : templateText context state.shelf.files (named state name) = .ok text) :
    expandNamed expand context name state =
      ((expandPieces expand (pieces none text) state).1.map (prefixLines (named state name)),
        (expandPieces expand (pieces none text) state).2) := by
  rw [expandNamed, expandWith_template hkind htext]
  rcases expandPieces expand (pieces none text) state with ⟨failure | t, state'⟩
  · rfl
  · have huncached : ¬ (named state name).kind.isCached := by rw [hkind]; decide
    dsimp only [Except.map]
    rw [keep, if_neg huncached]

end Variable
end ExEditor
