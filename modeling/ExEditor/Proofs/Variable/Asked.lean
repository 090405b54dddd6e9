import ExEditor.Proofs.Carried
import ExEditor.Proofs.Variable.Recursion

/-! Variables whose answers are kept, over a run of expansions. What a run does is what the references do that come of
it, one after the other, those in templates included. One that asks for a variable changes that variable alone, and no
other asks for it, so that what the user is offered and what a reference comes to follow from the references before. -/
namespace ExEditor

/-- A reference to a variable: an expansion of it, with what that may look at. -/
structure Reference extends Expansion where
  context : ExpansionContext

namespace Reference
open Variable

/-- The variable that is meant. -/
def target (r : Reference) : Variable := named r.state r.name

/-- What the reference comes to. -/
def result (r : Reference) : Except Failure Text × ExpansionState := r.toExpansion.result r.context

/-- The state that the reference leaves. A template itself does nothing, and leaves all to what it refers to. -/
def left (r : Reference) : ExpansionState := if r.target.kind = .template then r.state else r.result.2

/-- The references that the reference makes itself. -/
def starts (r : Reference) : List Reference :=
  (r.toExpansion.starts r.context).map fun e => { e with context := r.context }

/-- All references that come of a reference, in the order in which they are made. -/
def trace : Nat → Reference → List Reference
  | 0, _ => []
  | n + 1, r => r :: r.starts.flatMap (trace n)

end Reference

namespace Variable

/-- Expand variables by their names, one after the other. -/
def expandAll (calls : List (ExpansionContext × Text)) (state : ExpansionState) : ExpansionState :=
  calls.foldl (fun state call => (expand call.1 call.2 state).2) state

/-- All references that come of expanding variables by their names. -/
def references (n : Nat) : List (ExpansionContext × Text) → ExpansionState → List Reference
  | [], _ => []
  | (context, name) :: rest, state =>
    Reference.trace n ⟨⟨[], name, state⟩, context⟩ ++ references n rest (expand context name state).2

/-- The names that a template expands are expanded each in the state that the one before it leaves. -/
theorem tokenCalls_carried (expand : Expander) (parts : List Piece) (state : ExpansionState) :
    Carried Prod.snd (fun c : Text × ExpansionState => (expand c.1 c.2).2) state (tokenCalls expand parts state)
      (expandPieces expand parts state).2 := by
  induction parts generalizing state with
  | nil => rfl
  | cons piece rest ih =>
    cases piece with
    | literal t => exact ih state
    | unterminated t => rfl
    | token name =>
      rw [tokenCalls]
      rcases hresult : expand name state with ⟨failure | t, state'⟩
      · rw [expandPieces_token_error hresult]
        exact ⟨rfl, congrArg Prod.snd hresult⟩
      · rw [expandPieces_token_ok hresult]
        refine ⟨rfl, ?_⟩
        dsimp only
        rw [hresult]
        exact ih state'

theorem innerCalls_carried (expand : Expander) (context : ExpansionContext) {name : Text} {state : ExpansionState}
    (hkind : (named state name).kind = .template) :
    Carried Prod.snd (fun c : Text × ExpansionState => (expand c.1 c.2).2) state
      (innerCalls expand context (named state name) state) (expandNamed expand context name state).2 := by
  rcases ht : templateText context state.shelf.files (named state name) with failure | t
  · rw [expandNamed, expandWith_unreadable hkind ht, innerCalls, hkind, ht]
    rfl
  · rw [innerCalls_eq_tokenCalls hkind ht, expandNamed_template hkind ht]
    exact tokenCalls_carried _ _ _

theorem innerCalls_eq_nil (expand : Expander) (context : ExpansionContext) {v : Variable} (hkind : v.kind ≠ .template)
    (state : ExpansionState) : innerCalls expand context v state = [] :=
  List.eq_nil_iff_forall_not_mem.mpr fun _ hc => hkind (innerCalls_template hc).1

end Variable

namespace Reference
open Variable
variable {r : Reference}

theorem result_eq (h : r.name ∉ r.visiting) :
    r.result = expandNamed (r.inner r.context) r.context r.name r.state := Expansion.result_eq h

theorem result_visiting (h : r.name ∈ r.visiting) :
    r.result = (.error (.recursion (.templateCycle r.name r.visiting)), r.state) := expandAmid_visiting h

/-- What a reference makes is made one after the other, from what it has left itself to what it comes to. -/
theorem starts_carried (r : Reference) : Carried (·.state) (fun r => r.result.2) r.left r.starts r.result.2 := by
  by_cases hname : r.name ∈ r.visiting
  · have hleft : r.left = r.state := by rw [left, result_visiting hname, ite_self]
    rw [hleft, starts, Expansion.starts, if_pos hname, result_visiting hname]
    rfl
  rw [starts, Expansion.starts, if_neg hname]
  by_cases hkind : r.target.kind = .template
  · rw [left, if_pos hkind, result_eq hname]
    refine Carried.map (Carried.map ?_)
    exact innerCalls_carried (r.inner r.context) r.context hkind
  · have hnone := innerCalls_eq_nil (r.inner r.context) r.context hkind r.state
    rw [target] at hnone
    rw [left, if_neg hkind, hnone]
    rfl

theorem guarded_start {names : List Text} {d : Nat} (h : Expansion.Guarded names d r.toExpansion) {r' : Reference}
    (hstart : r' ∈ r.starts) : Expansion.Guarded names (d + 1) r'.toExpansion := by
  obtain ⟨e, he, rfl⟩ := List.mem_map.mp hstart
  exact h.start he

/-- Every reference finds the state that the one before it has left. -/
theorem trace_carried {names : List Text} {d n : Nat} (h : Expansion.Guarded names d r.toExpansion)
    (hn : names.length < d + n) : Carried (·.state) left r.state (trace n r) r.result.2 := by
  induction n generalizing d r with
  | zero =>
    have hdepth := h.depth_le
    omega
  | succ n ih => exact ⟨rfl, r.starts_carried.flatMap fun r' hr => ih (guarded_start h hr) (by omega)⟩

/-- No reference is left out. -/
theorem trace_closed {names : List Text} {d n : Nat} (h : Expansion.Guarded names d r.toExpansion)
    (hn : names.length < d + n) : ∀ r' ∈ trace n r, ∀ r'' ∈ r'.starts, r'' ∈ trace n r := by
  induction n generalizing d r with
  | zero => exact fun r' hr => absurd hr List.not_mem_nil
  | succ n ih =>
    intro r' hr r'' hstart
    refine List.mem_cons_of_mem _ (List.mem_flatMap.mpr ?_)
    rcases List.mem_cons.mp hr with rfl | hr
    · -- There is room below for what a reference makes, since it is one deeper itself.
      have hdepth := (guarded_start h hstart).depth_le
      obtain ⟨n, rfl⟩ : ∃ k, n = k + 1 := ⟨n - 1, by omega⟩
      exact ⟨r'', hstart, List.mem_cons_self⟩
    · obtain ⟨r₁, hr₁, hr⟩ := List.mem_flatMap.mp hr
      exact ⟨r₁, hr₁, ih (guarded_start h hr₁) (by omega) r' hr r'' hstart⟩

end Reference

namespace ExpansionState
open Variable
variable {state state' : ExpansionState}

/-- An expansion keeps the kinds of all variables. -/
theorem Step.kinds (h : state.shelf.store.WellFormed) (hstep : Step state state') :
    state'.shelf.store.WellFormed ∧ ∀ name, (state'.shelf.store.findVariable? name).map (·.kind) =
      (state.shelf.store.findVariable? name).map (·.kind) := by
  cases hstep with
  | ask v => exact ⟨h, fun _ => rfl⟩
  | command v cwd =>
    rw [commandText_store]
    exact ⟨h, fun _ => rfl⟩
  | @answer v v' name t host _ hv hkind hask =>
    obtain ⟨hkept, hname⟩ := askUser_ok hask
    dsimp only
    rw [Shelf.setVariable, Shelf.update_store]
    refine ⟨h.setVariable v', fun other => ?_⟩
    rw [findVariable?_setVariable, hname.trans (name_of_find h hv)]
    split
    · next hsame => rw [hsame, hv, Option.map_some, Option.map_some, hkept]
    · rfl

theorem Steps.kinds (h : state.shelf.store.WellFormed) (hsteps : Steps state state') :
    state'.shelf.store.WellFormed ∧ ∀ name, (state'.shelf.store.findVariable? name).map (·.kind) =
      (state.shelf.store.findVariable? name).map (·.kind) := by
  induction hsteps with
  | refl => exact ⟨h, fun _ => rfl⟩
  | tail _ hstep ih =>
    obtain ⟨hformed, hkinds⟩ := hstep.kinds ih.1
    exact ⟨hformed, fun name => (hkinds name).trans (ih.2 name)⟩

end ExpansionState

namespace Reference
open Variable ExpansionState
variable {r r' : Reference}

/-- A reference amid templates, in a store that keeps every variable under its name. -/
structure Sound (r : Reference) : Prop where
  wellFormed : r.state.shelf.store.WellFormed
  visiting : ∀ name ∈ r.visiting, (r.state.shelf.store.findVariable? name).map (·.kind) = some .template

theorem Sound.start (h : r.Sound) (hstart : r' ∈ r.starts) : r'.Sound := by
  obtain ⟨e, he, rfl⟩ := List.mem_map.mp hstart
  obtain ⟨hname, hvisiting, hc⟩ := Expansion.starts_eq he
  have hkind := (innerCalls_template hc).1
  obtain ⟨hformed, hkinds⟩ := (innerCalls_steps (expandAmid_steps r.context _) hc).kinds h.wellFormed
  refine ⟨hformed, fun name hmem => (hkinds name).trans ?_⟩
  rw [hvisiting, List.mem_append, List.mem_singleton] at hmem
  rcases hmem with hmem | rfl
  · exact h.visiting name hmem
  · rw [named_template hkind, Option.map_some, hkind]

theorem Sound.trace (h : r.Sound) (n : Nat) : ∀ r' ∈ trace n r, r'.Sound := by
  induction n generalizing r with
  | zero => exact fun _ hr => absurd hr List.not_mem_nil
  | succ n ih =>
    intro r' hr
    rcases List.mem_cons.mp hr with rfl | hr
    · exact h
    · obtain ⟨r'', hstart, hr⟩ := List.mem_flatMap.mp hr
      exact ih (h.start hstart) r' hr

end Reference

namespace Variable
open ExpansionState

theorem guarded_top (context : ExpansionContext) (name : Text) (state : ExpansionState) :
    Expansion.Guarded state.templates 0 (Reference.mk ⟨[], name, state⟩ context).toExpansion :=
  ⟨List.nodup_nil, List.nil_subset _, rfl, List.Subset.refl _⟩

theorem expand_templates (context : ExpansionContext) (name : Text) (state : ExpansionState) :
    (expand context name state).2.templates.length ≤ state.templates.length := by
  rw [expand_eq_amid]
  exact (expandAmid_steps context [] name state).templates.length_le

/-- What a run of expansions does is what its references do, one after the other. -/
theorem references_carried {n : Nat} {state : ExpansionState} (hn : state.templates.length < n)
    (calls : List (ExpansionContext × Text)) :
    Carried (·.state) Reference.left state (references n calls state) (expandAll calls state) := by
  induction calls generalizing state with
  | nil => rfl
  | cons call rest ih =>
    obtain ⟨context, name⟩ := call
    have htrace := Reference.trace_carried (guarded_top context name state) (by omega : _ < 0 + n)
    have hsame : (Reference.mk ⟨[], name, state⟩ context).result = expand context name state :=
      (expand_eq_amid context name state).symm
    rw [hsame] at htrace
    exact htrace.append (ih (Nat.lt_of_le_of_lt (expand_templates context name state) hn))

theorem references_closed {n : Nat} {state : ExpansionState} (hn : state.templates.length < n)
    (calls : List (ExpansionContext × Text)) :
    ∀ r ∈ references n calls state, ∀ r' ∈ r.starts, r' ∈ references n calls state := by
  induction calls generalizing state with
  | nil => exact fun _ hr => absurd hr List.not_mem_nil
  | cons call rest ih =>
    obtain ⟨context, name⟩ := call
    intro r hr r' hstart
    refine List.mem_append.mpr ((List.mem_append.mp hr).imp (fun hr => ?_) fun hr => ?_)
    · exact Reference.trace_closed (guarded_top context name state) (by omega : _ < 0 + n) r hr r' hstart
    · exact ih (Nat.lt_of_le_of_lt (expand_templates context name state) hn) r hr r' hstart

theorem references_sound {state : ExpansionState} (h : state.shelf.store.WellFormed)
    (calls : List (ExpansionContext × Text)) (n : Nat) : ∀ r ∈ references n calls state, r.Sound := by
  induction calls generalizing state with
  | nil => exact fun _ hr => absurd hr List.not_mem_nil
  | cons call rest ih =>
    intro r hr
    rcases List.mem_append.mp hr with hr | hr
    · exact Reference.Sound.trace ⟨h, fun _ hname => absurd hname List.not_mem_nil⟩ n r hr
    · refine ih ?_ r hr
      rw [expand_eq_amid]
      exact ((expandAmid_steps call.1 [] call.2 state).kinds h).1

end Variable

namespace Host

/-- What a prompt offers that is for a name. -/
def offer? (name : Text) : Event → Option Text
  | .prompt t default => if t = name then some default else none
  | _ => none

/-- What prompts for a name have offered, the latest first. -/
def offers (h : Host) (name : Text) : List Text := h.events.filterMap (offer? name)

theorem offers_note {e : Event} {name : Text} (h : offer? name e = none) (host : Host) :
    (host.note e).offers name = host.offers name := List.filterMap_cons_none h

theorem offers_prompt {name other : Text} (h : other ≠ name) (host : Host) (default : Text) :
    (host.input other default).2.offers name = host.offers name := by
  have hother : offer? name (.prompt other default) = none := if_neg h
  have hnote := offers_note hother host
  unfold input
  dsimp only
  split <;> exact hnote

theorem offers_run (host : Host) (files : FileTree) (command directory : Text) (file : Option Text) (name : Text) :
    (host.run files command directory file).2.1.offers name = host.offers name := by
  have hanswer : (host.note (.run command directory file)).answer.2.offers name = host.offers name := by
    have hnote : (host.note (.run command directory file)).offers name = host.offers name := offers_note rfl host
    unfold answer
    split <;> exact hnote
  unfold run
  rcases hprocess : (host.note (.run command directory file)).answer with ⟨result | _, host'⟩ <;>
    rw [hprocess] at hanswer <;> exact hanswer

theorem input_events (h : Host) (prompt default : Text) :
    (h.input prompt default).2.events = .prompt prompt default :: h.events := by
  unfold input
  dsimp only
  split <;> rfl

end Host

namespace Variable

/-- What an answer makes of a variable whose answers are kept. -/
def answered (v : Variable) (t : Text) : Variable :=
  { v with value := some t, ask := !(v.kind == .inputOnce && t ≠ []) }

theorem askUser_none {v : Variable} (hask : v.ask) {host host' : Host}
    (h : host.input v.name (v.value.getD []) = (none, host')) : askUser v host = (.error .cancelled, host') := by
  rw [askUser, if_neg (by simp [hask]), h]

theorem askUser_some {v : Variable} (hask : v.ask) (hkind : v.kind.isCached) {host host' : Host} {t : Text}
    (h : host.input v.name (v.value.getD []) = (some t, host')) : askUser v host = (.ok (t, v.answered t), host') := by
  rw [askUser, if_neg (by simp [hask]), h]
  simp [hkind, answered]

theorem keep_answered {v : Variable} (hkind : v.kind.isCached) (t : Text) (state : ExpansionState) :
    keep (v.answered t) state = { state with shelf := state.shelf.setVariable (v.answered t) } := if_pos hkind

theorem askUser_offers {v : Variable} {name : Text} (h : name ≠ v.name) (host : Host) :
    (askUser v host).2.offers name = host.offers name := by
  have hprompt := Host.offers_prompt h.symm host (v.value.getD [])
  unfold askUser
  split
  · rfl
  · rcases hinput : host.input v.name (v.value.getD []) with ⟨_ | t, host'⟩ <;> rw [hinput] at hprompt <;> exact hprompt

theorem commandText_offers (v : Variable) (cwd name : Text) (state : ExpansionState) :
    (commandText v cwd state).2.host.offers name = state.host.offers name := by
  unfold commandText
  split
  · rfl
  · next command _ =>
    have hrun := state.host.offers_run state.shelf.files command cwd none name
    rcases hresult : state.host.run state.shelf.files command cwd none with ⟨output | reason, host, files⟩ <;>
      rw [hresult] at hrun
    · dsimp only
      split <;> exact hrun
    · exact hrun

/-- A variable whose answers are not kept, and that is no template, leaves the store as it is and asks for nothing
but itself. -/
theorem expandWith_uncached {v : Variable} (hkind : ¬ v.kind.isCached) (htemplate : v.kind ≠ .template)
    (expand : Expander) (context : ExpansionContext) (state : ExpansionState) :
    (expandWith expand context v state).2.shelf.store = state.shelf.store ∧
      ∀ name ≠ v.name, (expandWith expand context v state).2.host.offers name = state.host.offers name := by
  unfold expandWith
  cases hk : v.kind with
  | builtin | environment | fixed => exact ⟨rfl, fun _ _ => rfl⟩
  | input => exact ⟨rfl, fun name hname => askUser_offers hname state.host⟩
  | process => exact ⟨commandText_store v context.cwd state, fun name _ => commandText_offers v context.cwd name state⟩
  | inputOnce | inputSave => exact absurd (by rw [hk]; rfl) hkind
  | template => exact absurd hk htemplate

theorem named_name {state : ExpansionState} (h : state.shelf.store.WellFormed) (name : Text) :
    (named state name).name = name := by
  unfold named
  cases hv : state.shelf.store.findVariable? name with
  | some v => exact name_of_find h hv
  | none => rfl

end Variable

namespace Reference
open Variable ExpansionState
variable {r r' : Reference} {v : Variable}

/-- A reference to a variable asks for it. It offers the text that the variable keeps, and fails if that is cancelled or
comes to the answer. -/
structure Asks (r : Reference) (v : Variable) (answer : Option Text) : Prop where
  found : r.state.shelf.store.findVariable? r.name = some v
  input : r.state.host.input r.name (v.value.getD []) = (answer, r.left.host)
  prompt : r.left.host.events = .prompt r.name (v.value.getD []) :: r.state.host.events
  result : r.result.1 = match answer with
    | none => .error .cancelled
    | some t => .ok (prefixLines v t)

/-- A reference comes to a text, and nobody is asked. -/
structure Quiet (r : Reference) (t : Text) : Prop where
  host : r.left.host = r.state.host
  result : r.result.1 = .ok t

theorem target_of_find (hv : r.state.shelf.store.findVariable? r.name = some v) : r.target = v := by
  rw [target, named, hv, Option.getD_some]

section cached
variable (hs : r.Sound) (hv : r.state.shelf.store.findVariable? r.name = some v) (hkind : v.kind.isCached)
include hs hv hkind

theorem not_visiting : r.name ∉ r.visiting := fun hmem => by
  have hvisiting := hs.visiting r.name hmem
  rw [hv, Option.map_some, Option.some.injEq] at hvisiting
  rw [hvisiting] at hkind
  cases hkind

/-- What is left by a reference to a variable whose answers are kept. -/
theorem result_cached : r.left = r.result.2 ∧ r.result =
    match askUser v r.state.host with
    | (.error failure, host) => (.error failure, { r.state with host })
    | (.ok (t, v'), host) => (.ok (prefixLines v' t), keep v' { r.state with host }) := by
  have hnamed : named r.state r.name = v := target_of_find hv
  constructor
  · rw [left, target_of_find hv, if_neg fun h => by rw [h] at hkind; cases hkind]
  · rw [result_eq (not_visiting hs hv hkind), expandNamed, hnamed, expandWith_cached hkind]
    rcases askUser v r.state.host with ⟨failure | ⟨t, v'⟩, host⟩ <;> rfl

/-- The state that such a reference leaves, with an answer or without one. -/
theorem asks_left (hask : v.ask) : ∃ answer, r.Asks v answer ∧
    r.left.shelf.store =
      match answer with
      | none => r.state.shelf.store
      | some t => r.state.shelf.store.setVariable (v.answered t) := by
  obtain ⟨hleft, hresult⟩ := result_cached hs hv hkind
  have hname : v.name = r.name := name_of_find hs.wellFormed hv
  have hevents := r.state.host.input_events r.name (v.value.getD [])
  rcases hinput : r.state.host.input r.name (v.value.getD []) with ⟨_ | t, host⟩ <;> rw [hinput] at hevents
  · rw [askUser_none hask (hname ▸ hinput)] at hresult
    rw [hresult] at hleft
    exact ⟨none, ⟨hv, by rw [hleft, hinput], by rw [hleft]; exact hevents, by rw [hresult]⟩, by rw [hleft]⟩
  · rw [askUser_some hask hkind (hname ▸ hinput)] at hresult
    dsimp only at hresult
    rw [keep_answered hkind] at hresult
    rw [hresult] at hleft
    refine ⟨some t, ⟨hv, by rw [hleft, hinput], by rw [hleft]; exact hevents, by rw [hresult]; rfl⟩, ?_⟩
    rw [hleft]
    exact Shelf.update_store _ _

theorem quiet_left (hask : v.ask = false) : r.Quiet (prefixLines v (v.value.getD [])) ∧
    r.left.shelf.store = r.state.shelf.store.setVariable v := by
  obtain ⟨hleft, hresult⟩ := result_cached hs hv hkind
  rw [askUser_settled hask] at hresult
  dsimp only at hresult
  rw [keep, if_pos hkind] at hresult
  rw [hresult] at hleft
  refine ⟨⟨by rw [hleft], by rw [hresult]⟩, ?_⟩
  rw [hleft]
  exact Shelf.update_store _ _

theorem asks (hask : v.ask) : ∃ answer, r.Asks v answer ∧
    r.left.shelf.store.findVariable? r.name =
      some (match answer with
        | none => v
        | some t => v.answered t) := by
  obtain ⟨answer, hasks, hstore⟩ := asks_left hs hv hkind hask
  refine ⟨answer, hasks, ?_⟩
  rw [hstore]
  cases answer with
  | none => exact hv
  | some t =>
    have hname : v.name = r.name := name_of_find hs.wellFormed hv
    exact (findVariable?_setVariable _ _ _).trans (if_pos hname.symm)

theorem quiet (hask : v.ask = false) : r.Quiet (prefixLines v (v.value.getD [])) ∧
    r.left.shelf.store.findVariable? r.name = some v := by
  obtain ⟨hquiet, hstore⟩ := quiet_left hs hv hkind hask
  refine ⟨hquiet, ?_⟩
  rw [hstore, findVariable?_setVariable, if_pos (name_of_find hs.wellFormed hv).symm]

end cached

/-- Asking for a variable whose answers are not kept, and all else, leaves the store as it is. -/
theorem left_uncached (hs : r.Sound) (hkind : ¬ r.target.kind.isCached) :
    r.left.shelf.store = r.state.shelf.store ∧ ∀ name ≠ r.name, r.left.host.offers name = r.state.host.offers name := by
  by_cases hname : r.name ∈ r.visiting
  · rw [left, result_visiting hname, ite_self]
    exact ⟨rfl, fun _ _ => rfl⟩
  rw [left]
  split
  · exact ⟨rfl, fun _ _ => rfl⟩
  · next htemplate =>
    have hwith := expandWith_uncached hkind htemplate (r.inner r.context) r.context r.state
    have hsame : r.target.name = r.name := named_name hs.wellFormed r.name
    rw [hsame] at hwith
    rw [result_eq hname, expandNamed]
    rcases hresult : expandWith (r.inner r.context) r.context (named r.state r.name) r.state
      with ⟨failure | ⟨t, v⟩, state⟩ <;> rw [target, hresult] at hwith
    · exact hwith
    · have hkept := expandWith_kind hresult
      dsimp only
      rw [keep, if_neg (by rw [hkept]; exact hkind)]
      exact hwith

/-- No variable but the one referred to is changed, and that one only if its answers are kept. -/
theorem left_kept (hs : r.Sound) :
    (∀ name, (name = r.name → ¬ r.target.kind.isCached) →
      r.left.shelf.store.findVariable? name = r.state.shelf.store.findVariable? name) ∧
    { r.left.shelf.store with vars := [] } = { r.state.shelf.store with vars := [] } ∧
    ∀ name ≠ r.name, r.left.host.offers name = r.state.host.offers name := by
  by_cases hkind : r.target.kind.isCached
  · have hv : r.state.shelf.store.findVariable? r.name = some r.target := named_cached hkind
    have hsame : r.target.name = r.name := named_name hs.wellFormed r.name
    have hset (w : Variable) (hw : w.name = r.name) (name : Text) (h : name = r.name → ¬ r.target.kind.isCached) :
        (r.state.shelf.store.setVariable w).findVariable? name = r.state.shelf.store.findVariable? name := by
      rw [findVariable?_setVariable, hw, if_neg fun heq => h heq hkind]
    cases hask : r.target.ask with
    | false =>
      obtain ⟨hquiet, hstore⟩ := quiet_left hs hv hkind hask
      rw [hstore, hquiet.host]
      exact ⟨hset _ hsame, rfl, fun _ _ => rfl⟩
    | true =>
      obtain ⟨answer, hasks, hstore⟩ := asks_left hs hv hkind hask
      have hoffers (name : Text) (hname : name ≠ r.name) : r.left.host.offers name = r.state.host.offers name := by
        have hprompt := Host.offers_prompt hname.symm r.state.host (r.target.value.getD [])
        rwa [hasks.input] at hprompt
      rw [hstore]
      cases answer with
      | none => exact ⟨fun _ _ => rfl, rfl, hoffers⟩
      | some t => exact ⟨hset _ hsame, rfl, hoffers⟩
  · obtain ⟨hstore, hoffers⟩ := left_uncached hs hkind
    rw [hstore]
    exact ⟨fun _ _ => rfl, rfl, hoffers⟩

end Reference

namespace Variable
open ExpansionState

/-- A variable that is asked for until the answer is not empty: by each of some references in turn, each offering what
the one before it was answered, and then by none, which all come to that answer. -/
inductive AsksOnce : Variable → List Reference → Prop
  | nil (v : Variable) : AsksOnce v []
  | cancelled {v : Variable} {r : Reference} {rest : List Reference} (hask : r.Asks v none) (hrest : AsksOnce v rest) :
    AsksOnce v (r :: rest)
  | blank {v : Variable} {r : Reference} {rest : List Reference} (hask : r.Asks v (some []))
    (hrest : AsksOnce { v with value := some [] } rest) : AsksOnce v (r :: rest)
  | answered {v : Variable} {r : Reference} {rest : List Reference} {t : Text} (ht : t ≠ []) (hask : r.Asks v (some t))
    (hrest : ∀ r' ∈ rest, r'.Quiet (prefixLines v t)) : AsksOnce v (r :: rest)

/-- A variable that is asked for by each of some references, each offering what the one before it was answered. -/
inductive AsksAlways : Variable → List Reference → Prop
  | nil (v : Variable) : AsksAlways v []
  | cancelled {v : Variable} {r : Reference} {rest : List Reference} (hask : r.Asks v none)
    (hrest : AsksAlways v rest) : AsksAlways v (r :: rest)
  | answered {v : Variable} {r : Reference} {rest : List Reference} {t : Text} (hask : r.Asks v (some t))
    (hrest : AsksAlways { v with value := some t } rest) : AsksAlways v (r :: rest)

/-- What holds of a variable and the references to it, if it holds of the variable as one of them leaves it and of
those behind that one. -/
theorem of_references {name : Text} {P : Variable → List Reference → Prop} (hnil : ∀ v, P v [])
    (hcons : ∀ (r : Reference) rest v, r.Sound → r.name = name → r.state.shelf.store.findVariable? r.name = some v →
      (∀ w, r.left.shelf.store.findVariable? r.name = some w → P w rest) → P v (r :: rest))
    {start last : ExpansionState} {run : List Reference} (hrun : Carried (·.state) Reference.left start run last)
    (hsound : ∀ r ∈ run, r.Sound) {v : Variable} (hv : start.shelf.store.findVariable? name = some v) :
    P v (run.filter (·.name = name)) := by
  induction run generalizing start v with
  | nil => exact hnil v
  | cons r rest ih =>
    obtain ⟨rfl, hrest⟩ := hrun
    obtain ⟨hr, hothers⟩ := List.forall_mem_cons.mp hsound
    by_cases hname : r.name = name
    · rw [List.filter_cons_of_pos (by simpa using hname)]
      exact hcons r _ v hr hname (hname ▸ hv) fun w hw => ih hrest hothers (hname ▸ hw)
    · rw [List.filter_cons_of_neg (by simpa using hname)]
      exact ih hrest hothers (((Reference.left_kept hr).1 name fun h => absurd h.symm hname).trans hv)

section run
variable {start last : ExpansionState} {run : List Reference} {v : Variable} {name : Text}
  (hrun : Carried (·.state) Reference.left start run last) (hsound : ∀ r ∈ run, r.Sound)
  (hv : start.shelf.store.findVariable? name = some v)
include hrun hsound hv

theorem asksOnce (hkind : v.kind = .inputOnce) (hask : v.ask) : AsksOnce v (run.filter (·.name = name)) := by
  refine (of_references (P := fun v rest => v.kind = .inputOnce →
    (v.ask → AsksOnce v rest) ∧ (v.ask = false → ∀ r ∈ rest, r.Quiet (prefixLines v (v.value.getD []))))
    ?nil ?cons hrun hsound hv hkind).1 hask
  case nil => exact fun v _ => ⟨fun _ => .nil v, fun _ r hr => absurd hr List.not_mem_nil⟩
  case cons =>
    intro r rest v hr _ hv hrest hkind
    have hcached : v.kind.isCached := by rw [hkind]; rfl
    constructor
    · intro hask
      obtain ⟨answer, hasks, hleft⟩ := Reference.asks hr hv hcached hask
      cases answer with
      | none => exact .cancelled hasks ((hrest v hleft hkind).1 hask)
      | some t =>
        have hrest := hrest (v.answered t) hleft hkind
        by_cases ht : t = []
        · subst ht
          have hblank : v.answered [] = { v with value := some [] } := by simp [answered, hkind, hask]
          rw [hblank] at hrest
          exact .blank hasks (hrest.1 hask)
        · exact .answered ht hasks (hrest.2 (by simp [answered, hkind, ht]))
    · intro hask
      obtain ⟨hquiet, hleft⟩ := Reference.quiet hr hv hcached hask
      exact List.forall_mem_cons.mpr ⟨hquiet, (hrest v hleft hkind).2 hask⟩

theorem asksAlways (hkind : v.kind = .inputSave) (hask : v.ask) : AsksAlways v (run.filter (·.name = name)) := by
  refine of_references (P := fun v rest => v.kind = .inputSave → v.ask → AsksAlways v rest)
    (fun v _ _ => .nil v) ?cons hrun hsound hv hkind hask
  case cons =>
    intro r rest v hr _ hv hrest hkind hask
    have hcached : v.kind.isCached := by rw [hkind]; rfl
    obtain ⟨answer, hasks, hleft⟩ := Reference.asks hr hv hcached hask
    cases answer with
    | none => exact .cancelled hasks (hrest v hleft hkind hask)
    | some t =>
      have hrest := hrest (v.answered t) hleft hkind
      have hanswered : v.answered t = { v with value := some t } := by simp [answered, hkind, hask]
      rw [hanswered] at hrest
      exact .answered hasks (hrest hask)

end run

/-- What a run of references leaves of the store: the variables whose answers it keeps may be others, and all else is
what it was. -/
theorem store_kept {start last : ExpansionState} {run : List Reference}
    (hrun : Carried (·.state) Reference.left start run last) (hsound : ∀ r ∈ run, r.Sound) :
    (∀ name, (∀ r ∈ run, r.name = name → ¬ r.target.kind.isCached) →
      last.shelf.store.findVariable? name = start.shelf.store.findVariable? name) ∧
    { last.shelf.store with vars := [] } = { start.shelf.store with vars := [] } := by
  induction run generalizing start with
  | nil =>
    obtain rfl := hrun
    exact ⟨fun _ _ => rfl, rfl⟩
  | cons r rest ih =>
    obtain ⟨rfl, hrest⟩ := hrun
    obtain ⟨hr, hothers⟩ := List.forall_mem_cons.mp hsound
    obtain ⟨hfind, hstore, -⟩ := Reference.left_kept hr
    obtain ⟨hlast, hlaststore⟩ := ih hrest hothers
    refine ⟨fun name h => ?_, hlaststore.trans hstore⟩
    obtain ⟨hname, hnames⟩ := List.forall_mem_cons.mp h
    exact (hlast name hnames).trans (hfind name fun heq => hname heq.symm)

/-- Over a run of expansions, with all references that come of it in order, a variable that is asked for once is asked
for by each reference to it, until the answer is not empty, and by none afterwards; and one whose answers are saved is
asked for by each. Nothing else asks for them, and no other variable is changed or made. -/
theorem kept_answers {start : ExpansionState} (hstore : start.shelf.store.WellFormed)
    (calls : List (ExpansionContext × Text)) {n : Nat} (hn : start.templates.length < n) :
    let run := references n calls start
    let last := expandAll calls start
    (Carried (·.state) Reference.left start run last ∧ ∀ r ∈ run, ∀ r' ∈ r.starts, r' ∈ run) ∧
    (∀ name v, start.shelf.store.findVariable? name = some v → v.ask →
      (v.kind = .inputOnce → AsksOnce v (run.filter (·.name = name))) ∧
      (v.kind = .inputSave → AsksAlways v (run.filter (·.name = name)))) ∧
    (∀ r ∈ run, ∀ name ≠ r.name, r.left.host.offers name = r.state.host.offers name) ∧
    (∀ name, (∀ r ∈ run, r.name = name → ¬ r.target.kind.isCached) →
      last.shelf.store.findVariable? name = start.shelf.store.findVariable? name) ∧
    { last.shelf.store with vars := [] } = { start.shelf.store with vars := [] } := by
  intro run last
  have hrun := references_carried hn calls
  have hsound := references_sound hstore calls n
  obtain ⟨hvars, hothers⟩ := store_kept hrun hsound
  refine ⟨⟨hrun, references_closed hn calls⟩, fun name v hv hask => ⟨fun hkind => ?_, fun hkind => ?_⟩,
    fun r hr => (Reference.left_kept (hsound r hr)).2.2, hvars, hothers⟩
  · exact asksOnce hrun hsound hv hkind hask
  · exact asksAlways hrun hsound hv hkind hask

/-- A variable is asked for by itself and in a template: its first prompt is cancelled, the next is answered by nothing,
and the third settles it. The other one in the template is asked for each time. -/
theorem kept_answers_cancelled :
    let once : Variable := { name := "W", kind := .inputOnce, linePrefix := some ['>'] }
    let saved : Variable := { name := "S", kind := .inputSave }
    let both : Variable := { name := "T", kind := .template, value := some "/t" }
    let start : ExpansionState := {
      shelf := {
        store := ((Store.setVariable {} once).setVariable saved).setVariable both
        files := { entries := [(["t".toList], .file (.text "@W@ @S@"))] } }
      host := { inputs := [none, some [], some ['x'], some ['a']] } }
    let calls : List (ExpansionContext × Text) := [({}, "W"), ({}, "T"), ({}, "W"), ({}, "T")]
    let run := references 2 calls start
    start.shelf.store.WellFormed ∧ start.templates.length < 2 ∧
      run.map (·.name) = ["W", "T", "W", "S", "W", "T", "W", "S"] ∧
      AsksOnce once (run.filter (·.name = "W")) ∧ AsksAlways saved (run.filter (·.name = "S")) ∧
      (expandAll calls start).host.offers "W" = [[], [], []] ∧
      (expandAll calls start).host.offers "S" = [['x'], []] ∧
      (expandAll calls start).shelf.store.findVariable? "W" = some { once with value := some ['a'], ask := false } := by
  intro once saved both start calls run
  have hstore : start.shelf.store.WellFormed :=
    ((Store.WellFormed.empty.setVariable once).setVariable saved).setVariable both
  have htemplates : start.templates.length < 2 := by decide
  obtain ⟨-, hasks, -⟩ := kept_answers hstore calls htemplates
  exact ⟨hstore, htemplates, by decide +kernel, (hasks "W" once (by decide +kernel) rfl).1 rfl,
    (hasks "S" saved (by decide +kernel) rfl).2 rfl, by decide +kernel, by decide +kernel, by decide +kernel⟩

end Variable
end ExEditor
