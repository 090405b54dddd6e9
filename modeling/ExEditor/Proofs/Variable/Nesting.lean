import ExEditor.Proofs.Store.Shelf
import ExEditor.Variable.Expand
import Mathlib.Logic.Relation

/-! Expansions inside expansions. An expansion asks, keeps what was answered and runs commands, and makes no template,
so that there are fewer templates left to expand the deeper it nests. The bound that expansions are given therefore
stays out of play, and they are what unbounded recursion makes of them. -/
namespace ExEditor

theorem Table.filter_insert_sublist {α : Type} {p : Text × α → Bool} {name : Text} {value : α}
    (h : p (name, value) = false) (table : Table α) :
    ((table.insert name value).filter p).Sublist (table.filter p) := by
  induction table with
  | nil => simp [Table.insert, h]
  | cons entry rest ih =>
    obtain ⟨other, v⟩ := entry
    unfold Table.insert
    split
    · rw [List.filter_cons_of_neg (by simp [h])]
      exact (List.sublist_cons_self _ _).filter p
    split
    · rw [List.filter_cons_of_neg (by simp [h])]
    · rw [List.filter_cons, List.filter_cons]
      split
      · exact ih.cons_cons _
      · exact ih

namespace Variable

/-- What asking for a variable leaves of it. -/
theorem askUser_ok {v v' : Variable} {host host' : Host} {t : Text} (h : askUser v host = (.ok (t, v'), host')) :
    v'.kind = v.kind ∧ v'.name = v.name := by
  unfold askUser at h
  split at h
  · cases h
    exact ⟨rfl, rfl⟩
  split at h
  · cases h
  · cases h
    exact ⟨rfl, rfl⟩

theorem commandText_store (v : Variable) (cwd : Text) (state : ExpansionState) :
    (commandText v cwd state).2.shelf.store = state.shelf.store := by
  unfold commandText
  split
  · rfl
  dsimp only
  split
  · rfl
  · split <;> rfl

end Variable

namespace ExpansionState
open Variable

/-- What an expansion does, one thing at a time: it asks, it asks for a variable that is kept and keeps it with its
answer, and it runs a command. -/
inductive Step : ExpansionState → ExpansionState → Prop
  | ask (v : Variable) (state : ExpansionState) : Step state { state with host := (askUser v state.host).2 }
  | answer {v v' : Variable} {name t : Text} {host : Host} {state : ExpansionState}
    (hv : state.shelf.store.findVariable? name = some v) (hkind : v.kind.isCached)
    (hask : askUser v state.host = (.ok (t, v'), host)) : Step state { host, shelf := state.shelf.setVariable v' }
  | command (v : Variable) (cwd : Text) (state : ExpansionState) : Step state (commandText v cwd state).2

/-- What expansions do. -/
abbrev Steps : ExpansionState → ExpansionState → Prop := Relation.ReflTransGen Step

/-- The names of the templates that are kept. -/
def templates (state : ExpansionState) : List Text :=
  (state.shelf.store.vars.filter (·.2.kind = .template)).map Prod.fst

variable {state state' : ExpansionState}

theorem Step.templates (h : Step state state') : state'.templates.Sublist state.templates := by
  cases h with
  | ask v => exact List.Sublist.refl _
  | command v cwd =>
    rw [ExpansionState.templates, commandText_store]
    exact List.Sublist.refl _
  | @answer v v' name t host _ hv hkind hask =>
    have hstore : (state.shelf.setVariable v').store = state.shelf.store.setVariable v' := state.shelf.update_store _
    have hother : decide (v'.kind = .template) = false := by
      rw [(askUser_ok hask).1]
      cases hk : v.kind <;> first | rfl | (rw [hk] at hkind; cases hkind)
    rw [ExpansionState.templates, hstore]
    exact (Table.filter_insert_sublist hother _).map Prod.fst

/-- No expansion makes a template. -/
theorem Steps.templates (h : Steps state state') : state'.templates.Sublist state.templates := by
  induction h with
  | refl => exact List.Sublist.refl _
  | tail _ hstep ih => exact hstep.templates.trans ih

theorem mem_templates {name : Text} {v : Variable} (h : state.shelf.store.findVariable? name = some v)
    (hkind : v.kind = .template) : name ∈ state.templates := by
  obtain ⟨before, after, htable, -⟩ := List.lookup_eq_some_iff.mp h
  exact List.mem_map.mpr ⟨(name, v), List.mem_filter.mpr ⟨by simp [htable], by simpa using hkind⟩, rfl⟩

end ExpansionState

namespace Variable
open ExpansionState

section pieces
variable {expand expand' : Expander}

/-- The names that the pieces of a template expand, each with the state that it finds. -/
def tokenCalls (expand : Expander) : List Piece → ExpansionState → List (Text × ExpansionState)
  | [], _ => []
  | .literal _ :: rest, state => tokenCalls expand rest state
  | .token name :: rest, state =>
    (name, state) ::
      match expand name state with
      | (.error _, _) => []
      | (.ok _, state) => tokenCalls expand rest state
  | .unterminated _ :: _, _ => []

/-- A result with a text in front of it. -/
def ahead (t : Text) (r : Except Failure Text × ExpansionState) : Except Failure Text × ExpansionState :=
  (r.1.map (t ++ ·), r.2)

@[simp] theorem ahead_ok (t u : Text) (state : ExpansionState) : ahead t (.ok u, state) = (.ok (t ++ u), state) := rfl

@[simp] theorem ahead_error (t : Text) (failure : Failure) (state : ExpansionState) :
    ahead t (.error failure, state) = (.error failure, state) := rfl

@[simp] theorem ahead_nil (r : Except Failure Text × ExpansionState) : ahead [] r = r := by
  rcases r with ⟨_ | _, _⟩ <;> rfl

@[simp] theorem ahead_ahead (t u : Text) (r : Except Failure Text × ExpansionState) :
    ahead t (ahead u r) = ahead (t ++ u) r := by
  rcases r with ⟨_ | _, _⟩ <;> simp

theorem expandPieces_literal (expand : Expander) (t : Text) (rest : List Piece) (state : ExpansionState) :
    expandPieces expand (.literal t :: rest) state = ahead t (expandPieces expand rest state) := rfl

theorem expandPieces_token_ok {name t : Text} {state state' : ExpansionState} (h : expand name state = (.ok t, state'))
    (rest : List Piece) :
    expandPieces expand (.token name :: rest) state = ahead t (expandPieces expand rest state') := by
  simp only [expandPieces, h, ahead]

theorem expandPieces_token_error {name : Text} {failure : Failure} {state state' : ExpansionState}
    (h : expand name state = (.error failure, state')) (rest : List Piece) :
    expandPieces expand (.token name :: rest) state = (.error failure, state') := by
  simp only [expandPieces, h]

/-- What the pieces of a template come to depends on nothing but the names that they expand. -/
theorem expandPieces_congr {parts : List Piece} {state : ExpansionState}
    (h : ∀ c ∈ tokenCalls expand parts state, expand c.1 c.2 = expand' c.1 c.2) :
    expandPieces expand parts state = expandPieces expand' parts state := by
  induction parts generalizing state with
  | nil => rfl
  | cons piece rest ih =>
    cases piece with
    | literal t => rw [expandPieces_literal, expandPieces_literal, ih h]
    | unterminated t => rfl
    | token name =>
      rw [tokenCalls] at h
      simp only [List.mem_cons, forall_eq_or_imp] at h
      obtain ⟨hname, hrest⟩ := h
      rcases hexpand : expand name state with ⟨failure | t, state'⟩
      · rw [expandPieces_token_error hexpand, expandPieces_token_error (hname ▸ hexpand)]
      · rw [hexpand] at hrest
        rw [expandPieces_token_ok hexpand, expandPieces_token_ok (hname ▸ hexpand), ih hrest]

/-- The first name that fails is what a template fails with. -/
theorem expandPieces_error {parts : List Piece} {state : ExpansionState} {c : Text × ExpansionState} {failure : Failure}
    (hc : c ∈ tokenCalls expand parts state) (h : (expand c.1 c.2).1 = .error failure) :
    (expandPieces expand parts state).1 = .error failure := by
  induction parts generalizing state with
  | nil => cases hc
  | cons piece rest ih =>
    cases piece with
    | literal t => rw [expandPieces_literal, ahead, ih hc, Except.map]
    | unterminated t => cases hc
    | token name =>
      rw [tokenCalls] at hc
      rcases hexpand : expand name state with ⟨failure' | t, state'⟩
      · rw [hexpand, List.mem_singleton] at hc
        subst hc
        rw [expandPieces_token_error hexpand]
        rwa [hexpand] at h
      · rw [hexpand, List.mem_cons] at hc
        rcases hc with rfl | hc
        · rw [hexpand] at h
          cases h
        · rw [expandPieces_token_ok hexpand, ahead, ih hc, Except.map]

variable (hexpand : ∀ name state, Steps state (expand name state).2)
include hexpand

theorem tokenCalls_steps {parts : List Piece} {state : ExpansionState} {c : Text × ExpansionState}
    (hc : c ∈ tokenCalls expand parts state) : Steps state c.2 := by
  induction parts generalizing state with
  | nil => cases hc
  | cons piece rest ih =>
    cases piece with
    | literal t => exact ih hc
    | unterminated t => cases hc
    | token name =>
      have hname := hexpand name state
      rw [tokenCalls] at hc
      rcases List.mem_cons.mp hc with rfl | hc
      · exact .refl
      · rcases hresult : expand name state with ⟨failure | t, state'⟩ <;> rw [hresult] at hname hc
        · cases hc
        · exact hname.trans (ih hc)

theorem expandPieces_steps (parts : List Piece) (state : ExpansionState) :
    Steps state (expandPieces expand parts state).2 := by
  induction parts generalizing state with
  | nil => exact .refl
  | cons piece rest ih =>
    cases piece with
    | literal t => exact ih state
    | unterminated t => exact .refl
    | token name =>
      have hname := hexpand name state
      rcases hresult : expand name state with ⟨failure | t, state'⟩
      · rw [expandPieces_token_error hresult]
        rwa [hresult] at hname
      · rw [expandPieces_token_ok hresult]
        rw [hresult] at hname
        exact hname.trans (ih state')

end pieces

section expandWith
variable {expand expand' : Expander} {context : ExpansionContext} {v : Variable} {state : ExpansionState}

/-- The names that a variable expands, each with the state that it finds. -/
def innerCalls (expand : Expander) (context : ExpansionContext) (v : Variable) (state : ExpansionState) :
    List (Text × ExpansionState) :=
  match v.kind, templateText context state.shelf.files v with
  | .template, .ok t => tokenCalls expand (pieces none t) state
  | _, _ => []

theorem innerCalls_eq_tokenCalls {t : Text} (hkind : v.kind = .template)
    (ht : templateText context state.shelf.files v = .ok t) :
    innerCalls expand context v state = tokenCalls expand (pieces none t) state := by
  rw [innerCalls, hkind, ht]

/-- Nothing but a template expands names. -/
theorem innerCalls_template {c : Text × ExpansionState} (hc : c ∈ innerCalls expand context v state) :
    v.kind = .template ∧ ∃ t, templateText context state.shelf.files v = .ok t ∧
      c ∈ tokenCalls expand (pieces none t) state := by
  unfold innerCalls at hc
  split at hc
  · next t hkind ht => exact ⟨hkind, t, ht, hc⟩
  · cases hc

theorem innerCalls_steps (hexpand : ∀ name state, Steps state (expand name state).2) {c : Text × ExpansionState}
    (hc : c ∈ innerCalls expand context v state) : Steps state c.2 := by
  obtain ⟨-, t, -, hc⟩ := innerCalls_template hc
  exact tokenCalls_steps hexpand hc

theorem expandWith_template {t : Text} (hkind : v.kind = .template)
    (ht : templateText context state.shelf.files v = .ok t) :
    expandWith expand context v state =
      ((expandPieces expand (pieces none t) state).1.map (·, v), (expandPieces expand (pieces none t) state).2) := by
  simp only [expandWith, hkind, ht]

theorem expandWith_unreadable {failure : Failure} (hkind : v.kind = .template)
    (ht : templateText context state.shelf.files v = .error failure) :
    expandWith expand context v state = (.error failure, state) := by
  simp only [expandWith, hkind, ht]

/-- A variable that is kept is one that the user is asked for. -/
theorem expandWith_cached (hkind : v.kind.isCached) :
    expandWith expand context v state =
      ((askUser v state.host).1, { state with host := (askUser v state.host).2 }) := by
  unfold expandWith
  cases hk : v.kind <;> first | rfl | (rw [hk] at hkind; cases hkind)

theorem expandWith_congr
    (h : ∀ c ∈ innerCalls expand context v state, expand c.1 c.2 = expand' c.1 c.2) :
    expandWith expand context v state = expandWith expand' context v state := by
  by_cases hkind : v.kind = .template
  · rcases ht : templateText context state.shelf.files v with failure | t
    · rw [expandWith_unreadable hkind ht, expandWith_unreadable hkind ht]
    · rw [innerCalls_eq_tokenCalls hkind ht] at h
      rw [expandWith_template hkind ht, expandWith_template hkind ht, expandPieces_congr h]
  · unfold expandWith
    cases hk : v.kind <;> first | rfl | exact absurd hk hkind

theorem expandWith_steps (hexpand : ∀ name state, Steps state (expand name state).2) (context : ExpansionContext)
    (v : Variable) (state : ExpansionState) : Steps state (expandWith expand context v state).2 := by
  unfold expandWith
  cases hk : v.kind with
  | builtin => exact .refl
  | environment => exact .refl
  | fixed => exact .refl
  | input => exact .single (.ask v state)
  | inputOnce => exact .single (.ask v state)
  | inputSave => exact .single (.ask v state)
  | process => exact .single (.command v context.cwd state)
  | template =>
    dsimp only
    split
    · exact .refl
    · exact expandPieces_steps hexpand _ state

/-- Unless the user is asked, a variable stays as it is. -/
theorem expandWith_fst (expand : Expander) (context : ExpansionContext) (v : Variable) (state : ExpansionState) :
    (∃ r, (expandWith expand context v state).1 = Except.map (·, v) r) ∨
      (expandWith expand context v state).1 = (askUser v state.host).1 := by
  unfold expandWith
  cases v.kind with
  | builtin => exact .inl ⟨_, rfl⟩
  | environment => exact .inl ⟨_, rfl⟩
  | fixed => exact .inl ⟨.ok _, rfl⟩
  | input => exact .inr rfl
  | inputOnce => exact .inr rfl
  | inputSave => exact .inr rfl
  | process => exact .inl ⟨_, rfl⟩
  | template =>
    dsimp only
    split
    · exact .inl ⟨.error _, rfl⟩
    · exact .inl ⟨_, rfl⟩

theorem expandWith_kind {v' : Variable} {t : Text} {state' : ExpansionState}
    (h : expandWith expand context v state = (.ok (t, v'), state')) : v'.kind = v.kind := by
  rcases expandWith_fst expand context v state with ⟨r, hr⟩ | hask <;> rw [h] at *
  · cases r <;> cases hr
    rfl
  · exact (askUser_ok (Prod.ext hask.symm rfl)).1

end expandWith

/-- What a name stands for: a variable that is kept, or a new one. -/
def named (state : ExpansionState) (name : Text) : Variable :=
  (state.shelf.store.findVariable? name).getD (firstReference name)

theorem named_eq {state : ExpansionState} {name : Text} (h : (firstReference name).kind ≠ (named state name).kind) :
    state.shelf.store.findVariable? name = some (named state name) := by
  unfold named at h ⊢
  cases hv : state.shelf.store.findVariable? name with
  | some v => rfl
  | none => exact absurd (by rw [hv]; rfl) h

theorem firstReference_kind (name : Text) :
    (firstReference name).kind = .builtin ∨ (firstReference name).kind = .input := by
  unfold firstReference
  dsimp only
  split
  · exact .inl rfl
  · exact .inr rfl

/-- Only a variable that is kept is a template. -/
theorem named_template {state : ExpansionState} {name : Text} (h : (named state name).kind = .template) :
    state.shelf.store.findVariable? name = some (named state name) :=
  named_eq (by rcases firstReference_kind name with hk | hk <;> rw [hk, h] <;> decide)

theorem named_cached {state : ExpansionState} {name : Text} (h : (named state name).kind.isCached) :
    state.shelf.store.findVariable? name = some (named state name) :=
  named_eq fun hsame => by
    rw [← hsame] at h
    rcases firstReference_kind name with hk | hk <;> rw [hk] at h <;> cases h

theorem mem_templates_of_inner {expand : Expander} {context : ExpansionContext} {name : Text} {state : ExpansionState}
    {c : Text × ExpansionState} (hc : c ∈ innerCalls expand context (named state name) state) :
    name ∈ state.templates :=
  mem_templates (named_template (innerCalls_template hc).1) (innerCalls_template hc).1

/-- Keep a variable that the user has answered for. -/
def keep (v : Variable) (state : ExpansionState) : ExpansionState :=
  if v.kind.isCached then { state with shelf := state.shelf.setVariable v } else state

/-- Expand a variable by its name, with a way to expand the names in a template. -/
def expandNamed (expand : Expander) (context : ExpansionContext) : Expander := fun name state =>
  match expandWith expand context (named state name) state with
  | (.error failure, state) => (.error failure, state)
  | (.ok (t, v), state) => (.ok (prefixLines v t), keep v state)

section expandNamed
variable {expand expand' : Expander} {context : ExpansionContext} {name : Text} {state : ExpansionState}

theorem expandNamed_congr
    (h : ∀ c ∈ innerCalls expand context (named state name) state, expand c.1 c.2 = expand' c.1 c.2) :
    expandNamed expand context name state = expandNamed expand' context name state := by
  unfold expandNamed
  rw [expandWith_congr h]

theorem expandNamed_steps (hexpand : ∀ name state, Steps state (expand name state).2) (context : ExpansionContext)
    (name : Text) (state : ExpansionState) : Steps state (expandNamed expand context name state).2 := by
  have hwith := expandWith_steps hexpand context (named state name) state
  unfold expandNamed
  rcases hresult : expandWith expand context (named state name) state with ⟨failure | ⟨t, v⟩, state'⟩
  · rwa [hresult] at hwith
  rw [hresult] at hwith
  have hkind := expandWith_kind hresult
  change Steps state (keep v state')
  by_cases hcached : v.kind.isCached
  · rw [keep, if_pos hcached]
    rw [hkind] at hcached
    rw [expandWith_cached hcached] at hresult
    rcases hask : askUser (named state name) state.host with ⟨result, host⟩
    rw [hask] at hresult
    cases hresult
    exact .single (.answer (named_cached hcached) hcached hask)
  · rwa [keep, if_neg hcached]

end expandNamed

section expandNested
variable {context : ExpansionContext} {n m : Nat} {visiting : List Text} {name : Text} {state : ExpansionState}

theorem expandNested_visiting (n : Nat) (h : name ∈ visiting) :
    expandNested context n visiting name state = (.error (.recursion (.templateCycle name visiting)), state) := by
  cases n with
  | zero => rfl
  | succ n => exact if_pos (by simpa using h)

theorem expandNested_succ (n : Nat) (h : name ∉ visiting) :
    expandNested context (n + 1) visiting name state =
      expandNamed (expandNested context n (visiting ++ [name])) context name state :=
  if_neg (by simpa using h)

theorem expandNested_steps (context : ExpansionContext) (n : Nat) (visiting : List Text) (name : Text)
    (state : ExpansionState) : Steps state (expandNested context n visiting name state).2 := by
  induction n generalizing visiting name state with
  | zero => exact .refl
  | succ n ih =>
    by_cases hname : name ∈ visiting
    · rw [expandNested_visiting (n + 1) hname]
    · rw [expandNested_succ n hname]
      exact expandNamed_steps (ih (visiting ++ [name])) context name state

/-- A name that comes to be expanded need not be covered any more. -/
theorem covered_erase {templates names : List Text} (h : ∀ x ∈ templates, x ∈ visiting ∨ x ∈ names) (name : Text) :
    ∀ x ∈ templates, x ∈ visiting ++ [name] ∨ x ∈ names.erase name := by
  intro x hx
  by_cases hsame : x = name
  · exact .inl (by simp [hsame])
  · exact (h x hx).imp (List.mem_append_left _) (List.mem_erase_of_ne hsame).mpr

/-- The templates that are not being expanded are all that an expansion may nest in, so that a bound that leaves
room for them changes nothing. -/
theorem expandNested_bound {names : List Text} (hcover : ∀ x ∈ state.templates, x ∈ visiting ∨ x ∈ names)
    (hn : names.length < n) (hm : names.length < m) :
    expandNested context n visiting name state = expandNested context m visiting name state := by
  induction n generalizing m visiting names name state with
  | zero => cases hn
  | succ n ih =>
    cases m with
    | zero => cases hm
    | succ m =>
      by_cases hname : name ∈ visiting
      · rw [expandNested_visiting _ hname, expandNested_visiting _ hname]
      rw [expandNested_succ n hname, expandNested_succ m hname]
      refine expandNamed_congr fun c hc => ?_
      -- A template that is expanded is one less to nest in.
      have hnames : name ∈ names := (hcover name (mem_templates_of_inner hc)).resolve_left hname
      have hpos := List.length_pos_of_mem hnames
      have hlength := List.length_erase_of_mem hnames
      have hinner := (innerCalls_steps (expandNested_steps context _ _) hc).templates.subset
      exact ih (covered_erase (fun x hx => hcover x (hinner hx)) name) (by omega) (by omega)

end expandNested

/-- Expand a variable by its name amid the expansions that are under way, nested as deep as it takes. -/
def expandAmid (context : ExpansionContext) (visiting : List Text) : Expander := fun name state =>
  expandNested context (state.templates.length + 1) visiting name state

section expandAmid
variable {context : ExpansionContext} {n : Nat} {visiting : List Text} {name : Text} {state : ExpansionState}

theorem expandNested_eq_amid (h : state.templates.length < n) :
    expandNested context n visiting name state = expandAmid context visiting name state :=
  expandNested_bound (fun _ hx => .inr hx) h (Nat.lt_succ_self _)

theorem expandAmid_visiting (h : name ∈ visiting) :
    expandAmid context visiting name state = (.error (.recursion (.templateCycle name visiting)), state) :=
  expandNested_visiting _ h

theorem expandAmid_steps (context : ExpansionContext) (visiting : List Text) (name : Text) (state : ExpansionState) :
    Steps state (expandAmid context visiting name state).2 :=
  expandNested_steps context _ visiting name state

/-- Expansions without a bound: each hands the names in its template on to expansions amid it. -/
theorem expandAmid_eq (h : name ∉ visiting) :
    expandAmid context visiting name state =
      expandNamed (expandAmid context (visiting ++ [name])) context name state := by
  rw [expandAmid, expandNested_succ _ h]
  refine expandNamed_congr fun c hc => ?_
  have hmem : name ∈ state.templates := mem_templates_of_inner hc
  have hpos := List.length_pos_of_mem hmem
  have hlength := List.length_erase_of_mem hmem
  have hinner := ((innerCalls_steps (expandNested_steps context _ _) hc).templates.erase name).length_le
  exact expandNested_bound (covered_erase (fun _ hx => .inr hx) name) (by omega)
    (Nat.lt_succ_of_le (List.length_erase_le ..))

/-- The bound that an expansion is given is as good as none. -/
theorem expand_eq_amid (context : ExpansionContext) (name : Text) (state : ExpansionState) :
    expand context name state = expandAmid context [] name state := by
  refine expandNested_eq_amid ?_
  have hle : state.templates.length ≤ state.shelf.store.vars.length := by
    rw [ExpansionState.templates, List.length_map]
    exact List.length_filter_le ..
  omega

end expandAmid

end Variable
end ExEditor
