import ExEditor.Proofs.Variable.Template
import Mathlib.Data.List.Nodup
import Mathlib.Data.List.Perm.Subperm

/-! Templates do not expand inside themselves. Each expansion that an expansion makes lies in one more template, so
that they nest no deeper than there are templates, and one: a name that is no template, or one that is being expanded
and fails. The names of what is being expanded may be kept on one list that grows and shrinks. -/
namespace ExEditor

/-- An expansion of a name: the names of what is being expanded around it, and the state that it finds. -/
structure Expansion where
  visiting : List Text
  name : Text
  state : ExpansionState

namespace Expansion
open Variable

section nested
variable (context : ExpansionContext)

/-- What an expansion comes to. -/
def result (e : Expansion) : Except Failure Text × ExpansionState := expandAmid context e.visiting e.name e.state

/-- The way to expand the names in the template that an expansion is of. -/
def inner (e : Expansion) : Expander := expandAmid context (e.visiting ++ [e.name])

/-- The expansions that an expansion makes itself. -/
def starts (e : Expansion) : List Expansion :=
  if e.name ∈ e.visiting then []
  else (innerCalls (e.inner context) context (named e.state e.name) e.state).map fun c =>
    { visiting := e.visiting ++ [e.name], name := c.1, state := c.2 }

/-- The expansions at a depth below an expansion. -/
def nested : Nat → Expansion → List Expansion
  | 0, e => [e]
  | d + 1, e => (e.starts context).flatMap (nested d)

end nested

variable {context : ExpansionContext} {e e' : Expansion}

theorem result_eq (h : e.name ∉ e.visiting) :
    e.result context = expandNamed (e.inner context) context e.name e.state := expandAmid_eq h

theorem starts_eq (h : e' ∈ e.starts context) :
    e.name ∉ e.visiting ∧ e'.visiting = e.visiting ++ [e.name] ∧
      (e'.name, e'.state) ∈ innerCalls (e.inner context) context (named e.state e.name) e.state := by
  unfold starts at h
  split at h
  · cases h
  · next hname =>
    obtain ⟨c, hc, rfl⟩ := List.mem_map.mp h
    exact ⟨hname, rfl, hc⟩

/-- An expansion is made of those that it makes: another way to expand names comes to the same if it agrees on them. -/
theorem result_of_agree {expand : Expander} (hname : e.name ∉ e.visiting)
    (h : ∀ e' ∈ e.starts context, expand e'.name e'.state = e'.result context) :
    expandNamed expand context e.name e.state = e.result context := by
  rw [result_eq hname]
  refine (expandNamed_congr fun c hc => ?_).symm
  refine (h ⟨e.visiting ++ [e.name], c.1, c.2⟩ ?_).symm
  rw [starts, if_neg hname]
  exact List.mem_map_of_mem hc

/-- What is being expanded around an expansion at a depth: templates, none of them twice. -/
structure Guarded (names : List Text) (d : Nat) (e : Expansion) : Prop where
  nodup : e.visiting.Nodup
  visiting_subset : e.visiting ⊆ names
  depth : e.visiting.length = d
  templates_subset : e.state.templates ⊆ names

variable {names : List Text} {d : Nat}

theorem Guarded.nodup_concat (h : Guarded names d e) (hname : e.name ∉ e.visiting) :
    (e.visiting ++ [e.name]).Nodup := by
  rw [← List.concat_eq_append]
  exact List.Nodup.concat hname h.nodup

theorem Guarded.start (h : Guarded names d e) (hstart : e' ∈ e.starts context) : Guarded names (d + 1) e' := by
  obtain ⟨hname, hvisiting, hc⟩ := starts_eq hstart
  have htemplates := (innerCalls_steps (expandAmid_steps context _) hc).templates.subset
  refine ⟨?_, ?_, ?_, List.Subset.trans htemplates h.templates_subset⟩ <;> rw [hvisiting]
  · exact h.nodup_concat hname
  · simpa [h.visiting_subset] using h.templates_subset (mem_templates_of_inner hc)
  · rw [List.length_append, List.length_singleton, h.depth]

theorem Guarded.nested {k : Nat} (h : Guarded names d e) (hnested : e' ∈ nested context k e) :
    Guarded names (d + k) e' := by
  induction k generalizing d e with
  | zero => exact List.mem_singleton.mp hnested ▸ h
  | succ k ih =>
    obtain ⟨e₁, hstart, hnested⟩ := List.mem_flatMap.mp hnested
    have hnext := ih (h.start hstart) hnested
    rwa [Nat.add_assoc, Nat.add_comm 1] at hnext

theorem Guarded.depth_le (h : Guarded names d e) : d ≤ names.length :=
  h.depth ▸ (List.subperm_of_subset h.nodup h.visiting_subset).length_le

/-- An expansion fails as one does that it makes. -/
theorem result_of_start {failure : Failure} (hstart : e' ∈ e.starts context)
    (h : (e'.result context).1 = .error failure) : (e.result context).1 = .error failure := by
  obtain ⟨hname, hvisiting, hc⟩ := starts_eq hstart
  obtain ⟨hkind, t, ht, hc⟩ := innerCalls_template hc
  rw [result, hvisiting] at h
  rw [result_eq hname, expandNamed_template hkind ht, expandPieces_error hc h, Except.map]

theorem result_of_nested {failure : Failure} (hnested : e' ∈ nested context d e)
    (h : (e'.result context).1 = .error failure) : (e.result context).1 = .error failure := by
  induction d generalizing e with
  | zero => exact List.mem_singleton.mp hnested ▸ h
  | succ d ih =>
    obtain ⟨e₁, hstart, hnested⟩ := List.mem_flatMap.mp hnested
    exact result_of_start hstart (ih hnested)

/-- A name that is being expanded fails. -/
theorem result_of_visiting (h : e.name ∈ e.visiting) :
    (e.result context).1 = .error (.recursion (.templateCycle e.name e.visiting)) := by
  rw [result, expandAmid_visiting h]

/-- A template that names what is being expanded fails with it, unless a name before it fails. -/
theorem result_of_token {text rest : Text} {before after : List Part} {x : Text} {hx : x ≠ [] ∧ '@' ∉ x}
    (hname : e.name ∉ e.visiting) (hkind : (named e.state e.name).kind = .template)
    (htext : templateText context e.state.shelf.files (named e.state e.name) = .ok text)
    (hparts : text = written (before ++ .token x hx :: after) ++ rest) (hmem : x ∈ e.visiting ++ [e.name]) :
    (∃ texts last, Expands (e.inner context) before e.state texts last ∧
      (e.result context).1 = .error (.recursion (.templateCycle x (e.visiting ++ [e.name])))) ∨
    ∃ failure last, Fails (e.inner context) before e.state failure last ∧ (e.result context).1 = .error failure := by
  have hresult {failure : Failure} {last : ExpansionState}
      (h : Fails (e.inner context) (before ++ .token x hx :: after) e.state failure last) :
      (e.result context).1 = .error failure := by
    rw [result_eq hname, expandNamed_template hkind htext, hparts, h.expandPieces, Except.map]
  rcases expands_or_fails (e.inner context) before e.state with ⟨texts, last, h⟩ | ⟨failure, last, h⟩
  · exact .inl ⟨texts, last, h, hresult (.intro h hx (expandAmid_visiting hmem))⟩
  · exact .inr ⟨failure, last, h, hresult (h.append _)⟩

end Expansion

/-! What is being expanded, kept on one list that an expansion puts its name on when it begins and takes it off when it
ends, however it ends. -/

/-- An expansion state with the list of what is being expanded. -/
structure Underway where
  visiting : List Text := []
  state : ExpansionState := {}

namespace Underway

/-- A way to expand a variable by its name. -/
abbrev Expander := Text → Underway → Except Failure Text × Underway

/-- An expansion of a variable begins. -/
def push (name : Text) (u : Underway) : Underway := { u with visiting := u.visiting ++ [name] }

/-- An expansion of a variable ends. -/
def pop (u : Underway) : Underway := { u with visiting := u.visiting.dropLast }

/-- Put the result of an expansion in place, below the list as it is. -/
def put {α : Type} (u : Underway) (r : Except Failure α × ExpansionState) : Except Failure α × Underway :=
  (r.1, { u with state := r.2 })

/-- Expand the pieces of a template from left to right, up to the first that fails. -/
def expandPieces (expand : Expander) : List Variable.Piece → Underway → Except Failure Text × Underway
  | [], u => (.ok [], u)
  | .literal t :: rest, u =>
    let (others, u) := expandPieces expand rest u
    (others.map (t ++ ·), u)
  | .token name :: rest, u =>
    match expand name u with
    | (.error failure, u) => (.error failure, u)
    | (.ok t, u) =>
      let (others, u) := expandPieces expand rest u
      (others.map (t ++ ·), u)
  | .unterminated t :: _, u => (.error (.malformed (.unterminatedToken t.trimEnd)), u)

/-- The text of a variable. All but a template leave the list alone. -/
def expandWith (expand : Expander) (context : ExpansionContext) (v : Variable) (u : Underway) :
    Except Failure (Text × Variable) × Underway :=
  match v.kind, Variable.templateText context u.state.shelf.files v with
  | .template, .ok t =>
    let (result, u) := expandPieces expand (Variable.pieces none t) u
    (result.map (·, v), u)
  | _, _ => u.put (Variable.expandWith (fun _ state => (.ok [], state)) context v u.state)

/-- Expand a variable by its name. The first argument bounds how deep expansions may nest. -/
def expandNested (context : ExpansionContext) : Nat → Expander
  | 0, name, u => (.error (.recursion (.templateCycle name u.visiting)), u)
  | n + 1, name, u =>
    if u.visiting.contains name then (.error (.recursion (.templateCycle name u.visiting)), u)
    else
      let (result, u) := expandWith (expandNested context n) context (Variable.named u.state name) (u.push name)
      match result with
      | .error failure => (.error failure, u.pop)
      | .ok (t, v) => (.ok (Variable.prefixLines v t), { u.pop with state := Variable.keep v u.state })

/-- A way to expand names on a list that comes to the same as one that is handed what is being expanded: whatever it
puts on the list it takes off again. -/
def Restores (expand : List Text → Variable.Expander) (expands : Expander) : Prop :=
  ∀ name u, expands name u = u.put (expand u.visiting name u.state)

namespace Restores
variable {expand : List Text → Variable.Expander} {expands : Expander} (h : Restores expand expands)
include h

theorem expandPieces (parts : List Variable.Piece) (u : Underway) :
    expandPieces expands parts u = u.put (Variable.expandPieces (expand u.visiting) parts u.state) := by
  induction parts generalizing u with
  | nil => rfl
  | cons piece rest ih =>
    cases piece with
    | literal t =>
      rw [Underway.expandPieces, ih]
      rfl
    | unterminated t => rfl
    | token name =>
      rw [Underway.expandPieces, h name u]
      rcases hresult : expand u.visiting name u.state with ⟨failure | t, state⟩
      · rw [Variable.expandPieces_token_error hresult]
        rfl
      · rw [Variable.expandPieces_token_ok hresult]
        dsimp only [put]
        rw [ih]
        rfl

theorem expandWith (context : ExpansionContext) (v : Variable) (u : Underway) :
    expandWith expands context v u = u.put (Variable.expandWith (expand u.visiting) context v u.state) := by
  unfold Underway.expandWith
  split
  · next t hkind ht =>
    rw [h.expandPieces, Variable.expandWith_template hkind ht]
    rfl
  · next hnone =>
    refine congrArg u.put (Variable.expandWith_congr fun c hc => ?_)
    obtain ⟨hkind, t, ht, -⟩ := Variable.innerCalls_template hc
    exact absurd ht (hnone t hkind)

end Restores

theorem expandNested_restores (context : ExpansionContext) (n : Nat) :
    Restores (Variable.expandNested context n) (expandNested context n) := by
  induction n with
  | zero => exact fun name u => rfl
  | succ n ih =>
    intro name u
    by_cases hname : name ∈ u.visiting
    · rw [Variable.expandNested_visiting _ hname]
      exact if_pos (by simpa using hname)
    · rw [Variable.expandNested_succ n hname, expandNested, if_neg (by simpa using hname), ih.expandWith]
      dsimp only [push, put, pop]
      rw [Variable.expandNamed, List.dropLast_concat]
      rcases Variable.expandWith (Variable.expandNested context n (u.visiting ++ [name])) context
        (Variable.named u.state name) u.state with ⟨failure | ⟨t, v⟩, state⟩ <;> rfl

end Underway

namespace Variable

/-- Expansions end. Each is made of those that it makes itself, around which no name is being expanded twice, so that
they nest no deeper than there are templates, and one; the bound that they are given stays out of play. A name that is
being expanded makes the whole fail, unless a name before it fails. The list of what is being expanded is left as it
was, however an expansion ends. -/
theorem expansion_ends (context : ExpansionContext) (name : Text) (state : ExpansionState) :
    let whole := expand context name state
    (∀ n, state.templates.length < n → expandNested context n [] name state = whole) ∧
    (∀ d, ∀ e ∈ Expansion.nested context d ⟨[], name, state⟩,
      e.visiting.Nodup ∧ (e.name ∉ e.visiting → (e.visiting ++ [e.name]).Nodup) ∧
      e.visiting.length = d ∧ d + 1 ≤ state.templates.length + 1 ∧
      (e.name ∉ e.visiting → ∀ expand : Expander,
        (∀ e' ∈ e.starts context, expand e'.name e'.state = e'.result context) →
        expandNamed expand context e.name e.state = e.result context) ∧
      (e.name ∈ e.visiting → whole.1 = .error (.recursion (.templateCycle e.name e.visiting))) ∧
      ∀ text before x hx after rest, e.name ∉ e.visiting → (named e.state e.name).kind = .template →
        templateText context e.state.shelf.files (named e.state e.name) = .ok text →
        text = written (before ++ .token x hx :: after) ++ rest → x ∈ e.visiting ++ [e.name] →
        (∃ texts last, Expands (e.inner context) before e.state texts last ∧
          whole.1 = .error (.recursion (.templateCycle x (e.visiting ++ [e.name])))) ∨
        ∃ failure last, Fails (e.inner context) before e.state failure last ∧ whole.1 = .error failure) ∧
    ∀ n visiting, Underway.expandNested context n name ⟨visiting, state⟩ =
      ((expandNested context n visiting name state).1, ⟨visiting, (expandNested context n visiting name state).2⟩) := by
  intro whole
  have htop : Expansion.Guarded state.templates 0 ⟨[], name, state⟩ :=
    ⟨List.nodup_nil, List.nil_subset _, rfl, List.Subset.refl _⟩
  have hwhole {d : Nat} {e : Expansion} {failure : Failure} (he : e ∈ Expansion.nested context d ⟨[], name, state⟩)
      (h : (e.result context).1 = .error failure) : whole.1 = .error failure :=
    (congrArg Prod.fst (expand_eq_amid context name state)).trans (Expansion.result_of_nested he h)
  refine ⟨fun n hn => ?bound, fun d e he => ?nested, fun n visiting => Underway.expandNested_restores context n name _⟩
  case bound => exact (expandNested_eq_amid hn).trans (expand_eq_amid context name state).symm
  case nested =>
    have hguarded := htop.nested he
    rw [Nat.zero_add] at hguarded
    refine ⟨hguarded.nodup, hguarded.nodup_concat, hguarded.depth, Nat.succ_le_succ hguarded.depth_le,
      fun hname expand h => Expansion.result_of_agree hname h, fun h => hwhole he (Expansion.result_of_visiting h), ?_⟩
    intro text before x hx after rest hname hkind htext hparts hmem
    refine (Expansion.result_of_token hname hkind htext hparts hmem).imp ?_ ?_
    · rintro ⟨texts, last, h, hfails⟩
      exact ⟨texts, last, h, hwhole he hfails⟩
    · rintro ⟨failure, last, h, hfails⟩
      exact ⟨failure, last, h, hwhole he hfails⟩

/-- The first of three templates names the second, whose file names the third, which has the same file: the third
names itself, as deep as three templates can make it. -/
theorem expansion_ends_shared :
    let state : ExpansionState := {
      shelf := {
        store := { vars := [
          ("A", { name := "A", kind := .template, value := some "/a" }),
          ("B", { name := "B", kind := .template, value := some "/b" }),
          ("C", { name := "C", kind := .template, value := some "/b" })] }
        files := { entries := [
          (["a".toList], .file (.text "@Cb@ @B@")), (["b".toList], .file (.text "@@ @C@ @unknown@"))] } } }
    state.templates.length = 3 ∧
      (Expansion.nested {} 3 ⟨[], "A", state⟩).map (fun e => (e.name, e.visiting)) =
        [("C".toList, ["A".toList, "B".toList, "C".toList])] ∧
      (expand {} "A" state).1 = .error (.recursion (.templateCycle "C" ["A", "B", "C"])) ∧
      (Underway.expandNested {} 4 "A" ⟨[], state⟩).2.visiting = [] := by
  intro state
  obtain ⟨-, hnested, hrestored⟩ := expansion_ends {} "A" state
  have hdeepest : (Expansion.nested {} 3 ⟨[], "A", state⟩).map (fun e => (e.name, e.visiting)) =
      [("C".toList, ["A".toList, "B".toList, "C".toList])] := by rfl
  refine ⟨by rfl, hdeepest, ?_, by rw [hrestored]⟩
  have hmem := List.mem_singleton_self ("C".toList, ["A".toList, "B".toList, "C".toList])
  rw [← hdeepest] at hmem
  obtain ⟨e, he, hlast⟩ := List.mem_map.mp hmem
  obtain ⟨hname, hvisiting⟩ := Prod.mk.inj hlast
  obtain ⟨-, -, -, -, -, hcycle, -⟩ := hnested 3 e he
  rw [hname, hvisiting] at hcycle
  exact hcycle (by decide)

end Variable
end ExEditor
