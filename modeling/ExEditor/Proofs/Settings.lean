import ExEditor.Settings
import Mathlib.Data.List.Induction

/-! Options that are applied one after the other. Whether an option is refused does not depend on the settings, and
one that is not refused gives one setting its value or asks for the listing. So where none is refused each setting
comes to have the value that the last option for it gives, and where one is refused those in front of it count. -/
namespace ExEditor

/-- What can be set. -/
inductive Setting
  | ignoreCase
  | wrapScan
  | expandTab
  | shiftWidth
  | commentBegin
  | commentEnd
  | templateDir
  deriving DecidableEq, Repr

/-- A value for a setting. -/
inductive Assignment
  | ignoreCase (on : Bool)
  | wrapScan (on : Bool)
  | expandTab (on : Bool)
  | shiftWidth (columns : Nat)
  | commentBegin (t : Text)
  | commentEnd (t : Text)
  | templateDir (path : Option Text)
  deriving DecidableEq, Repr

namespace Assignment

/-- The setting that the value is for. -/
def setting : Assignment → Setting
  | ignoreCase _ => .ignoreCase
  | wrapScan _ => .wrapScan
  | expandTab _ => .expandTab
  | shiftWidth _ => .shiftWidth
  | commentBegin _ => .commentBegin
  | commentEnd _ => .commentEnd
  | templateDir _ => .templateDir

/-- What a name by itself turns on or off. -/
def ofSwitch? : String → Option Assignment
  | "ic" | "ignorecase" => some (ignoreCase true)
  | "noic" | "noignorecase" => some (ignoreCase false)
  | "ws" | "wrapscan" => some (wrapScan true)
  | "nows" | "nowrapscan" => some (wrapScan false)
  | "et" | "expandtab" => some (expandTab true)
  | "noet" | "noexpandtab" => some (expandTab false)
  | _ => none

/-- What an option sets, or why it is refused. -/
def read (option : Text) : Except Malformed Assignment :=
  match option.splitFirst? (· = '=') with
  | none => (ofSwitch? (String.ofList option)).elim (.error (.unknownOption option)) .ok
  | some (name, value) =>
    match String.ofList name with
    | "sw" | "shiftwidth" =>
      match value.readWord? with
      | some (n + 1) => .ok (shiftWidth (n + 1))
      | _ => .error (.invalidShiftWidth value)
    | "cb" | "commentbegin" => .ok (commentBegin value)
    | "ce" | "commentend" => .ok (commentEnd value)
    | "td" | "templatedir" => .ok (templateDir (some value))
    | _ => .error (.unknownOption option)

/-- Why an option is refused, if it is. The one for the listing is not. -/
def refusal? (option : Text) : Option Malformed :=
  if option = "all" then none
  else
    match read option with
    | .ok _ => none
    | .error cause => some cause

/-- What options set, in order. The one for the listing sets nothing. -/
def readAll (options : List Text) : List Assignment := options.filterMap fun option => (read option).toOption

/-- The last value for a setting. -/
def lastFor? (assignments : List Assignment) (k : Setting) : Option Assignment :=
  assignments.reverse.find? (·.setting = k)

end Assignment

namespace Settings

/-- The value that a setting has. -/
def valueOf (s : Settings) : Setting → Assignment
  | .ignoreCase => .ignoreCase s.ignoreCase
  | .wrapScan => .wrapScan s.wrapScan
  | .expandTab => .expandTab s.expandTab
  | .shiftWidth => .shiftWidth s.shiftWidth
  | .commentBegin => .commentBegin s.commentBegin
  | .commentEnd => .commentEnd s.commentEnd
  | .templateDir => .templateDir s.templateDir

/-- Give a setting a value. -/
def assign (s : Settings) : Assignment → Settings
  | .ignoreCase on => { s with ignoreCase := on }
  | .wrapScan on => { s with wrapScan := on }
  | .expandTab on => { s with expandTab := on }
  | .shiftWidth columns => { s with shiftWidth := columns }
  | .commentBegin t => { s with commentBegin := t }
  | .commentEnd t => { s with commentEnd := t }
  | .templateDir path => { s with templateDir := path }

/-- Give settings values, one after the other. -/
def assignAll (s : Settings) (assignments : List Assignment) : Settings := assignments.foldl assign s

theorem valueOf_assign (s : Settings) (a : Assignment) (k : Setting) :
    (s.assign a).valueOf k = if a.setting = k then a else s.valueOf k := by
  cases a <;> cases k <;> rfl

/-- Settings are their values. -/
theorem eq_of_valueOf {s s' : Settings} (h : ∀ k, s.valueOf k = s'.valueOf k) : s = s' := by
  obtain ⟨ignoreCase, wrapScan, shiftWidth, expandTab, commentBegin, commentEnd, templateDir⟩ := s
  obtain ⟨ignoreCase', wrapScan', shiftWidth', expandTab', commentBegin', commentEnd', templateDir'⟩ := s'
  cases h .ignoreCase
  cases h .wrapScan
  cases h .shiftWidth
  cases h .expandTab
  cases h .commentBegin
  cases h .commentEnd
  cases h .templateDir
  rfl

/-- Of several values for a setting the last one counts. -/
theorem valueOf_assignAll (s : Settings) (assignments : List Assignment) (k : Setting) :
    (s.assignAll assignments).valueOf k = (Assignment.lastFor? assignments k).getD (s.valueOf k) := by
  unfold Assignment.lastFor? assignAll
  induction assignments using List.reverseRecOn with
  | nil => rfl
  | append_singleton assignments a ih =>
    rw [List.foldl_append, List.foldl_cons, List.foldl_nil, valueOf_assign, ih, List.reverse_append,
      List.reverse_singleton, List.singleton_append, List.find?_cons]
    by_cases h : a.setting = k
    · simp [h]
    · simp [h]

/-- Values change nothing if the last one for each setting is the one that it has. -/
theorem assignAll_eq_self_iff {s : Settings} {assignments : List Assignment} :
    s.assignAll assignments = s ↔ ∀ k, ∀ a ∈ Assignment.lastFor? assignments k, a = s.valueOf k := by
  constructor
  · intro h k a ha
    have hvalue := s.valueOf_assignAll assignments k
    rw [h, Option.mem_def.mp ha] at hvalue
    exact hvalue.symm
  · refine fun h => eq_of_valueOf fun k => ?_
    rw [valueOf_assignAll]
    cases hlast : Assignment.lastFor? assignments k with
    | none => rfl
    | some a => exact h k a hlast

theorem switch?_eq (s : Settings) (name : String) :
    s.switch? name = (Assignment.ofSwitch? name).map s.assign := by
  unfold switch? Assignment.ofSwitch?
  split <;> simp_all [assign]

/-- An option is read before it is applied, whatever the settings are. -/
theorem applyOption_eq (s : Settings) (option : Text) :
    s.applyOption option = ((Assignment.read option).mapError .malformed).map s.assign := by
  unfold applyOption Assignment.read
  cases option.splitFirst? (· = '=') with
  | none =>
    dsimp only
    rw [switch?_eq]
    cases Assignment.ofSwitch? (String.ofList option) <;> rfl
  | some parts =>
    obtain ⟨name, value⟩ := parts
    dsimp only
    generalize String.ofList name = word
    rcases value.readWord? with _ | _ | columns <;> split <;> simp_all [Except.map, Except.mapError, assign]

section options
variable {options : List Text} (s : Settings) (shown : Option Text)

theorem applyOptions_all (rest : List Text) :
    s.applyOptions shown ("all".toList :: rest) = s.applyOptions (some s.listing) rest := by
  rw [applyOptions, if_pos rfl]

theorem applyOptions_refused {option : Text} {cause : Malformed} (h : Assignment.refusal? option = some cause)
    (rest : List Text) : s.applyOptions shown (option :: rest) = (s, .error (.malformed cause)) := by
  unfold Assignment.refusal? at h
  split at h
  · cases h
  · next hall =>
    split at h
    · cases h
    · next cause' hread =>
      cases h
      rw [applyOptions, if_neg hall, applyOption_eq, hread]
      rfl

theorem applyOptions_read {option : Text} (hall : option ≠ "all".toList) (h : Assignment.refusal? option = none)
    (rest : List Text) :
    s.applyOptions shown (option :: rest) = (s.assignAll (Assignment.readAll [option])).applyOptions shown rest := by
  unfold Assignment.refusal? at h
  rw [if_neg hall] at h
  split at h
  · next a hread =>
    have hone : Assignment.readAll [option] = [a] := by simp [Assignment.readAll, hread, Except.toOption]
    rw [applyOptions, if_neg hall, applyOption_eq, hread, hone]
    rfl
  · cases h

/-- Options that are not refused are applied one after the other. -/
theorem applyOptions_append (h : ∀ option ∈ options, Assignment.refusal? option = none) (rest : List Text) :
    ∃ shown', s.applyOptions shown (options ++ rest) =
      (s.assignAll (Assignment.readAll options)).applyOptions shown' rest := by
  induction options generalizing s shown with
  | nil => exact ⟨shown, rfl⟩
  | cons option options ih =>
    obtain ⟨hfirst, hothers⟩ := List.forall_mem_cons.mp h
    by_cases hall : option = "all".toList
    · subst hall
      obtain ⟨shown', hshown⟩ := ih s (some s.listing) hothers
      exact ⟨shown', (s.applyOptions_all shown _).trans hshown⟩
    · obtain ⟨shown', hshown⟩ := ih (s.assignAll (Assignment.readAll [option])) shown hothers
      refine ⟨shown', (s.applyOptions_read shown hall hfirst _).trans (hshown.trans ?_)⟩
      rw [assignAll, assignAll, ← List.foldl_append, Assignment.readAll, Assignment.readAll, ← List.filterMap_append]
      rfl

/-- Without the option for the listing none comes to be shown. -/
theorem applyOptions_quiet (h : ∀ option ∈ options, Assignment.refusal? option = none)
    (hall : "all".toList ∉ options) :
    s.applyOptions shown options = (s.assignAll (Assignment.readAll options), .ok shown) := by
  induction options generalizing s with
  | nil => rfl
  | cons option options ih =>
    obtain ⟨hfirst, hothers⟩ := List.forall_mem_cons.mp h
    obtain ⟨hne, hnone⟩ := not_or.mp (mt List.mem_cons.mpr hall)
    rw [s.applyOptions_read shown (Ne.symm hne) hfirst, ih _ hothers hnone, assignAll, assignAll,
      ← List.foldl_append, Assignment.readAll, Assignment.readAll, ← List.filterMap_append]
    rfl

end options

end Settings
end ExEditor
