import ExEditor.Shell.Expression.Basic

/-! Scripts that edit lines: every line in turn is taken into a space, and the steps of the script work on
what is there. -/
namespace ExEditor
namespace Shell
namespace Script

/-- An address of lines. -/
inductive Place
  | line (n : Nat)
  | last
  /-- Lines in which something is found; none stands for what was last looked for. -/
  | matching (m : Option Finder)
  /-- Every so many lines from one on. -/
  | every (first step : Nat)
  /-- So many lines behind another address. -/
  | behind (n : Nat)
  /-- The next line whose number is a multiple. -/
  | multiple (n : Nat)
  deriving DecidableEq, Repr

/-- How one text is put in the place of another. -/
structure Exchange where
  finder : Option Finder
  replacement : Text
  all : Bool := false
  shows : Bool := false
  /-- The first of the matches that is replaced, counted from 1. -/
  nth : Nat := 1
  /-- The file that changed lines are written to. -/
  target : Option Text := none
  deriving DecidableEq, Repr

/-- What a step does. -/
inductive Action
  | substitute (x : Exchange)
  | translate (pairs : List (Char × Char))
  | delete
  | deleteFirst
  | shows
  | showFirst
  | showPlainly (width : Option Nat)
  | number
  | quit (shows : Bool) (status : Nat)
  | next
  | append
  | hold (adds : Bool)
  | recall (adds : Bool)
  | exchange
  | empty
  | after (t : Text)
  | before (t : Text)
  | change (t : Text)
  /-- Show what a file holds behind the line. -/
  | insertFile (path : Text)
  | writeTo (path : Text) (firstOnly : Bool)
  /-- Go on with the step of this number. -/
  | skipTo (step : Nat)
  | label (name : Text)
  /-- Go on behind a label, or at the end; with `ifReplaced` only if something has been replaced, or
  has not been. -/
  | jump (ifReplaced : Option Bool) (name : Text)
  deriving DecidableEq, Repr

/-- An action with the lines that it is for. -/
structure Step where
  first : Option Place := none
  second : Option Place := none
  negated : Bool := false
  action : Action
  deriving DecidableEq, Repr

/-- The files that a step writes to. -/
def Step.targets (step : Step) : List Text :=
  match step.action with
  | .substitute x => x.target.toList
  | .writeTo path _ => [path]
  | _ => []

/-- The files that a step shows. -/
def Step.sources (step : Step) : List Text :=
  match step.action with
  | .insertFile path => [path]
  | _ => []

end Script
end Shell
end ExEditor
