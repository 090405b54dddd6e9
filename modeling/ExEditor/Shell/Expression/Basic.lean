import ExEditor.Shell.Command

/-! Regular expressions of the tools, and how they match: an expression leads from each place in a text
to the places where a part that it stands for ends. Of all such parts the first and then the longest is
taken, and of those of one length the one in which earlier parts of the expression are longer. -/
namespace ExEditor
namespace Shell

/-- A place between two characters. -/
inductive Border
  /-- Where a line starts, if lines count, and else where the text does. -/
  | lineStart
  | lineEnd
  | textStart
  | textEnd
  | wordStart
  | wordEnd
  | wordEdge
  | noWordEdge
  /-- A place with no part of a word in front of it. -/
  | afterGap
  /-- A place with no part of a word behind it. -/
  | beforeGap
  deriving DecidableEq, Repr

/-- A regular expression. -/
inductive Expression
  | empty
  /-- A character in one of some ranges, or, if `negated`, in none of them. -/
  | one (negated : Bool) (ranges : List (Char × Char))
  | border (b : Border)
  /-- A part that is kept under a number. -/
  | group (index : Nat) (body : Expression)
  /-- The text that a group has kept. -/
  | again (index : Nat)
  | sequence (first second : Expression)
  | either (first second : Expression)
  | repeated (least : Nat) (most : Option Nat) (body : Expression)
  deriving DecidableEq, Repr

namespace Expression

/-- Whether what is matched depends on what groups have kept. -/
def refersBack : Expression → Bool
  | again _ => true
  | group _ body => body.refersBack
  | sequence first second => first.refersBack || second.refersBack
  | either first second => first.refersBack || second.refersBack
  | repeated _ _ body => body.refersBack
  | _ => false

/-- Number of the last group. -/
def groupCount : Expression → Nat
  | group index body => max index body.groupCount
  | sequence first second => max first.groupCount second.groupCount
  | either first second => max first.groupCount second.groupCount
  | repeated _ _ body => body.groupCount
  | _ => 0

/-- An expression for a character alone. -/
def char (c : Char) : Expression := one false [(c, c)]

/-- An expression for a text alone. -/
def literal (t : Text) : Expression := t.foldr (fun c e => sequence (char c) e) empty

end Expression

/-- Where a match has come to, and the spans that its groups have kept, the latest first. -/
structure Spot where
  position : Nat
  groups : List (Nat × Nat × Nat) := []
  deriving DecidableEq, Repr

/-- A text in which something is looked for. -/
structure Subject where
  chars : Array Char
  /-- Whether letters match in both cases. -/
  ignoreCase : Bool
  /-- Whether lines count. -/
  byLine : Bool
  /-- Whether spots of one place are different if their groups are. -/
  remembers : Bool

namespace Subject

/-- A character without its case, if that is to be ignored. -/
def fold (f : Subject) (c : Char) : Char := if f.ignoreCase then c.toLower else c

/-- Whether a character is in one of some ranges. -/
def isIn (f : Subject) (ranges : List (Char × Char)) (c : Char) : Bool :=
  let within (c : Char) : Bool := ranges.any fun (a, b) => a ≤ c && c ≤ b
  within c || (f.ignoreCase && (within c.toLower || within c.toUpper))

/-- Whether there is a part of a word at a place. -/
def isWord (f : Subject) (position : Nat) : Bool := f.chars[position]?.any isNamePart

/-- Whether a place is one of a kind. -/
def isAt (f : Subject) (b : Border) (position : Nat) : Bool :=
  let before := position ≠ 0 && f.isWord (position - 1)
  let after := f.isWord position
  match b with
  | .lineStart => position = 0 || (f.byLine && f.chars[position - 1]? = some '\n')
  | .lineEnd => position = f.chars.size || (f.byLine && f.chars[position]? = some '\n')
  | .textStart => position = 0
  | .textEnd => position = f.chars.size
  | .wordStart => !before && after
  | .wordEnd => before && !after
  | .wordEdge => before != after
  | .noWordEdge => before == after
  | .afterGap => !before
  | .beforeGap => !after

/-- Spots that have been met. -/
structure Met where
  places : Array Bool
  spots : List Spot := []

/-- Keep the spots that are met for the first time. -/
def keepNew (f : Subject) : Met → List Spot → List Spot × Met
  | met, [] => ([], met)
  | met, s :: rest =>
    let known := if f.remembers then met.spots.contains s else met.places.getD s.position true
    if known then keepNew f met rest
    else
      let met := if f.remembers then { met with spots := s :: met.spots }
        else { met with places := met.places.setIfInBounds s.position true }
      let (kept, met) := keepNew f met rest
      (s :: kept, met)

/-- Nothing has been met. -/
def unmet (f : Subject) : Met := ⟨if f.remembers then #[] else Array.replicate (f.chars.size + 1) false, []⟩

/-- Each spot once. -/
def distinct (f : Subject) (spots : List Spot) : List Spot :=
  match spots with
  | [] | [_] => spots
  | spots => (f.keepNew f.unmet spots).1

/-- Spots with the farthest first. -/
def farthestFirst (spots : List Spot) : List Spot :=
  match spots with
  | [] | [_] => spots
  | spots => spots.mergeSort fun a b => b.position ≤ a.position

/-- All spots that steps lead to from some spots, those among them. The first argument bounds the
steps. -/
def closure (f : Subject) (step : List Spot → List Spot) : Nat → Met → List Spot → List Spot × Met
  | 0, met, _ => ([], met)
  | n + 1, met, spots =>
    match f.keepNew met spots with
    | ([], met) => ([], met)
    | (new, met) =>
      let (more, met) := closure f step n met (step new)
      (new ++ more, met)

/-- The spots after so many steps, or after some more. -/
def stepped (f : Subject) (step : List Spot → List Spot) : (least more : Nat) → List Spot → List Spot
  | 0, 0, spots => spots
  | 0, more + 1, spots => if spots = [] then [] else stepped f step 0 more (f.distinct (step spots)) ++ spots
  | least + 1, more, spots => if spots = [] then [] else stepped f step least more (f.distinct (step spots))

/-- The spots that repeated steps lead to from each of some spots. -/
def repeatedly (f : Subject) (step : List Spot → List Spot) (least : Nat) (most : Option Nat)
    (spots : List Spot) : List Spot :=
  match most with
  | some most => spots.flatMap fun s => farthestFirst (f.distinct (f.stepped step least (most - least) [s]))
  | none =>
    (spots.foldl (fun (found, met) s =>
      let (new, met) := f.closure step (f.chars.size + 2) met (f.stepped step least 0 [s])
      (farthestFirst new :: found, met)) (([] : List (List Spot)), f.unmet)).1.reverse.flatten

/-- The spots that an expression leads to from some spots, each at most once. -/
def ends (f : Subject) : Expression → List Spot → List Spot
  | .empty, spots => spots
  | .one negated ranges, spots =>
    spots.filterMap fun s =>
      if f.chars[s.position]?.any fun c => f.isIn ranges c != negated then
        some { s with position := s.position + 1 }
      else none
  | .border b, spots => spots.filter fun s => f.isAt b s.position
  | .group index body, spots =>
    f.distinct (spots.flatMap fun s =>
      (ends f body [s]).map fun e =>
        { e with groups := (index, s.position, e.position) :: e.groups.filter (·.1 ≠ index) })
  | .again index, spots =>
    f.distinct (spots.filterMap fun s =>
      match s.groups.lookup index with
      | none => none
      | some (start, stop) =>
        let same := (List.range (stop - start)).all fun i =>
          match f.chars[start + i]?, f.chars[s.position + i]? with
          | some a, some b => f.fold a = f.fold b
          | _, _ => false
        if same then some { s with position := s.position + (stop - start) } else none)
  | .sequence first second, spots => ends f second (ends f first spots)
  | .either first second, spots =>
    f.distinct (spots.flatMap fun s => farthestFirst (ends f first [s] ++ ends f second [s]))
  | .repeated least most body, spots => f.distinct (f.repeatedly (ends f body) least most spots)

end Subject

/-- A part of a text that an expression stands for, and the spans of its groups. -/
structure Found where
  start : Nat
  stop : Nat
  groups : List (Nat × Nat × Nat) := []
  deriving DecidableEq, Repr

namespace Found

/-- The span of a group, of which 0 is the whole. -/
def group? (m : Found) (index : Nat) : Option (Nat × Nat) :=
  if index = 0 then some (m.start, m.stop) else m.groups.lookup index

/-- The part of the text that was found. -/
def textIn (m : Found) (t : Text) : Text := (t.drop m.start).take (m.stop - m.start)

end Found

/-- An expression that is looked for, with or without regard to the case of letters and to lines. -/
structure Finder where
  expression : Expression
  ignoreCase : Bool := false
  byLine : Bool := false
  deriving DecidableEq, Repr

namespace Finder

/-- A text in which the expression is looked for. -/
def subject (m : Finder) (t : Text) : Subject := ⟨t.toArray, m.ignoreCase, m.byLine, m.expression.refersBack⟩

/-- The longest part that begins at a place. -/
def foundAt? (m : Finder) (f : Subject) (start : Nat) : Option Found :=
  match f.ends m.expression [{ position := start }] with
  | [] => none
  | first :: others =>
    let best := others.foldl (fun best s => if best.position < s.position then s else best) first
    some ⟨start, best.position, best.groups⟩

/-- The first part that begins at one of some places, which are those from `start` on. The number bounds
them. -/
def foundFrom? (m : Finder) (f : Subject) : Nat → (start : Nat) → Option Found
  | 0, _ => none
  | n + 1, start =>
    match m.foundAt? f start with
    | some found => some found
    | none => foundFrom? m f n (start + 1)

/-- The first part of a text that the expression stands for. -/
def find? (m : Finder) (t : Text) : Option Found :=
  let f := m.subject t
  m.foundFrom? f (f.chars.size + 1) 0

/-- Whether the expression stands for a part of a text. -/
def isMatch (m : Finder) (t : Text) : Bool := (m.find? t).isSome

/-- All parts from a place on that do not overlap. An empty one may not follow another directly; `last`
is the end of the one before. The first argument bounds their number. -/
def allFrom (m : Finder) (f : Subject) : Nat → (last : Option Nat) → (start : Nat) → List Found
  | 0, _, _ => []
  | n + 1, last, start =>
    match m.foundFrom? f (f.chars.size + 1 - start) start with
    | none => []
    | some found =>
      if found.stop = found.start then
        if last = some found.start then allFrom m f n none (found.start + 1)
        else found :: allFrom m f n none (found.start + 1)
      else found :: allFrom m f n (some found.stop) found.stop

/-- All parts of a text that the expression stands for, from left to right, as far as they do not
overlap. -/
def findAll (m : Finder) (t : Text) : List Found :=
  let f := m.subject t
  m.allFrom f (2 * f.chars.size + 2) none 0

end Finder
end Shell
end ExEditor
