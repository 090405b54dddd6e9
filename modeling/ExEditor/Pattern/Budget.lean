import ExEditor.Pattern.Basic
import ExEditor.Pattern.Utf8
import Std.Data.HashMap

/-! How much room a pattern may take. Two automata that read the bytes of a text, one from the front and
one from the back, are laid out for a pattern; a pattern is refused if either would not fit into ten
mebibytes. Here the automata are measured: what is added up is their states and the links out of them,
while the targets of links count only where states are shared. -/
namespace ExEditor
namespace Pattern

open Unicode (Ranges)

/-- What an automaton takes: the number of its states, and the bytes for links beyond these. -/
structure Tally where
  states : Nat := 0
  links : Nat := 0

namespace Tally

/-- Most bytes that an automaton may take. -/
def limit : Nat := 10485760

/-- The bytes of an automaton. -/
def bytes (t : Tally) : Nat := 32 * t.states + t.links

/-- The tally if it is within the limit. -/
def check (t : Tally) : Option Tally := if t.bytes ≤ limit then some t else none

/-- Some more states and bytes. -/
def add (t : Tally) (states links : Nat) : Option Tally :=
  check ⟨t.states + states, t.links + links⟩

end Tally

/-- An automaton with a way out: whether the way out begins at a fork, which takes one more link for it. -/
abbrev Laid := Tally × Bool

/-- A way to lay out something behind what has been laid out. -/
abbrev Layer := Tally → Option Laid

/-- The links that lead out of some parts, where these end in forks. -/
def wayOut (forks : List Bool) : Nat := 4 * forks.count true

/-- Some plain states, without a fork at the end. -/
def plain (n : Nat) : Layer := fun t => (t.add n 0).map (·, false)

/-! Sets of characters. States that have been laid out are kept in a table of a fixed number of slots,
where a later one takes the place of an earlier one with the same slot, and are shared while they are
kept. -/

/-- A link to a state for a range of bytes. -/
structure Arrow where
  first : Nat
  last : Nat
  target : Nat
  deriving DecidableEq

/-- One more number in a hash. -/
def mix (h : UInt64) (n : Nat) : UInt64 := (h ^^^ n.toUInt64) * 1099511628211

/-- The hash of nothing. -/
def seed : UInt64 := 14695981039346656037

/-- The slot of a state by its arrows. -/
def slotOf (arrows : List Arrow) : UInt64 :=
  (arrows.foldl (fun h a => mix (mix (mix h a.first) a.last) a.target) seed) % 10000

/-- A state that is not complete: its arrows, and the range whose target is still open. -/
structure Draft where
  arrows : List Arrow := []
  pending : Option (Nat × Nat) := none

/-- Close the open range of a draft. -/
def Draft.settle (d : Draft) (target : Nat) : Draft :=
  match d.pending with
  | some (a, b) => { arrows := d.arrows ++ [⟨a, b, target⟩] }
  | none => d

/-- A set being laid out: where it leads, the states that are kept, and the drafts of a path from the
first state on. -/
structure SetDraft where
  tally : Tally
  goal : Nat
  kept : Std.HashMap UInt64 (List Arrow × Nat) := {}
  path : List Draft := [{}]

/-- Lay out a state with the given arrows, unless there is one. -/
def SetDraft.lay (s : SetDraft) (arrows : List Arrow) : SetDraft × Nat :=
  let slot := slotOf arrows
  let fresh : SetDraft × Nat :=
    let id := s.tally.states
    ({ s with
        tally := ⟨id + 1, s.tally.links + 8 * arrows.length⟩
        kept := s.kept.insert slot (arrows, id) }, id)
  match s.kept[slot]? with
  | some (known, id) => if known = arrows then (s, id) else fresh
  | none => fresh

/-- Lay out the drafts of the end of a path, the last one first, and return the first of the states. -/
def SetDraft.layPath (s : SetDraft) : List Draft → SetDraft × Nat
  | [] => (s, s.goal)
  | d :: rest =>
    let (s, target) := s.layPath rest
    s.lay (d.settle target).arrows

/-- How many drafts of a path wait for the ranges that a sequence begins with. -/
def sharedLength : List (Nat × Nat) → List Draft → Nat
  | r :: rs, d :: ds => if d.pending = some r then sharedLength rs ds + 1 else 0
  | _, _ => 0

/-- Close the path behind the first `n` drafts. -/
def SetDraft.closeFrom (s : SetDraft) (n : Nat) : SetDraft :=
  let (s, target) := s.layPath (s.path.drop (n + 1))
  { s with path := s.path.take n ++ ((s.path.drop n).take 1).map (·.settle target) }

/-- Add a sequence of byte ranges. -/
def SetDraft.addSequence (s : SetDraft) (ranges : List (Nat × Nat)) : SetDraft :=
  let n := sharedLength ranges s.path
  let s := s.closeFrom n
  let tail := (ranges.drop n).map fun r => ({ pending := some r } : Draft)
  match s.path.drop n, tail with
  | d :: _, first :: rest => { s with path := s.path.take n ++ { d with pending := first.pending } :: rest }
  | _, _ => s

/-- Lay out a set that is read forwards. -/
def forwardSet (set : Ranges) : Layer := fun t =>
  let s : SetDraft := { tally := ⟨t.states + 1, t.links⟩, goal := t.states }
  let s := ((Utf8.sequences set).foldl SetDraft.addSequence s).closeFrom 0
  let (s, _) := s.lay (s.path.headD {}).arrows
  s.tally.check.map (·, false)

/-- Lay out the states of one sequence that is read backwards, from its first byte on, and return the
last of them. `kept` has the states that are kept by their slots. -/
def backwardSequence : List (Nat × Nat) → (state : Nat) → Tally × Std.HashMap UInt64 (Arrow × Nat) →
    Tally × Std.HashMap UInt64 (Arrow × Nat)
  | [], _, (t, kept) => (⟨t.states, t.links + 4⟩, kept)
  | (a, b) :: rest, state, (t, kept) =>
    let slot := (mix (mix (mix seed state) a) b) % 1000
    let arrow : Arrow := ⟨a, b, state⟩
    let known := (kept[slot]?).bind fun (other, id) => if other = arrow then some id else none
    match known with
    | some id => backwardSequence rest id (t, kept)
    | none => backwardSequence rest t.states (⟨t.states + 1, t.links⟩, kept.insert slot (arrow, t.states))

/-- Lay out a set that is read backwards. -/
def backwardSet (set : Ranges) : Layer := fun t =>
  let goal := t.states + 1
  let (t, _) := (Utf8.sequences set).foldl (fun acc ranges => backwardSequence ranges goal acc)
    (⟨t.states + 2, t.links⟩, {})
  t.check.map (·, false)

/-- Lay out a set. ASCII characters need no table. -/
def laySet (backward : Bool) (set : Ranges) : Layer :=
  if set.all fun r => r.2 < 0x80 then fun t => (t.add 2 (8 * set.length)).map (·, false)
  else if backward then backwardSet set
  else forwardSet set

/-! Choices. -/

/-- Cut a list of endings where the empty ending stands. -/
def cutAtEmpty : List (List Nat) → List (List (List Nat))
  | [] => [[]]
  | [] :: rest => [] :: cutAtEmpty rest
  | ending :: rest =>
    match cutAtEmpty rest with
    | part :: parts => (ending :: part) :: parts
    | [] => [[ending]]

/-- Endings by their first byte. -/
def byFirst (endings : List (List Nat)) : List (Nat × List (List Nat)) :=
  endings.foldl
    (fun groups ending =>
      match ending with
      | [] => groups
      | b :: rest =>
        if groups.any (·.1 == b) then groups.map fun g => if g.1 = b then (b, g.2 ++ [rest]) else g
        else groups ++ [(b, [rest])])
    []

/-- What a tree of texts takes that share their beginnings: a state for each place where texts go on
differently, and for what goes on from there with and without an end in between. The first argument
bounds the length of the texts. -/
def textTree : Nat → List (List Nat) → Tally
  | 0, _ => {}
  | n + 1, endings =>
    let endings := if endings.head? == some [] then [] :: endings.dropWhile (· == []) else endings
    let parts := cutAtEmpty endings
    let groups := (parts.filter (· ≠ [])).map byFirst
    let own : Tally :=
      ⟨1 + groups.length, 4 * (groups.length + (parts.length - 1)) +
        groups.foldl (fun n g => n + if g.length = 1 then 0 else 8 * g.length) 0⟩
    groups.flatten.foldl
      (fun t g =>
        if g.2.all (· == []) then t
        else
          let inner := textTree n g.2
          ⟨t.states + inner.states, t.links + inner.links⟩)
      own

/-- The bytes of a pattern that is a text. -/
def textBytes? : Pattern → Option (List Nat)
  | text cs => some (cs.flatMap fun c => Utf8.bytes c.toNat)
  | _ => none

/-- Lay out a choice from texts. -/
def layTexts (backward : Bool) (texts : List (List Nat)) : Layer := fun t =>
  let texts := if backward then texts.map List.reverse else texts
  let tree := textTree (texts.foldl (fun n bytes => max n bytes.length) 0 + 1) texts
  (t.add (1 + tree.states) tree.links).map (·, false)

/-- Where a part stands: alone, as the second branch of a choice behind a first one that ends as given,
or as a later branch. -/
inductive Place
  | alone
  | second (firstEnds : Bool)
  | later

/-- Connect a branch to its choice. -/
def Place.connect : Place → Laid → Option Laid
  | alone, laid => some laid
  | second firstEnds, (t, ends) => (t.add 2 (8 + wayOut [firstEnds, ends])).map (·, false)
  | later, (t, ends) => (t.add 0 (4 + wayOut [ends])).map (·, false)

/-! Repetitions. -/

/-- Some more occurrences behind a part. -/
def exactlyMore (one : Layer) : Nat → Laid → Option Laid
  | 0, laid => some laid
  | n + 1, (t, ends) => do
    let (t, next) ← one t
    exactlyMore one n (← t.add 0 (wayOut [ends]), next)

/-- A fixed number of occurrences. -/
def exactly (one : Layer) : Nat → Layer
  | 0 => plain 1
  | n + 1 => fun t => (one t).bind (exactlyMore one n)

/-- Some occurrences of which each can be the last one. -/
def optionally (one : Layer) : Nat → Laid → Option Laid
  | 0, (t, ends) => (t.add 0 (wayOut [ends])).map (·, false)
  | n + 1, (t, ends) => do
    let (t, next) ← one (← t.add 1 0)
    optionally one n (← t.add 0 (8 + wayOut [ends]), next)

/-- Any number of occurrences from `least` on. -/
def atLeast (one : Layer) (consumes : Bool) : (least : Nat) → Layer
  | 0 => fun t => do
    if consumes then
      let (t, ends) ← one (← t.add 1 0)
      return (← t.add 0 (4 + wayOut [ends]), true)
    else
      let (t, ends) ← one t
      return (← t.add 3 (16 + wayOut [ends]), false)
  | 1 => fun t => do
    let (t, ends) ← one t
    return (← t.add 1 (4 + wayOut [ends]), true)
  | n + 2 => fun t => do
    let (t, front) ← exactly one (n + 1) t
    let (t, ends) ← one t
    return (← t.add 1 (4 + wayOut [front, ends]), true)

/-- Any number of occurrences between bounds. -/
def between (one : Layer) (consumes : Bool) (least : Nat) : Option Nat → Layer
  | none => atLeast one consumes least
  | some most => fun t =>
    if least = 0 ∧ most = 1 then do
      let (t, ends) ← one (← t.add 1 0)
      return (← t.add 1 (8 + wayOut [ends]), false)
    else if most ≤ least then exactly one least t
    else do
      let (t, ends) ← exactly one least t
      optionally one (most - least) (← t.add 1 0, ends)

/-- Lay out a pattern. What groups match is kept only by an automaton that reads forwards. -/
def lay (backward : Bool) : Pattern → Place → Layer
  | empty, place, t => (plain 1 t).bind place.connect
  | text cs, place, t =>
    (plain (cs.foldl (fun n c => n + Utf8.size c.toNat) 0) t).bind place.connect
  | chars set, place, t => (laySet backward set t).bind place.connect
  | look _ _, place, t => (plain 1 t).bind place.connect
  | seq p q, place, t => do
    if backward then
      let (t, ends) ← q.lay backward .alone t
      let (t, next) ← p.lay backward .alone t
      place.connect (← t.add 0 (wayOut [ends]), next)
    else
      let (t, ends) ← p.lay backward .alone t
      let (t, next) ← q.lay backward .alone t
      place.connect (← t.add 0 (wayOut [ends]), next)
  | alt p q, place, t =>
    match place, (alt p q).branches.mapM textBytes? with
    | .alone, some texts => layTexts backward texts t
    | .alone, none => do
      let (t, ends) ← p.lay backward .alone t
      q.lay backward (.second ends) t
    | place, _ => do
      let (t, _) ← place.connect (← p.lay backward .alone t)
      q.lay backward .later t
  | group _ p, place, t => do
    if backward then place.connect (← p.lay backward .alone t)
    else
      let (t, ends) ← p.lay backward .alone (← t.add 1 0)
      place.connect (← t.add 1 (wayOut [ends]), false)
  | times least most _ p, place, t =>
    (between (p.lay backward .alone) (p.minBytes.any (0 < ·)) least most t).bind place.connect

/-- Whether every match begins at the start of a text, or ends at its end. -/
def anchored (backward : Bool) : Pattern → Bool
  | look .textStart _ => !backward
  | look .textEnd _ => backward
  | seq p q =>
    if backward then q.anchored backward || (q.maxBytes == some 0 && p.anchored backward)
    else p.anchored backward || (p.maxBytes == some 0 && q.anchored backward)
  | alt p q => p.anchored backward && q.anchored backward
  | group _ p => p.anchored backward
  | times least _ _ p => 0 < least && p.anchored backward
  | _ => false

/-- Lay out the whole automaton of a pattern: what skips the text before a match, the pattern, and the
state that accepts. -/
def layWhole (backward : Bool) (p : Pattern) : Option Laid := do
  let t : Tally ← if p.anchored backward then Tally.add {} 1 0 else Tally.add {} 3 16
  if backward then
    let (t, ends) ← p.lay backward .alone t
    return (← t.add 1 (wayOut [ends]), false)
  else
    let (t, ends) ← p.lay backward .alone (← t.add 1 0)
    return (← t.add 2 (wayOut [ends]), false)

/-- Whether a pattern fits into the room that it may take. -/
def fits (p : Pattern) : Bool := (p.layWhole false).isSome && (p.layWhole true).isSome

end Pattern
end ExEditor
