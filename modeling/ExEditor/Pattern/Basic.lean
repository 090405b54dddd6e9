import ExEditor.Pattern.Look
import ExEditor.Pattern.Utf8

/-! Patterns as trees in a reduced form. The functions that build patterns reduce them on the way: what
is written in several ways and means the same becomes the same tree where that is easy to see. -/
namespace ExEditor

open Unicode (Ranges)

/-- A pattern. Of two ways to match, the left branch of `alt` is tried first, and a greedy `times` tries
one more occurrence first. -/
inductive Pattern
  | empty
  | text (cs : List Char)
  | chars (set : Ranges)
  | look (assertion : Look) (asciiWords : Bool)
  | seq (p q : Pattern)
  | alt (p q : Pattern)
  | group (index : Nat) (p : Pattern)
  | times (least : Nat) (most : Option Nat) (greedy : Bool) (p : Pattern)
  deriving DecidableEq

namespace Pattern

/-- Bytes of the shortest text that could match, none if nothing can. -/
def minBytes : Pattern → Option Nat
  | empty => some 0
  | text cs => some (cs.foldl (fun n c => n + Utf8.size c.toNat) 0)
  | chars set => set.head?.map fun r => Utf8.size r.1
  | look _ _ => some 0
  | seq p q => do return (← p.minBytes) + (← q.minBytes)
  | alt p q => do return min (← p.minBytes) (← q.minBytes)
  | group _ p => p.minBytes
  | times least _ _ p => p.minBytes.map (least * ·)

/-- Bytes of the longest text that could match, none if there is no bound or nothing can match. -/
def maxBytes : Pattern → Option Nat
  | empty => some 0
  | text cs => some (cs.foldl (fun n c => n + Utf8.size c.toNat) 0)
  | chars set => set.getLast?.map fun r => Utf8.size r.2
  | look _ _ => some 0
  | seq p q => do return (← p.maxBytes) + (← q.maxBytes)
  | alt p q => do return max (← p.maxBytes) (← q.maxBytes)
  | group _ p => p.maxBytes
  | times _ most _ p => do return (← most) * (← p.maxBytes)

/-- Any one character of a set. -/
def ofSet : Ranges → Pattern
  | [(a, b)] => if a = b then text [Char.ofNat a] else chars [(a, b)]
  | set => chars set

/-- The patterns that follow one another in a pattern. -/
def factors : Pattern → List Pattern
  | seq p q => p.factors ++ q.factors
  | empty => []
  | p => [p]

/-- The patterns that a pattern chooses from. -/
def branches : Pattern → List Pattern
  | alt p q => p.branches ++ q.branches
  | p => [p]

/-- Texts that follow one another as one text. -/
def joinTexts : List Pattern → List Pattern
  | [] => []
  | p :: rest =>
    match p, joinTexts rest with
    | text cs, text ds :: others => text (cs ++ ds) :: others
    | p, others => p :: others

/-- A sequence of factors. -/
def ofFactors : List Pattern → Pattern
  | [] => empty
  | [p] => p
  | p :: rest => seq p (ofFactors rest)

/-- A choice from branches, of which there is one at least. -/
def ofBranches : List Pattern → Pattern
  | [] => empty
  | [p] => p
  | p :: rest => alt p (ofBranches rest)

/-- One pattern after the other. -/
def concat (ps : List Pattern) : Pattern := ofFactors (joinTexts (ps.flatMap factors))

/-- The set of a pattern that is a single character. -/
def singleChar? : Pattern → Option Ranges
  | text [c] => some [(c.toNat, c.toNat)]
  | _ => none

/-- The set of a pattern that is one character of a set. -/
def charSet? : Pattern → Option Ranges
  | chars set => some set
  | _ => none

/-- A choice from branches that have nothing in common at their front. A choice from single characters
only, or from sets only, is a set. -/
def choose (ps : List Pattern) : Pattern :=
  let ps := ps.flatMap branches
  match ps with
  | [p] => p
  | ps =>
    match (ps.mapM singleChar?).orElse fun _ => ps.mapM charSet? with
    | some sets => ofSet (.unions sets)
    | none => ofBranches ps

/-- The part that two lists have in common at their front. -/
def commonPrefix : List Pattern → List Pattern → List Pattern
  | p :: ps, q :: qs => if p = q then p :: commonPrefix ps qs else []
  | _, _ => []

/-- What several sequences have in common at their front, nothing unless all are sequences. -/
def sharedFront : List Pattern → List Pattern
  | [] => []
  | [p] =>
    match p with
    | seq _ _ => p.factors
    | _ => []
  | p :: rest =>
    match p with
    | seq _ _ => commonPrefix p.factors (sharedFront rest)
    | _ => []

/-- A choice from patterns, earlier ones preferred. What all branches have in common at their front is
written once before the choice. -/
def alternation (ps : List Pattern) : Pattern :=
  match choose ps with
  | alt p q =>
    let ps := (alt p q).branches
    match sharedFront ps with
    | [] => alt p q
    | front => concat (front ++ [choose (ps.map fun p => ofFactors (p.factors.drop front.length))])
  | p => p

/-- At least `least` and at most `most` occurrences. Of what consumes nothing one occurrence is as good
as many. -/
def occurrences (least : Nat) (most : Option Nat) (greedy : Bool) (p : Pattern) : Pattern :=
  let (least, most) :=
    if p.maxBytes = some 0 then (min least 1, some ((most.getD 1).min 1)) else (least, most)
  if most = some 0 then empty
  else if least = 1 ∧ most = some 1 then p
  else times least most greedy p

end Pattern
end ExEditor
