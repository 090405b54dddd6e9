import ExEditor.Pattern.Budget
import ExEditor.Pattern.Meaning
import ExEditor.Pattern.Program
import ExEditor.Pattern.Reader

/-! Searching a text for a pattern. Of all matches the leftmost is found, and of those that start
there the one that the pattern prefers. All ways through the program are followed side by side, one
character at a time and the most preferred first. An instruction is entered at most once at each offset:
a later way to the same place can only fail again or is less preferred. -/
namespace ExEditor

/-- Where a pattern matched. The saves are slot and offset, latest first. -/
structure Match where
  start : Nat
  stop : Nat
  saves : List (Nat × Nat)
  deriving DecidableEq, Repr

/-- The span of a group, of which 0 is the whole match. -/
def Match.group? (m : Match) (index : Nat) : Option (Nat × Nat) :=
  if index = 0 then some (m.start, m.stop)
  else do return (← m.saves.lookup (2 * index), ← m.saves.lookup (2 * index + 1))

namespace Pattern

/-- A way through the program that began at `start` and has come to an address. -/
structure Thread where
  address : Nat
  start : Nat
  saves : List (Nat × Nat)

/-- Whether an assertion holds at an offset. -/
def lookHolds (hay : Array Char) (offset : Nat) (assertion : Look) (asciiWords : Bool) : Bool :=
  let isWord := if asciiWords then fun c => c.isAlphanum || c = '_' else Unicode.isWord
  assertion.holds isWord (if offset = 0 then none else hay[offset - 1]?) hay[offset]?

/-- Where an instruction leads that takes no character, most preferred first; none if it takes one. -/
def Thread.follow (hay : Array Char) (offset : Nat) (t : Thread) : Instruction → Option (List Thread)
  | .take _ => none
  | .check assertion asciiWords =>
    some (if lookHolds hay offset assertion asciiWords then [{ t with address := t.address + 1 }] else [])
  | .save slot => some [{ t with address := t.address + 1, saves := (slot, offset) :: t.saves }]
  | .fork preferNext ahead =>
    let next := { t with address := t.address + 1 }
    let other := { t with address := t.address + ahead }
    some (if preferNext then [next, other] else [other, next])
  | .loop preferBack back =>
    let next := { t with address := t.address + 1 }
    let other := { t with address := t.address - back }
    some (if preferBack then [other, next] else [next, other])
  | .jump ahead => some [{ t with address := t.address + ahead }]

/-- The threads at one offset. `seen` has for each address the last offset at which it was entered,
counted from 1, and `waiting` the threads that wait for a character or are complete, latest first. -/
structure Frontier where
  seen : Array Nat
  waiting : List Thread := []

/-- Follow threads, most preferred first, as far as they need no character. The first argument bounds
the threads still to be looked at. -/
def Frontier.spread (program : Array Instruction) (hay : Array Char) (offset : Nat) :
    Nat → List Thread → Frontier → Frontier
  | 0, _, f => f
  | _, [], f => f
  | n + 1, t :: rest, f =>
    if f.seen.getD t.address (offset + 1) = offset + 1 then spread program hay offset n rest f
    else
      let f := { f with seen := f.seen.setIfInBounds t.address (offset + 1) }
      match program[t.address]? with
      | none => spread program hay offset n rest { f with waiting := t :: f.waiting }
      | some instruction =>
        match t.follow hay offset instruction with
        | some threads => spread program hay offset n (threads ++ rest) f
        | none => spread program hay offset n rest { f with waiting := t :: f.waiting }

/-- Most threads that one thread can lead to at one offset. -/
def spreadBound (program : Array Instruction) : Nat := 2 * program.size + 2

/-- The threads in front of the first one that is complete: those behind it are less preferred. -/
def incomplete (program : Array Instruction) (threads : List Thread) : List Thread :=
  threads.takeWhile (·.address < program.size)

/-- The match of the first thread that is complete. -/
def complete? (program : Array Instruction) (offset : Nat) (threads : List Thread) : Option Match :=
  (threads.find? (program.size ≤ ·.address)).map fun t => ⟨t.start, offset, t.saves⟩

/-- The threads after a character, at the offset behind it. -/
def advance (program : Array Instruction) (hay : Array Char) (offset : Nat) (c : Char)
    (threads : List Thread) (seen : Array Nat) : Frontier :=
  threads.foldl
    (fun f (t : Thread) =>
      match program[t.address]? with
      | some (.take set) =>
        if set.has c.toNat then
          f.spread program hay (offset + 1) (spreadBound program) [{ t with address := t.address + 1 }]
        else f
      | _ => f)
    { seen }

/-- The match that the threads at an offset lead to, or else one that starts at the offset or at one of
the `n` offsets behind it. `best` is the match found so far, which only threads that are more preferred
replace. -/
def searchFrom (program : Array Instruction) (hay : Array Char) :
    (n offset : Nat) → Frontier → (best : Option Match) → Option Match
  | n, offset, f, best =>
    let f := if best.isSome then f
      else f.spread program hay offset (spreadBound program) [⟨0, offset, []⟩]
    let threads := incomplete program f.waiting.reverse
    let best := (complete? program offset f.waiting.reverse).orElse fun _ => best
    if threads.isEmpty && best.isSome then best
    else
      match n with
      | 0 => best
      | n + 1 =>
        match hay[offset]? with
        | some c => searchFrom program hay n (offset + 1) (advance program hay offset c threads f.seen) best
        | none => best

/-- The first match at or after an offset. -/
def search (program : Array Instruction) (hay : Array Char) (start : Nat) : Option Match :=
  if start ≤ hay.size then
    searchFrom program hay (hay.size - start) start { seen := Array.replicate (program.size + 1) 0 } none
  else none

/-- The matches from an offset on, each searched for where the one before it ended. An empty match is
not taken directly behind another match. The first argument bounds their number. -/
def searchAll (program : Array Instruction) (hay : Array Char) :
    Nat → Nat → Option Nat → List Match
  | 0, _, _ => []
  | n + 1, start, lastStop =>
    let found := (search program hay start).bind fun m =>
      if m.start = m.stop && lastStop == some m.stop then search program hay (start + 1) else some m
    match found with
    | some m => m :: searchAll program hay n m.stop (some m.stop)
    | none => []

/-- Deepest nesting that is accepted. -/
def depthLimit : Nat := 250

/-- The pattern that a text writes, read with the given flags. It may not be nested too deep or take too
much room. -/
def read? (flags : Flags) (t : Text) : Option Pattern := do
  let tree ← Tree.ofText? flags.ignoreBlank t
  guard (tree.depth ≤ depthLimit)
  let p ← tree.meaning? flags
  guard p.fits
  return p

end Pattern

/-- A matcher is a pattern that is ready to be searched for. -/
structure Matcher where
  program : Array Pattern.Instruction

namespace Matcher

/-- A matcher for a written pattern. -/
def ofText? (flags : Pattern.Flags) (t : Text) : Option Matcher :=
  (Pattern.read? flags t).map fun p => ⟨p.program⟩

/-- The first match in a text. -/
def find? (m : Matcher) (hay : Text) : Option Match := Pattern.search m.program hay.toArray 0

/-- All matches in a text that do not overlap, from left to right. -/
def findAll (m : Matcher) (hay : Text) : List Match :=
  Pattern.searchAll m.program hay.toArray (hay.length + 2) 0 none

/-- Whether the text has a match. -/
def isMatch (m : Matcher) (hay : Text) : Bool := (m.find? hay).isSome

end Matcher
end ExEditor
