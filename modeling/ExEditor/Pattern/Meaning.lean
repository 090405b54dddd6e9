import ExEditor.Pattern.Basic
import ExEditor.Pattern.Tree
import ExEditor.Unicode.Ranges
import ExEditor.Unicode.Folding

/-! What a written pattern means under the flags that are in force. Without the flag `u` a pattern knows
ASCII only, and what could stand for a part of another character is refused. -/
namespace ExEditor
namespace Pattern

open Unicode (Ranges)

/-- A set with everything that differs in case only from a member, if case does not count. -/
def Flags.fold (flags : Flags) (set : Ranges) : Ranges :=
  if flags.ignoreCase then if flags.unicode then .foldCase set else .foldAsciiCase set else set

/-- A set that has been read, or its complement. Members are folded before the complement is taken. -/
def Flags.finish (flags : Flags) (negated : Bool) (set : Ranges) : Option Ranges :=
  let set := flags.fold set
  if negated then if flags.unicode then some set.compl else none else some set

/-- The set of one character. -/
def Flags.single (flags : Flags) (l : Literal) : Option Ranges :=
  let n := l.char.toNat
  if flags.unicode || n < 0x80 then some [(n, n)] else none

/-- The set of a class that is named by a letter. -/
def Shorthand.set (unicode : Bool) : Shorthand → Ranges
  | digit => if unicode then Unicode.decimalNumber else [(48, 57)]
  | blank => if unicode then Unicode.whiteSpace else [(9, 13), (32, 32)]
  | word => if unicode then Unicode.wordCharacters else [(48, 57), (65, 90), (95, 95), (97, 122)]

/-- The set of a class that is named by a letter, or its complement. -/
def Flags.shorthand (flags : Flags) (negated : Bool) (s : Shorthand) : Option Ranges :=
  let set := s.set flags.unicode
  if negated then if flags.unicode then some set.compl else none else some set

/-- The set of a class that is named by a property. -/
def Flags.property (flags : Flags) (negated : Bool) (set : Ranges) : Option Ranges :=
  if flags.unicode then flags.finish negated set else none

/-- What an operator makes of two sets. -/
def SetOp.run : SetOp → Ranges → Ranges → Ranges
  | inter => Ranges.inter
  | diff => Ranges.diff
  | symmDiff => Ranges.symmDiff

/-- The characters of a written set. -/
def SetTree.meaning? (flags : Flags) : SetTree → Option Ranges
  | empty => some []
  | literal l => flags.single l
  | span first last => do
    let _ ← flags.single first
    let _ ← flags.single last
    return [(first.char.toNat, last.char.toNat)]
  | posix negated set => flags.finish negated set
  | shorthand negated s => flags.shorthand negated s
  | property negated set => flags.property negated set
  | nested negated s => (s.meaning? flags).bind (flags.finish negated)
  | also s t => do return .union (← s.meaning? flags) (← t.meaning? flags)
  | apply op s t => do return op.run (flags.fold (← s.meaning? flags)) (flags.fold (← t.meaning? flags))

/-- The pattern of one character. -/
def Flags.literal (flags : Flags) (l : Literal) : Option Pattern :=
  let n := l.char.toNat
  if !flags.unicode && l.asByte && 0x80 ≤ n then none
  else some (ofSet (if flags.unicode || n < 0x80 then flags.fold [(n, n)] else [(n, n)]))

/-- The pattern of a dot. -/
def Flags.dot (flags : Flags) : Option Pattern :=
  if !flags.unicode then none
  else if flags.dotAll then some (chars [(0, Ranges.top)])
  else if flags.rows then some (chars [(0, 9), (11, 12), (14, Ranges.top)])
  else some (chars [(0, 9), (11, Ranges.top)])

/-- The pattern of an assertion. -/
def Flags.look (flags : Flags) (a : Assertion) : Pattern :=
  let word (l : Look) := Pattern.look l !flags.unicode
  match a with
  | .lineStart =>
    Pattern.look (if flags.multiLine then if flags.rows then .rowStart else .lineStart else .textStart) false
  | .lineEnd =>
    Pattern.look (if flags.multiLine then if flags.rows then .rowEnd else .lineEnd else .textEnd) false
  | .textStart => Pattern.look .textStart false
  | .textEnd => Pattern.look .textEnd false
  | .wordBoundary => word .wordBoundary
  | .notWordBoundary => word .notWordBoundary
  | .wordStart => word .wordStart
  | .wordEnd => word .wordEnd
  | .wordStartHalf => word .wordStartHalf
  | .wordEndHalf => word .wordEndHalf

/-- The pattern of branches with their factors, both latest first. -/
def close (branches : List (List Pattern)) : Pattern :=
  alternation (branches.reverse.map fun factors => concat factors.reverse)

/-- The branches of a written pattern with their factors, both latest first, and the flags that are in
force behind it. A change of flags reaches to the end of the group around it. -/
def Tree.read? (flags : Flags) : Tree → Option (List (List Pattern) × Flags)
  | empty => some ([[]], flags)
  | .flags changes => some ([[]], flags.change changes)
  | literal l => (flags.literal l).map fun p => ([[p]], flags)
  | dot => flags.dot.map fun p => ([[p]], flags)
  | assertion a => some ([[flags.look a]], flags)
  | shorthand negated s => (flags.shorthand negated s).map fun r => ([[ofSet r]], flags)
  | property negated r => (flags.property negated r).map fun r => ([[ofSet r]], flags)
  | set negated s => ((s.meaning? flags).bind (flags.finish negated)).map fun r => ([[ofSet r]], flags)
  | times least most greedy t => do
    let (inside, flags) ← t.read? flags
    return ([[occurrences least most (greedy != flags.swapGreed) (close inside)]], flags)
  | group capture changes t => do
    let (inside, _) ← t.read? (flags.change changes)
    let p := close inside
    return ([[match capture with
      | some index => .group index p
      | none => p]], flags)
  | seq s t => do
    let (front, flags) ← s.read? flags
    let (last, flags) ← t.read? flags
    match front with
    | factors :: others => return ((close last :: factors) :: others, flags)
    | [] => return ([[close last]], flags)
  | alt s t => do
    let (front, flags) ← s.read? flags
    let (last, flags) ← t.read? flags
    return ([close last] :: front, flags)

/-- What a written pattern means, read with the given flags. -/
def Tree.meaning? (flags : Flags) (t : Tree) : Option Pattern :=
  (t.read? flags).map fun (branches, _) => close branches

end Pattern
end ExEditor
