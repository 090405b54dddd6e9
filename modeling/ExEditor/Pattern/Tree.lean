import ExEditor.Unicode.Ranges

/-! Patterns as they are written, before the flags that are in force have been applied. -/
namespace ExEditor
namespace Pattern

open Unicode (Ranges)

/-- Ways of matching that a pattern starts with and may change inside. -/
structure Flags where
  ignoreCase : Bool := false
  multiLine : Bool := false
  dotAll : Bool := false
  swapGreed : Bool := false
  ignoreBlank : Bool := false
  rows : Bool := false
  unicode : Bool := true

/-- Set one flag by its letter. -/
def Flags.set? (flags : Flags) (on : Bool) : Char → Option Flags
  | 'i' => some { flags with ignoreCase := on }
  | 'm' => some { flags with multiLine := on }
  | 's' => some { flags with dotAll := on }
  | 'U' => some { flags with swapGreed := on }
  | 'x' => some { flags with ignoreBlank := on }
  | 'R' => some { flags with rows := on }
  | 'u' => some { flags with unicode := on }
  | _ => none

/-- Flags by their letters, each with its new state. -/
abbrev FlagChanges := List (Char × Bool)

/-- Make changes of flags. -/
def Flags.change (flags : Flags) (changes : FlagChanges) : Flags :=
  changes.foldl (fun flags (letter, on) => (flags.set? on letter).getD flags) flags

/-- A character, and whether it is written as a byte of two hexadecimal digits. -/
structure Literal where
  char : Char
  asByte : Bool := false

/-- Assertions as they are written; what the ends of a line are depends on the flags. -/
inductive Assertion
  | lineStart
  | lineEnd
  | textStart
  | textEnd
  | wordBoundary
  | notWordBoundary
  | wordStart
  | wordEnd
  | wordStartHalf
  | wordEndHalf

/-- The classes of letters `d`, `s` and `w`. -/
inductive Shorthand
  | digit
  | blank
  | word

/-- Operators between the operands of a set. -/
inductive SetOp
  | inter
  | diff
  | symmDiff

/-- What stands in a set. -/
inductive SetTree
  | empty
  | literal (l : Literal)
  | span (first last : Literal)
  /-- A class such as `[:alpha:]`. -/
  | posix (negated : Bool) (set : Ranges)
  | shorthand (negated : Bool) (s : Shorthand)
  | property (negated : Bool) (set : Ranges)
  | nested (negated : Bool) (s : SetTree)
  /-- Parts that stand side by side, nested to the left. -/
  | also (s t : SetTree)
  | apply (op : SetOp) (s t : SetTree)

/-- A written pattern. Sequences and choices are nested to the left. -/
inductive Tree
  | empty
  | flags (changes : FlagChanges)
  | literal (l : Literal)
  | dot
  | assertion (a : Assertion)
  | shorthand (negated : Bool) (s : Shorthand)
  | property (negated : Bool) (set : Ranges)
  | set (negated : Bool) (s : SetTree)
  | times (least : Nat) (most : Option Nat) (greedy : Bool) (t : Tree)
  | group (capture : Option Nat) (changes : FlagChanges) (t : Tree)
  | seq (s t : Tree)
  | alt (s t : Tree)

/-- Whether parts stand side by side in a set. -/
def SetTree.isAlso : SetTree → Bool
  | also _ _ => true
  | _ => false

/-- How deep a set is nested. Parts side by side are on one level. -/
def SetTree.depth : SetTree → Nat
  | nested _ s => s.depth + 1
  | also s t => max (s.depth + if s.isAlso then 0 else 1) (t.depth + 1)
  | apply _ s t => max s.depth t.depth + 1
  | _ => 0

/-- Whether a pattern is a sequence. -/
def Tree.isSeq : Tree → Bool
  | seq _ _ => true
  | _ => false

/-- Whether a pattern is a choice. -/
def Tree.isAlt : Tree → Bool
  | alt _ _ => true
  | _ => false

/-- How deep a pattern is nested. The factors of a sequence are on one level, and so are the branches
of a choice. -/
def Tree.depth : Tree → Nat
  | set _ s => s.depth + 1
  | times _ _ _ t => t.depth + 1
  | group _ _ t => t.depth + 1
  | seq s t => max (s.depth + if s.isSeq then 0 else 1) (t.depth + 1)
  | alt s t => max (s.depth + if s.isAlt then 0 else 1) (t.depth + 1)
  | _ => 0

/-- Parts of a set side by side. -/
def SetTree.ofList : List SetTree → SetTree
  | [] => empty
  | s :: rest => rest.foldl also s

/-- Factors one after the other. -/
def Tree.sequence : List Tree → Tree
  | [] => empty
  | t :: rest => rest.foldl seq t

/-- A choice from branches. -/
def Tree.choice : List Tree → Tree
  | [] => empty
  | t :: rest => rest.foldl alt t

end Pattern
end ExEditor
