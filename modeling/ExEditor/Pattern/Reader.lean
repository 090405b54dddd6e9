import ExEditor.Pattern.Reader.Set
import ExEditor.Unicode.Word

/-! Reading a pattern from its written form. The reader walks the text once and keeps the groups
that are open; a text that is no pattern gives `none`. -/
namespace ExEditor
namespace Pattern

/-- Flag letters up to the closing `)` or `:`, which is left in the rest. A letter may stand once,
and a minus, after which flags are cleared, once and not at the end. -/
def readFlags (changes : FlagChanges) (seen : List Char) : Text → Option (FlagChanges × Text)
  | [] => none
  | c :: t =>
    if c = ')' ∨ c = ':' then
      if seen.head? = some '-' then none else some (changes, c :: t)
    else if seen.contains c then none
    else if c = '-' then readFlags changes (c :: seen) t
    else if (Flags.set? {} true c).isNone then none
    else readFlags ((c, !seen.contains '-') :: changes) (c :: seen) t

/-- A group that is open: its number if it captures, the flags that it changes, whether white space
counts around it, its finished branches and the parts of the present one, both latest first. -/
structure Level where
  capture : Option Nat := none
  changes : FlagChanges := []
  outerBlank : Bool := false
  branches : List Tree := []
  parts : List Tree := []

/-- The pattern inside a level. -/
def Level.body (level : Level) : Tree :=
  .choice (Tree.sequence level.parts.reverse :: level.branches).reverse

/-- Add a part to a level. -/
def Level.add (level : Level) (t : Tree) : Level := { level with parts := t :: level.parts }

/-- What the reader knows between two atoms. -/
structure Scan where
  ignoreBlank : Bool
  groups : Nat := 0
  names : List Text := []
  around : List Level := []
  level : Level := {}

/-- Whether a part can be repeated: a change of flags cannot. -/
def canRepeat : Tree → Bool
  | .flags _ => false
  | _ => true

/-- Apply a repetition to the part before it. -/
def Scan.repeat (scan : Scan) (bounds : Nat × Option Nat) (rest : Text) : Option (Scan × Text) :=
  match scan.level.parts with
  | part :: parts =>
    if canRepeat part then
      let (greedy, rest) := match rest with
        | '?' :: rest => (false, rest)
        | rest => (true, rest)
      let parts := .times bounds.1 bounds.2 greedy part :: parts
      some ({ scan with level := { scan.level with parts } }, rest)
    else none
  | [] => none

/-- Open a group. -/
def Scan.enter (scan : Scan) (capture : Option Nat) (changes : FlagChanges) : Scan :=
  { scan with
    ignoreBlank := (changes.lookup 'x').getD scan.ignoreBlank
    groups := scan.groups + (if capture.isSome then 1 else 0)
    around := scan.level :: scan.around
    level := { capture, changes, outerBlank := scan.ignoreBlank } }

/-- A group name, after its opening angle bracket. -/
def readName (t : Text) : Option (Text × Text) := do
  let (name, rest) ← Text.splitFirst? (· = '>') t
  let first ← name.head?
  guard (first = '_' || Unicode.isAlphabetic first)
  guard (name.tail.all fun c => c = '_' || c = '.' || c = '[' || c = ']' || Unicode.isAlphanumeric c)
  return (name, rest)

/-- Open a named group. -/
def Scan.openNamed (scan : Scan) (t : Text) : Option (Scan × Text) := do
  let (name, rest) ← readName t
  guard (!scan.names.contains name)
  return ({ scan.enter (some (scan.groups + 1)) [] with names := name :: scan.names }, rest)

/-- Change flags for what is left of the present group. -/
def Scan.changeFlags (scan : Scan) (changes : FlagChanges) : Scan :=
  { scan with
    ignoreBlank := (changes.lookup 'x').getD scan.ignoreBlank
    level := scan.level.add (.flags changes) }

/-- What an opening parenthesis begins: a group, a group with a name, flags for a group, or flags for
what is left of the present one. -/
def Scan.openGroup (scan : Scan) (t : Text) : Option (Scan × Text) :=
  match skip scan.ignoreBlank t with
  | '?' :: '=' :: _ | '?' :: '!' :: _ | '?' :: '<' :: '=' :: _ | '?' :: '<' :: '!' :: _ => none
  | '?' :: 'P' :: '<' :: t => scan.openNamed t
  | '?' :: '<' :: t => scan.openNamed t
  | '?' :: t => do
    let (changes, rest) ← readFlags [] [] t
    match rest with
    | ')' :: rest => if changes = [] then none else return (scan.changeFlags changes, rest)
    | _ :: rest => return (scan.enter none changes, rest)
    | [] => none
  | t => some (scan.enter (some (scan.groups + 1)) [], t)

/-- Read one atom, of which at least one character is left. -/
def Scan.step (scan : Scan) (c : Char) (t : Text) : Option (Scan × Text) :=
  let add (tree : Tree) (rest : Text) : Option (Scan × Text) :=
    some ({ scan with level := scan.level.add tree }, rest)
  let x := scan.ignoreBlank
  match c with
  | '(' => scan.openGroup t
  | ')' =>
    match scan.around with
    | [] => none
    | outer :: around =>
      let level := scan.level
      let group := Tree.group level.capture level.changes level.body
      some ({ scan with ignoreBlank := level.outerBlank, around, level := outer.add group }, t)
  | '|' =>
    let level := scan.level
    let branches := Tree.sequence level.parts.reverse :: level.branches
    some ({ scan with level := { level with branches, parts := [] } }, t)
  | '[' => (readSet x t).bind fun (set, rest) => add set rest
  | '?' => scan.repeat (0, some 1) t
  | '*' => scan.repeat (0, none) t
  | '+' => scan.repeat (1, none) t
  | '{' => (readBounds x t).bind fun (bounds, rest) => scan.repeat bounds (skip x rest)
  | '\\' => (readEscape x t).bind fun (atom, rest) => add atom.toTree rest
  | '.' => add .dot t
  | '^' => add (.assertion .lineStart) t
  | '$' => add (.assertion .lineEnd) t
  | c => add (.literal ⟨c, false⟩) t

/-- Read all atoms. The first argument bounds their number. -/
def Scan.run : Nat → Scan → Text → Option Tree
  | 0, _, _ => none
  | n + 1, scan, t =>
    match skip scan.ignoreBlank t with
    | [] => if scan.around.isEmpty then some scan.level.body else none
    | c :: t => (scan.step c t).bind fun (scan, rest) => run n scan rest

/-- The pattern that a text writes, white space counted or not at its front. -/
def Tree.ofText? (ignoreBlank : Bool) (t : Text) : Option Tree := Scan.run (t.length + 1) { ignoreBlank } t

end Pattern
end ExEditor
