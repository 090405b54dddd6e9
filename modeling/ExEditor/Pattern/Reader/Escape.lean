import ExEditor.Pattern.ClassName
import ExEditor.Pattern.Reader.Scan

/-! What a backslash makes of the characters behind it. -/
namespace ExEditor
namespace Pattern

open Unicode (Ranges)

/-- What one written atom stands for. -/
inductive Atom
  | literal (l : Literal)
  | assertion (a : Assertion)
  | shorthand (negated : Bool) (s : Shorthand)
  | property (negated : Bool) (set : Ranges)

/-- Characters that stand for themselves only after a backslash. -/
def isMeta (c : Char) : Bool := "\\.+*?()|[]\x7b\x7d^$#&-~".toList.contains c

/-- Characters that a backslash leaves as they are. -/
def isEscapable (c : Char) : Bool :=
  isMeta c || (c.toNat < 128 && !c.isAlphanum && c ≠ '<' && c ≠ '>')

/-- The class that follows `\p` or `\P`. -/
def readProperty (x negated : Bool) (t : Text) : Option (Atom × Text) := do
  let (name, rest) ←
    match skip x t with
    | '{' :: t => readBraced x false t
    | '\\' :: _ => none
    | c :: t => some ([c], skip x t)
    | [] => none
  let (unequal, set) ←
    match skip x t with
    | '{' :: _ => writtenClass? name
    | _ => (classNamed? (lookupName name)).map (false, ·)
  return (.property (negated != unequal) set, rest)

/-- The special word assertions, named in braces after `\b`. Braces that hold no letters are left for a
repetition. -/
def readWordAssertion (x : Bool) (t : Text) : Option (Assertion × Text) :=
  match t with
  | '{' :: inner =>
    match skip x inner with
    | [] => none
    | c :: _ =>
      if c.isAlpha || c = '-' then do
        let (name, rest) ← readBraced x false inner
        match String.ofList name with
        | "start" => return (.wordStart, rest)
        | "end" => return (.wordEnd, rest)
        | "start-half" => return (.wordStartHalf, rest)
        | "end-half" => return (.wordEndHalf, rest)
        | _ => none
      else some (.wordBoundary, t)
  | _ => some (.wordBoundary, t)

/-- The atom written after a backslash. -/
def readEscape (x : Bool) : Text → Option (Atom × Text)
  | [] => none
  | c :: t =>
    let literal (c : Char) : Option (Atom × Text) := some (.literal ⟨c, false⟩, t)
    match c with
    | 'x' => (readHex x 2 t).map fun (l, r) => (.literal l, r)
    | 'u' => (readHex x 4 t).map fun (l, r) => (.literal l, r)
    | 'U' => (readHex x 8 t).map fun (l, r) => (.literal l, r)
    | 'p' => readProperty x false t
    | 'P' => readProperty x true t
    | 'd' => some (.shorthand false .digit, t)
    | 's' => some (.shorthand false .blank, t)
    | 'w' => some (.shorthand false .word, t)
    | 'D' => some (.shorthand true .digit, t)
    | 'S' => some (.shorthand true .blank, t)
    | 'W' => some (.shorthand true .word, t)
    | 'a' => literal '\x07'
    | 'f' => literal '\x0c'
    | 't' => literal '\t'
    | 'n' => literal '\n'
    | 'r' => literal '\r'
    | 'v' => literal '\x0b'
    | 'A' => some (.assertion .textStart, t)
    | 'z' => some (.assertion .textEnd, t)
    | 'b' => (readWordAssertion x t).map fun (a, r) => (.assertion a, r)
    | 'B' => some (.assertion .notWordBoundary, t)
    | '<' => some (.assertion .wordStart, t)
    | '>' => some (.assertion .wordEnd, t)
    | c => if isEscapable c then literal c else none

/-- The pattern of an atom. -/
def Atom.toTree : Atom → Tree
  | literal l => .literal l
  | assertion a => .assertion a
  | shorthand negated s => .shorthand negated s
  | property negated set => .property negated set

end Pattern
end ExEditor
