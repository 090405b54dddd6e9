import ExEditor.Pattern.Reader.Escape

/-! Sets of characters in brackets. -/
namespace ExEditor
namespace Pattern

open Unicode (Ranges)

/-- The classes that are named between colons inside a set. -/
def posixClasses : List (String × Ranges) :=
  [("alnum", [(48, 57), (65, 90), (97, 122)]), ("alpha", [(65, 90), (97, 122)]), ("ascii", [(0, 127)]),
   ("blank", [(9, 9), (32, 32)]), ("cntrl", [(0, 31), (127, 127)]), ("digit", [(48, 57)]),
   ("graph", [(33, 126)]), ("lower", [(97, 122)]), ("print", [(32, 126)]),
   ("punct", [(33, 47), (58, 64), (91, 96), (123, 126)]), ("space", [(9, 13), (32, 32)]),
   ("upper", [(65, 90)]), ("word", [(48, 57), (65, 90), (95, 95), (97, 122)]),
   ("xdigit", [(48, 57), (65, 70), (97, 102)])]

/-- A class `[:name:]` or `[:^name:]`, after its opening bracket. -/
def readPosix : Text → Option (SetTree × Text)
  | ':' :: t => do
    let (negated, t) := match t with
      | '^' :: t => (true, t)
      | t => (false, t)
    let name := t.takeWhile (· ≠ ':')
    match t.drop name.length with
    | ':' :: ']' :: rest => return (.posix negated (← posixClasses.lookup (String.ofList name)), rest)
    | _ => none
  | _ => none

/-- One atom of a set. -/
def readSetAtom (x : Bool) : Text → Option (Atom × Text)
  | [] => none
  | '\\' :: t => readEscape x t
  | c :: t => some (.literal ⟨c, false⟩, t)

/-- An atom as a part of a set. -/
def Atom.toSetTree? : Atom → Option SetTree
  | literal l => some (.literal l)
  | shorthand negated s => some (.shorthand negated s)
  | property negated set => some (.property negated set)
  | assertion _ => none

/-- One atom or one range of a set. A hyphen before a bracket or another hyphen makes no range. -/
def readSetPart (x : Bool) (t : Text) : Option (SetTree × Text) := do
  let (first, rest) ← readSetAtom x t
  match skip x rest with
  | [] => none
  | '-' :: after =>
    if peek x after == some ']' || peek x after == some '-' then
      return (← first.toSetTree?, '-' :: after)
    else
      let (last, rest) ← readSetAtom x (skip x after)
      match first, last with
      | .literal a, .literal b => if a.char ≤ b.char then return (.span a b, rest) else none
      | _, _ => none
  | rest => return (← first.toSetTree?, rest)

/-- Hyphens that stand for themselves, white space between them not counted. -/
def readHyphens (x : Bool) : (inComment : Bool) → Text → List SetTree × Text
  | _, [] => ([], [])
  | true, c :: t => readHyphens x (c ≠ '\n') t
  | false, c :: t =>
    if c = '-' then let (parts, rest) := readHyphens x false t; (.literal ⟨'-', false⟩ :: parts, rest)
    else if x && Unicode.isBlank c then readHyphens x false t
    else if x && c = '#' then readHyphens x true t
    else ([], c :: t)

/-- The opening of a set, after its bracket: whether it is negated, and the hyphens or the closing
bracket that stand for themselves at its front. -/
def readSetOpening (x : Bool) (t : Text) : Bool × List SetTree × Text :=
  let (negated, t) := match skip x t with
    | '^' :: t => (true, t)
    | t => (false, t)
  match readHyphens x false (skip x t) with
  | ([], ']' :: rest) => (negated, [.literal ⟨']', false⟩], rest)
  | (hyphens, rest) => (negated, hyphens, rest)

/-- What has been read of a set, joined to what stands left of the last operator. -/
def joinOperand (left : Option (SetOp × SetTree)) (parts : List SetTree) : SetTree :=
  let right := SetTree.ofList parts.reverse
  match left with
  | some (op, left) => .apply op left right
  | none => right

/-- The rest of a set, up to its closing bracket. `left` is what stands before the last operator and
`parts` what has been read behind it, latest first. The first argument bounds the parts still to come. -/
def readSetBody (x : Bool) :
    Nat → Option (SetOp × SetTree) → List SetTree → Text → Option (SetTree × Text)
  | 0, _, _, _ => none
  | n + 1, left, parts, t =>
    match skip x t with
    | [] => none
    | '[' :: t =>
      match readPosix t with
      | some (s, rest) => readSetBody x n left (s :: parts) rest
      | none => do
        let (negated, start, rest) := readSetOpening x t
        let (s, rest) ← readSetBody x n none start.reverse rest
        readSetBody x n left (.nested negated s :: parts) rest
    | ']' :: t => some (joinOperand left parts, t)
    | '&' :: '&' :: t => readSetBody x n (some (.inter, joinOperand left parts)) [] t
    | '-' :: '-' :: t => readSetBody x n (some (.diff, joinOperand left parts)) [] t
    | '~' :: '~' :: t => readSetBody x n (some (.symmDiff, joinOperand left parts)) [] t
    | t => do
      let (s, rest) ← readSetPart x t
      readSetBody x n left (s :: parts) rest

/-- A set, after its opening bracket. -/
def readSet (x : Bool) (t : Text) : Option (Tree × Text) := do
  let (negated, start, rest) := readSetOpening x t
  let (s, rest) ← readSetBody x (t.length + 1) none start.reverse rest
  return (.set negated s, rest)

end Pattern
end ExEditor
