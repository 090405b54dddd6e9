import ExEditor.Text.Basic

/-! Patterns of file names: `*` stands for any text, `?` for any character, and brackets for one
character of a set. -/
namespace ExEditor
namespace Shell

/-- A part of a pattern. -/
inductive GlobPart
  | char (c : Char)
  | one
  | many
  | set (negated : Bool) (ranges : List (Char × Char))
  deriving DecidableEq, Repr

/-- A pattern. -/
abbrev Glob := List GlobPart

/-- Characters of a pattern as written, each with whether it is quoted. -/
abbrev Marked := List (Char × Bool)

/-- Characters of the classes that are named between colons. -/
def namedClass (name : Text) : List (Char × Char) :=
  match String.ofList name with
  | "alpha" => [('A', 'Z'), ('a', 'z')]
  | "digit" => [('0', '9')]
  | "alnum" => [('0', '9'), ('A', 'Z'), ('a', 'z')]
  | "upper" => [('A', 'Z')]
  | "lower" => [('a', 'z')]
  | "space" => [('\t', '\r'), (' ', ' ')]
  | "blank" => [('\t', '\t'), (' ', ' ')]
  | "punct" => [('!', '/'), (':', '@'), ('[', '`'), ('\x7b', '~')]
  | "xdigit" => [('0', '9'), ('A', 'F'), ('a', 'f')]
  | "cntrl" => [('\x00', '\x1f'), ('\x7f', '\x7f')]
  | "print" => [(' ', '~')]
  | "graph" => [('!', '~')]
  | _ => []

/-- Whether a part that stands for one character stands for this one. -/
def GlobPart.accepts : GlobPart → Char → Bool
  | char d, c => c = d
  | one, _ => true
  | many, _ => false
  | set negated ranges, c => ranges.any (fun (a, b) => a ≤ c && c ≤ b) != negated

namespace Glob

/-- The set in brackets, up to the closing bracket, and what follows it. A closing bracket may stand
first in it. The first argument bounds the number of its parts. -/
def readSet : Nat → (first : Bool) → Marked → Option (List (Char × Char) × Marked)
  | 0, _, _ => none
  | n + 1, first, t =>
    let put (found : List (Char × Char)) (t : Marked) : Option (List (Char × Char) × Marked) :=
      (readSet n false t).map fun (ranges, rest) => (found ++ ranges, rest)
    match t with
    | [] => none
    | (']', false) :: t => if first then put [(']', ']')] t else some ([], t)
    | ('[', false) :: (':', false) :: t =>
      let name := (t.takeWhile fun m => m.1 ≠ ':').map (·.1)
      match t.drop name.length with
      | (':', _) :: (']', _) :: rest => put (namedClass name) rest
      | _ => put [('[', '['), (':', ':')] t
    | (a, _) :: ('-', false) :: (b, q) :: t =>
      if b = ']' ∧ q = false then some ([(a, a), ('-', '-')], t) else put [(a, b)] t
    | (a, _) :: t => put [(a, a)] t

/-- A pattern from its characters. Where a bracket is not closed it stands for itself. The first
argument bounds the number of parts. -/
def ofMarkedFrom : Nat → Marked → Glob
  | 0, _ => []
  | n + 1, t =>
    match t with
    | [] => []
    | ('*', false) :: t => .many :: ofMarkedFrom n t
    | ('?', false) :: t => .one :: ofMarkedFrom n t
    | ('[', false) :: t =>
      let (negated, body) : Bool × Marked := match t with
        | ('!', false) :: body => (true, body)
        | ('^', false) :: body => (true, body)
        | body => (false, body)
      match readSet (body.length + 1) true body with
      | some (ranges, rest) => .set negated ranges :: ofMarkedFrom n rest
      | none => .char '[' :: ofMarkedFrom n t
    | (c, _) :: t => .char c :: ofMarkedFrom n t

/-- A pattern from its characters. -/
def ofMarked (t : Marked) : Glob := ofMarkedFrom t.length t

/-- Whether a pattern stands for the whole of a text. -/
def isMatch : Glob → Text → Bool
  | [], t => t = []
  | .many :: p, [] => isMatch p []
  | .many :: p, c :: t => isMatch p (c :: t) || isMatch (.many :: p) t
  | _ :: _, [] => false
  | q :: p, c :: t => q.accepts c && isMatch p t
termination_by p t => p.length + t.length

/-- Whether a pattern stands for more than one text. -/
def isOpen (p : Glob) : Bool :=
  p.any fun
    | .char _ => false
    | _ => true

/-- The text that a pattern without special parts stands for. -/
def plain (p : Glob) : Text :=
  p.filterMap fun
    | .char c => some c
    | _ => none

end Glob
end Shell
end ExEditor
