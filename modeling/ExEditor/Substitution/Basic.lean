import ExEditor.Failure
import ExEditor.Pattern.Search

/-! Substitutions: their written form, and the text that takes the place of a match. -/
namespace ExEditor

/-- Ways to carry out a substitution. -/
structure SubstituteFlags where
  /-- Every match of a line, not just the first one. -/
  global : Bool := false
  /-- Ask before each replacement. -/
  confirm : Bool := false
  ignoreCase : Bool := false
  deriving DecidableEq, Repr

/-- A substitution as written. -/
structure Substitution where
  pattern : Text
  replacement : Text
  flags : SubstituteFlags
  deriving DecidableEq, Repr

/-- Set the flags that letters stand for, in addition to those that are set. -/
def SubstituteFlags.add (flags : SubstituteFlags) : Text → Except Failure SubstituteFlags
  | [] => .ok flags
  | c :: t =>
    if c = 'g' then add { flags with global := true } t
    else if c = 'c' then add { flags with confirm := true } t
    else if c = 'i' then add { flags with ignoreCase := true } t
    else .error (.malformed (.unsupportedSubstituteFlag c))

/-- The flags that a text writes; blanks do not count. -/
def SubstituteFlags.read (t : Text) : Except Failure SubstituteFlags :=
  SubstituteFlags.add {} (t.filter (! Unicode.isBlank ·))

namespace Substitution

/-- Stands for an escaped delimiter while a text is cut into its fields. -/
def standIn : Char := '\x01'

/-- Whether a character may delimit the fields of a substitution. -/
def isDelimiter (c : Char) : Bool := !Unicode.isAlphanumeric c && !Unicode.isBlank c && c ≠ '\\'

/-- The fields of a text between delimiters: pattern, replacement and flags, as far as they are
there. -/
def fields (delimiter : Char) (body : Text) : Text × Option (Text × Text) :=
  match body.splitFirst? (· = delimiter) with
  | none => (body, none)
  | some (pattern, rest) =>
    (pattern, some ((rest.splitFirst? (· = delimiter)).getD (rest, [])))

/-- The substitution written `/pattern/replacement/flags` with any delimiter. A replacement `~`
stands for the previous one. -/
def parse (t : Text) (previous : Option Text) : Except Failure Substitution :=
  match t with
  | [] => .error (.malformed (.missingDelimiter '/'))
  | delimiter :: body =>
    if !isDelimiter delimiter then .error (.malformed (.missingDelimiter '/'))
    else
      let restore (field : Text) : Text := field.map fun c => if c = standIn then delimiter else c
      match fields delimiter (Text.replacePair '\\' delimiter standIn body) with
      | (_, none) => .error (.malformed (.missingDelimiter delimiter))
      | (pattern, some (replacement, flags)) => do
        let flags ← SubstituteFlags.read flags
        if pattern = [] then throw (.malformed .emptyPattern)
        let pattern := restore pattern
        if restore replacement = ['~'] then
          match previous with
          | some replacement => return { pattern, replacement, flags }
          | none => throw (.malformed .noPreviousSubstitution)
        else return { pattern, replacement := restore replacement, flags }

/-- A matcher for the pattern. Lines are matched one by one, so `^` and `$` are the ends of the text
they are given. -/
def matcher (s : Substitution) (ignoreCase : Bool) : Except Failure Matcher :=
  match Matcher.ofText? { ignoreCase := ignoreCase || s.flags.ignoreCase } s.pattern with
  | some m => .ok m
  | none => .error (.malformed (.badPattern s.pattern))

end Substitution

/-- Case that a replacement is put into. -/
inductive CaseMode
  | asIs
  | upper
  | lower
  deriving DecidableEq, Repr

/-- Put a text into a case, character by character. -/
def CaseMode.apply : CaseMode → Text → Text
  | asIs, t => t
  | upper, t => t.toUpper
  | lower, t => t.toLower

/-- What a replacement expands to. `&` and `\0` stand for the match and `\1` to `\9` for its groups;
`\U`, `\L` and `\E` change the case of what follows; any other escaped character stands for itself. -/
def expandReplacement (group : Nat → Text) : CaseMode → Text → Text
  | _, [] => []
  | _, ['\\'] => ['\\']
  | mode, '\\' :: c :: t =>
    if c.isDigit then mode.apply (group (c.toNat - '0'.toNat)) ++ expandReplacement group mode t
    else if c = 'U' then expandReplacement group .upper t
    else if c = 'L' then expandReplacement group .lower t
    else if c = 'E' ∨ c = 'e' then expandReplacement group .asIs t
    else mode.apply [c] ++ expandReplacement group mode t
  | mode, c :: t =>
    (if c = '&' then mode.apply (group 0) else mode.apply [c]) ++ expandReplacement group mode t

/-- The text of a group of a match, empty if the group took no part in it. `matched` is the text that
was searched, from the start of the match on. -/
def Match.groupText (m : Match) (matched : Text) (index : Nat) : Text :=
  match m.group? index with
  | some (first, last) => (matched.drop (first - m.start)).take (last - first)
  | none => []

end ExEditor
