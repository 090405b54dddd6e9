import ExEditor.Text.Basic

/-! Shell commands as they are written: words with what is to be filled in, redirections, and the ways
to put commands together. -/
namespace ExEditor
namespace Shell

/-- What is done with the value of a parameter. Words and patterns are kept as written; with `orEmpty`
an empty value counts as none. -/
inductive Adjustment
  | nothing
  | length
  | fallback (orEmpty : Bool) (word : Text)
  | assign (orEmpty : Bool) (word : Text)
  | replacement (orEmpty : Bool) (word : Text)
  | demand (orEmpty : Bool) (word : Text)
  | dropStart (longest : Bool) (pattern : Text)
  | dropEnd (longest : Bool) (pattern : Text)
  deriving DecidableEq, Repr

/-- A part of a word. What is filled in between double quotes stays in one piece. -/
inductive Part
  | literal (t : Text)
  | quoted (t : Text)
  | parameter (name : Text) (adjustment : Adjustment) (inQuotes : Bool)
  /-- The output of a command. -/
  | output (source : Text) (inQuotes : Bool)
  /-- The value of an expression. -/
  | value (source : Text) (inQuotes : Bool)
  deriving DecidableEq, Repr

/-- A word is the list of its parts. -/
abbrev Word := List Part

/-- What a redirection does. -/
inductive RedirectKind
  | input
  | output
  | append
  | both
  | duplicate
  /-- Read the text that the target is. -/
  | document
  deriving DecidableEq, Repr

/-- A redirection of a numbered stream. -/
structure Redirect where
  number : Nat
  kind : RedirectKind
  target : Word
  deriving DecidableEq, Repr

/-- A command. -/
inductive Command
  | nothing
  | simple (assignments : List (Text × Word)) (words : List Word) (redirects : List Redirect)
  | pipeline (stages : List Command)
  | negation (body : Command)
  /-- The second runs if the first succeeds. -/
  | both (first second : Command)
  /-- The second runs if the first fails. -/
  | either (first second : Command)
  | sequence (first second : Command)
  | subshell (body : Command)
  | redirected (body : Command) (redirects : List Redirect)
  | branch (test body otherwise : Command)
  /-- A loop that goes on as long as its test succeeds, or, with `untilDone`, fails. -/
  | loop (untilDone : Bool) (test body : Command)
  | each (name : Text) (words : Option (List Word)) (body : Command)
  | choice (subject : Word) (arms : List (List Word × Command))
  | definition (name : Text) (body : Command)
  /-- A command with so many line ends in and below it. -/
  | located (below : Nat) (body : Command)

/-- Number of line ends in a part as it is written. -/
def Part.lineEnds : Part → Nat
  | literal t => t.count '\n'
  | quoted t => t.count '\n'
  | output source _ => source.count '\n'
  | value source _ => source.count '\n'
  | parameter _ adjustment _ =>
    match adjustment with
    | .nothing | .length => 0
    | .fallback _ t | .assign _ t | .replacement _ t | .demand _ t | .dropStart _ t | .dropEnd _ t => t.count '\n'

/-- Whether a character may begin a name. -/
def isNameStart (c : Char) : Bool := c.isAlpha || c = '_'

/-- Whether a character may stand in a name. -/
def isNamePart (c : Char) : Bool := c.isAlphanum || c = '_'

/-- Whether a text is a name. -/
def isName : Text → Bool
  | c :: t => isNameStart c && t.all isNamePart
  | [] => false

/-- The name and the word of an assignment. -/
def assignment? : Word → Option (Text × Word)
  | .literal t :: w =>
    match Text.splitFirst? (· = '=') t with
    | some (name, rest) =>
      if isName name then some (name, if rest = [] then w else .literal rest :: w) else none
    | none => none
  | _ => none

/-- The text of a word in which nothing is quoted or filled in. -/
def plain? : Word → Option Text
  | [.literal t] => some t
  | _ => none

end Shell
end ExEditor
