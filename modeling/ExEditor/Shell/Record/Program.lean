import ExEditor.Shell.Command

/-! Programs that work on the records of a text, as `awk` runs them: rules with a test and a body, made
of statements and expressions. -/
namespace ExEditor
namespace Shell
namespace Record

/-- Operators between two values. -/
inductive Operator
  | add
  | sub
  | mul
  | div
  | mod
  | power
  | join
  | less
  | atMost
  | equal
  | unequal
  | greater
  | atLeast
  deriving DecidableEq, Repr

/-- Expressions. An index of several values is their texts with a separator between them. -/
inductive Expr
  | number (n : Rat)
  | text (t : Text)
  /-- A regular expression that stands alone asks whether the record matches. -/
  | pattern (t : Text)
  | name (name : Text)
  | field (index : Expr)
  | item (array : Text) (index : Expr)
  | isIn (array : Text) (index : Expr)
  | pair (first second : Expr)
  | assign (target : Expr) (operator : Option Operator) (value : Expr)
  /-- Add to a variable; the value is that from before or that from behind. -/
  | step (target : Expr) (amount : Int) (showsOld : Bool)
  | choice (check first second : Expr)
  | both (first second : Expr)
  | either (first second : Expr)
  | negation (e : Expr)
  | minus (e : Expr)
  | plus (e : Expr)
  | binary (operator : Operator) (first second : Expr)
  | matching (negated : Bool) (e pattern : Expr)
  | call (name : Text) (arguments : List Expr)

/-- Where a statement writes: to the output, or to a file. -/
inductive Target
  | output
  | file (appends : Bool) (name : Expr)

/-- Statements. -/
inductive Statement
  | value (e : Expr)
  | print (values : List Expr) (target : Target)
  | printf (values : List Expr) (target : Target)
  | branch (check : Expr) (body otherwise : Statement)
  /-- Repeat a body; the step is done before every check but the first. The check may come late. -/
  | loop (checksFirst : Bool) (check : Expr) (step body : Statement)
  | each (name array : Text) (body : Statement)
  | block (body : List Statement)
  | next
  | exit (status : Option Expr)
  | leave
  | again
  | remove (array : Text) (index : Option Expr)

/-- What a rule waits for. -/
inductive Test
  | first
  | last
  | always
  | holds (e : Expr)
  | between (start stop : Expr)

/-- A rule. One without a body shows the record. -/
structure Rule where
  test : Test
  body : Statement

/-- Functions that are called by their names. -/
def functionNames : List Text :=
  ["length", "substr", "index", "split", "sub", "gsub", "match", "sprintf", "int", "toupper", "tolower"].map
    String.toList

/-- Words that are no names. -/
def keywords : List Text :=
  ["BEGIN", "END", "if", "else", "while", "for", "do", "in", "next", "exit", "break", "continue", "delete",
    "print", "printf", "function", "getline", "return"].map String.toList

end Record
end Shell
end ExEditor
