import ExEditor.Text.Basic

/-! The verbs of command lines, and the words and abbreviations that name them. -/
namespace ExEditor

/-- What a command does. -/
inductive Verb
  /-- A range alone: move the cursor to its last line. -/
  | goto
  | append
  | insert
  | change
  | delete
  | yank
  | put
  | copy
  | move
  | join
  | print
  | number
  | lineNumber
  | mark
  /-- Indent or outdent, once for each sign that is written. -/
  | shift (forward : Bool) (count : Nat)
  | sort
  /-- Filter a range through a shell command, or run the command alone. -/
  | bang
  | substitute
  | repeatSubstitute (keepFlags : Bool)
  /-- Repeat the last substitution with the last search pattern. -/
  | repeatWithSearch
  | global (invert : Bool)
  | cd
  | pwd
  | source
  | syntaxState
  | registers
  | marks
  | set
  | abbreviate
  | unabbreviate
  | map
  | unmap
  | play
  | undo
  | noHighlight
  | record
  | stop
  deriving DecidableEq, Repr

namespace Verb

/-- The name of a verb in messages. -/
def label : Verb → Text
  | goto => "Goto"
  | append => "Append"
  | insert => "Insert"
  | change => "Change"
  | delete => "Delete"
  | yank => "Yank"
  | put => "Put"
  | copy => "Copy"
  | move => "Move"
  | join => "Join"
  | print => "Print"
  | number => "Number"
  | lineNumber => "LineNumber"
  | mark => "Mark"
  | shift _ _ => "Shift"
  | sort => "Sort"
  | bang => "Bang"
  | substitute => "Substitute"
  | repeatSubstitute _ => "RepeatSubstitute"
  | repeatWithSearch => "RepeatWithSearch"
  | global _ => "Global"
  | cd => "Cd"
  | pwd => "Pwd"
  | source => "Source"
  | syntaxState => "Syntax"
  | registers => "Registers"
  | marks => "Marks"
  | set => "Set"
  | abbreviate => "Abbreviate"
  | unabbreviate => "Unabbreviate"
  | map => "Map"
  | unmap => "Unmap"
  | play => "Play"
  | undo => "Undo"
  | noHighlight => "NoHighlight"
  | record => "Record"
  | stop => "Stop"

/-- Whether the verb acts on lines, so that a range may stand before it. -/
def takesRange : Verb → Bool
  | cd | pwd | source | syntaxState | registers | marks | set | abbreviate | unabbreviate | map
  | unmap | undo | noHighlight | record | stop => false
  | _ => true

/-- The words for verbs, each with the length of its shortest abbreviation. The order is that in
which an abbreviation is looked up: by this length, and then by the alphabet. -/
def words : List (String × Nat × Verb) :=
  [("append", 1, append), ("change", 1, change), ("delete", 1, delete), ("global", 1, global false),
   ("insert", 1, insert), ("join", 1, join), ("k", 1, mark), ("move", 1, move), ("print", 1, print),
   ("substitute", 1, substitute), ("t", 1, copy), ("undo", 1, undo), ("vglobal", 1, global true),
   ("yank", 1, yank),
   ("abbreviate", 2, abbreviate), ("cd", 2, cd), ("copy", 2, copy), ("display", 2, registers),
   ("mark", 2, mark), ("number", 2, number), ("put", 2, put), ("pwd", 2, pwd), ("set", 2, set),
   ("source", 2, source), ("syntax", 2, syntaxState),
   ("chdir", 3, cd), ("map", 3, map), ("nohlsearch", 3, noHighlight), ("record", 3, record),
   ("registers", 3, registers), ("sort", 3, sort), ("unabbreviate", 3, unabbreviate),
   ("unmap", 3, unmap),
   ("stop", 4, stop),
   ("marks", 5, marks)]

/-- The verb of a word: the word as a whole, or else the first one that it abbreviates. -/
def ofWord? (word : Text) : Option Verb :=
  let whole := words.find? fun entry => entry.1.toList == word
  let shortened := words.find? fun entry =>
    entry.2.1 ≤ word.length && word.isPrefixOf entry.1.toList
  (whole.orElse fun _ => shortened).map (·.2.2)

end Verb
end ExEditor
