import ExEditor.Shell.Quoting
import ExEditor.Shell.State

/-! What tools are given: options, the names of files, and the texts of these files. -/
namespace ExEditor
namespace Shell

/-- The options and the other words that a tool is given. -/
structure Given where
  options : List (Char × Text) := []
  operands : List Text := []
  deriving DecidableEq, Repr

/-- The options that a tool knows: letters alone, letters with a value, and long names for some. -/
structure Usage where
  tool : Text
  flags : Text := []
  valued : Text := []
  long : List (String × Char) := []
  /-- The status that a misuse ends with. -/
  misuse : Nat := 1

namespace Given

/-- Whether an option is given. -/
def has (g : Given) (letter : Char) : Bool := (g.options.lookup letter).isSome

/-- The value of an option, the last one given. -/
def value? (g : Given) (letter : Char) : Option Text := g.options.reverse.lookup letter

/-- One more option. -/
def withOption (g : Given) (letter : Char) (value : Text) : Given :=
  { g with options := (letter, value) :: g.options }

/-- One more word that is no option. -/
def withOperand (g : Given) (word : Text) : Given := { g with operands := word :: g.operands }

end Given

/-- Read a word of options in one letter each, the last of which may have a value behind it or in the
next word. The result says whether that word has been used. -/
def Usage.letters (u : Usage) (next : Option Text) : Text → Except Text (Given × Bool)
  | [] => .ok ({}, false)
  | c :: t =>
    if u.flags.contains c then
      (letters u next t).map fun (g, used) => (g.withOption c [], used)
    else if u.valued.contains c then
      if t ≠ [] then .ok ({ options := [(c, t)] }, false)
      else
        match next with
        | some word => .ok ({ options := [(c, word)] }, true)
        | none => .error ("option requires an argument -- '" ++ c :: "'".toList)
    else .error ("invalid option -- '" ++ c :: "'".toList)

/-- Read the words of a tool. Options may stand behind other words, up to a word of two hyphens. -/
def Usage.read (u : Usage) : List Text → Except Text Given
  | [] => .ok {}
  | word :: words =>
    match word with
    | ['-', '-'] => .ok { operands := words }
    | '-' :: '-' :: name =>
      let (name, value) := (Text.splitFirst? (· = '=') name).elim (name, none) fun (l, r) => (l, some r)
      match u.long.find? (·.1.toList == name) with
      | some (_, letter) => (read u words).map (·.withOption letter (value.getD []))
      | none => .error ("unrecognized option '" ++ word ++ "'".toList)
    | '-' :: c :: t => do
      let (found, used) ← u.letters words.head? (c :: t)
      let later ← read u (if used then words.drop 1 else words)
      return { later with options := found.options ++ later.options }
    | word => (read u words).map (·.withOperand word)
termination_by words => words.length
decreasing_by all_goals (simp; try split) <;> (simp; try omega)

/-- Carry out what a tool does with its options; a misuse is explained instead. -/
def Usage.apply (u : Usage) (words : List Text) (s : State) (act : Given → State) : State :=
  match u.read words with
  | .ok g => act g
  | .error complaint =>
    ((s.complain (u.tool ++ ": ".toList ++ complaint)).complain
      ("Try '" ++ u.tool ++ " --help' for more information.".toList)).finish u.misuse

namespace State

/-- The text of a file, or of the input if the name is a hyphen. -/
def source (s : State) (name : Text) : Except FileFault Text × State :=
  if name = ['-'] then
    let (t, s) := s.takeInput
    (.ok t, s)
  else (s.textOf name, s)

/-- The texts of files, or of the input if none is named. Those that cannot be read are complained about,
and then the status is that of a failure. -/
def sourcesOf (complaint : Text → FileFault → Text) : List Text → State → List (Text × Text) × State
  | [], s => ([], s)
  | name :: names, s =>
    match s.source name with
    | (.ok t, s) =>
      let (found, s) := sourcesOf complaint names s
      ((name, t) :: found, s)
    | (.error fault, s) => sourcesOf complaint names ((s.complain (complaint name fault)).finish 1)

/-- The texts of files, as `sourcesOf`, with the usual complaint. -/
def sources (s : State) (tool : Text) (names : List Text) : List (Text × Text) × State :=
  sourcesOf (fun name fault => tool ++ ": ".toList ++ quotedIfNeeded name ++ ": ".toList ++ fault.cause)
    (if names = [] then [['-']] else names) (s.finish 0)

end State

/-- The pieces of a text that end in line ends; the last may have none. -/
def linesOf (t : Text) : List Text := Text.splitAfter (· = '\n') t

/-- A line without the line end. -/
def lineBody (line : Text) : Text := (Text.dropEnding? line ['\n']).getD line

/-- Whether a line has its line end. -/
def isWholeLine (line : Text) : Bool := line.getLast? == some '\n'

/-- The lines of a text without their line ends. -/
def bodiesOf (t : Text) : List Text := (linesOf t).map lineBody

/-- Lines with a line end each. -/
def ofBodies (lines : List Text) : Text := lines.flatMap (· ++ ['\n'])

/-- Change each line and leave its line end. -/
def mapLines (f : Text → Text) (t : Text) : Text :=
  (linesOf t).flatMap fun line => f (lineBody line) ++ if isWholeLine line then ['\n'] else []

/-- A number in decimal digits. -/
def natOf? (t : Text) : Option Nat := if t.isNumeral then some t.numeralValue else none

end Shell
end ExEditor
