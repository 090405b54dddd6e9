import ExEditor.Address.Scan
import ExEditor.Command.Verb
import ExEditor.Failure

/-! Taking a command line apart into its range, its verb and the text after it. -/
namespace ExEditor

/-- A command line in its parts. -/
structure Command where
  /-- Range text without blanks around it, empty if there is none. -/
  range : Text
  verb : Verb
  /-- Text after the verb, without blanks in front. -/
  text : Text
  /-- Whether an exclamation mark follows the word of the verb. -/
  bang : Bool
  deriving DecidableEq, Repr

namespace Command

/-- Letters `A` to `Z` in either case, which words are made of. -/
def isWordChar (c : Char) : Bool := c.isAlpha

/-- The verb at the front of a text that begins with a letter, and what follows its word. A `k` may
be followed directly by the name of a mark. -/
def readWord? (t : Text) : Option (Verb × Text) :=
  let word : Text := t.takeWhile isWordChar
  match Verb.ofWord? word with
  | some verb => some (verb, t.drop word.length)
  | none => if word.head? = some 'k' ∧ word.length = 2 then some (.mark, t.drop 1) else none

/-- The verb at the front of a text that begins with a sign, and what follows it. -/
def readSign? : Text → Option (Verb × Text)
  | '&' :: '&' :: t => some (.repeatSubstitute true, t)
  | '&' :: t => some (.repeatSubstitute false, t)
  | '~' :: t => some (.repeatWithSearch, t)
  | '!' :: t => some (.bang, t)
  | '=' :: t => some (.lineNumber, t)
  | '#' :: t => some (.number, t)
  | '@' :: t => some (.play, t)
  | c :: t =>
    if c = '>' ∨ c = '<' then
      let more := t.takeWhile (· = c)
      some (.shift (c = '>') (more.length + 1), t.drop more.length)
    else none
  | [] => none

/-- The verb at the front of a text, whether an exclamation mark follows its word, and the rest. -/
def readVerb? (t : Text) : Option (Verb × Bool × Text) :=
  if t.head?.any isWordChar then
    (readWord? t).map fun (verb, rest) =>
      match rest with
      | '!' :: rest => (verb, true, rest)
      | rest => (verb, false, rest)
  else (readSign? t).map fun (verb, rest) => (verb, false, rest)

/-- A command line without colons and blanks in front and without line breaks behind. -/
def bareLine (line : Text) : Text :=
  Text.dropEndWhile (fun c => c = '\n' || c = '\r')
    (Text.trimStart (line.trimStart.dropWhile (· = ':')))

/-- Take a command line apart. A blank line is no command. -/
def parse (line : Text) : Except Failure (Option Command) :=
  let line := bareLine line
  if line.isBlank then .ok none
  else
    let (range, rest) := Address.scanRange .address true line
    if rest = [] then .ok (some ⟨range.trim, .goto, [], false⟩)
    else
      match readVerb? rest with
      | none => .error (.malformed (.unknownCommand line.trim))
      | some (verb, bang, rest) =>
        let verb := match verb with
          | .global invert => .global (invert || bang)
          | verb => verb
        .ok (some ⟨range.trim, verb, rest.trimStart, bang⟩)

end Command
end ExEditor
