import ExEditor.Unicode.Word

/-! Assertions of patterns about the position between two characters. -/
namespace ExEditor

/-- Assertions about a position, which consume nothing. -/
inductive Look
  | textStart
  | textEnd
  | lineStart
  | lineEnd
  | rowStart
  | rowEnd
  | wordBoundary
  | notWordBoundary
  | wordStart
  | wordEnd
  | wordStartHalf
  | wordEndHalf
  deriving DecidableEq, Repr

/-- Whether an assertion holds between two neighbouring characters, either of which is missing at an
end of the text. A `line` ends before a line feed; a `row` also ends before a carriage return, and
never between the two of a pair. Words are made of the characters that `isWord` accepts. -/
def Look.holds (isWord : Char → Bool) (before after : Option Char) : Look → Bool
  | textStart => before.isNone
  | textEnd => after.isNone
  | lineStart => before.all (· = '\n')
  | lineEnd => after.all (· = '\n')
  | rowStart => before.all (· = '\n') || (before == some '\r' && after != some '\n')
  | rowEnd => after.all (· = '\r') || (after == some '\n' && before != some '\r')
  | wordBoundary => before.any isWord != after.any isWord
  | notWordBoundary => before.any isWord == after.any isWord
  | wordStart => !before.any isWord && after.any isWord
  | wordEnd => before.any isWord && !after.any isWord
  | wordStartHalf => !before.any isWord
  | wordEndHalf => !after.any isWord

end ExEditor
