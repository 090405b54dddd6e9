import ExEditor.Unicode.Alphabetic
import ExEditor.Unicode.Category

/-! Character classes that command text and patterns ask for: letters, digits, word characters. -/
namespace ExEditor
namespace Unicode

/-- Letters in the wide sense of the property Alphabetic. -/
def isAlphabetic (c : Char) : Bool := alphabetic.has c.toNat || newerAlphabetic.has c.toNat

/-- Letters and numbers of any kind, fractions and Roman numerals among them. -/
def isAlphanumeric (c : Char) : Bool :=
  isAlphabetic c || decimalNumber.has c.toNat || letterNumber.has c.toNat || otherNumber.has c.toNat
    || newerNumber.has c.toNat

/-- The word characters of patterns: letters, marks, decimal digits, connectors such as `_`, and the
two joiners. -/
def wordCharacters : Ranges :=
  .unions <| [(0x200C, 0x200D)] :: alphabetic :: ["m", "nd", "pc"].map fun name => (category? name).getD []

/-- Whether a character is a word character of patterns. -/
def isWord (c : Char) : Bool := wordCharacters.has c.toNat

end Unicode
end ExEditor
