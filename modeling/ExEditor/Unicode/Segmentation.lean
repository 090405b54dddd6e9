import ExEditor.Unicode.Property
import ExEditor.Unicode.Script

/-! The parts that characters play where a text is cut into letters as a reader sees them, into words
and into sentences. -/
namespace ExEditor
namespace Unicode

/-- Marks written in front of the numbers that they belong to, and halves of letters that do the same. -/
def prepended : Ranges :=
  .union (listed "prependedconcatenationmark")
    (.ofHex "D4E 111C2-111C3 113D1 1193F 11941 11A3A 11A84-11A89 11D46 11F02")

/-- The syllables of Korean that end in a vowel. -/
def openSyllables : Ranges := (List.range 399).map fun n => (0xAC00 + 28 * n, 0xAC00 + 28 * n)

/-- Marks that stand beside a letter and stay with it. -/
def besideLetters : Ranges :=
  (Ranges.union (inCategories ["mc"]) (.ofHex "E33 EB3")).diff <|
    .union graphemeExtend <|
      .ofHex "102B-102C 1038 1062-1064 1067-106D 1083 1087-108C 108F 109A-109C 1A61 1A63-1A64 AA7B AA7D
        11720-11721"

/-- The characters that play a part in cutting letters as a reader sees them. -/
def graphemePart? : String → Option Ranges
  | "control" | "cn" =>
    some ((Ranges.unions [inCategories ["zl", "zp", "cc", "cf"], (inCategories ["cn"]).inter defaultIgnorable]).diff
      (.unions [[(10, 10), (13, 13), (0x200C, 0x200D)], prepended, graphemeExtend]))
  | "cr" => some [(13, 13)]
  | "lf" => some [(10, 10)]
  | "extend" | "ex" => some (.union graphemeExtend (listed "emojimodifier"))
  | "l" => some (.ofHex "1100-115F A960-A97C")
  | "v" => some (.ofHex "1160-11A7 16D63 16D67-16D6A D7B0-D7C6")
  | "t" => some (.ofHex "11A8-11FF D7CB-D7FB")
  | "lv" => some openSyllables
  | "lvt" => some (Ranges.diff [(0xAC00, 0xD7A3)] openSyllables)
  | "prepend" | "pp" => some prepended
  | "regionalindicator" | "ri" => some (listed "regionalindicator")
  | "spacingmark" | "sm" => some besideLetters
  | "zwj" => some [(0x200D, 0x200D)]
  | _ => none

/-- Marks of any kind, as far as they join the character before them. -/
def joiningMarks : Ranges := .union graphemeExtend (inCategories ["mc"])

/-- Signs that are read with the number behind them. -/
def numberSigns : Ranges := .ofHex "600-605 6DD 890-891 8E2 110BD 110CD"

/-- Katakana, with the signs that are used with it. -/
def katakana : Ranges := .union ((script? "katakana").getD []) (.ofHex "3031-3035 309B-309C 30A0 30FC FF70")

/-- Letters of Hebrew. -/
def hebrewLetters : Ranges := ((script? "hebrew").getD []).inter (inCategories ["lo"])

/-- Scripts written without blanks between words, of which only a dictionary knows the words. -/
def withoutBlanks : List String :=
  ["thai", "lao", "myanmar", "khmer", "taile", "newtailue", "taitham", "taiviet", "ahom", "hiragana"]

/-- Letters of the words that a reader finds between blanks. -/
def wordLetters : Ranges :=
  (Ranges.union alphabetic <|
      .ofHex "2C2-2C5 2D2-2D7 2DE-2DF 2E5-2EB 2ED 2EF-2FF 55A-55C 55E 58A 5F3 70F A708-A716 A720-A721
        A789-A78A AB5B").diff <|
    .unions <|
      [listed "ideographic", katakana, joiningMarks, hebrewLetters] ++
        withoutBlanks.map fun name => (script? name).getD []

/-- The characters that play a part in cutting words. -/
def wordPart? : String → Option Ranges
  | "aletter" | "le" => some wordLetters
  | "cr" => some [(13, 13)]
  | "doublequote" | "dq" => some [(0x22, 0x22)]
  | "extend" => some ((Ranges.union joiningMarks (listed "emojimodifier")).diff [(0x200D, 0x200D)])
  | "extendnumlet" | "ex" => some (.union (inCategories ["pc"]) [(0x202F, 0x202F)])
  | "format" | "fo" =>
    some ((inCategories ["cf"]).diff (.unions [[(0x200B, 0x200D)], joiningMarks, prepended]))
  | "hebrewletter" | "hl" => some hebrewLetters
  | "katakana" | "ka" => some katakana
  | "lf" => some [(10, 10)]
  | "midletter" | "ml" => some (.ofHex "3A B7 387 55F 5F4 2027 FE13 FE55 FF1A")
  | "midnum" | "mn" =>
    some (.ofHex "2C 3B 37E 589 60C-60D 66C 7F8 2044 FE10 FE14 FE50 FE54 FF0C FF1B")
  | "midnumlet" | "mb" => some (.ofHex "2E 2018-2019 2024 FE52 FF07 FF0E")
  | "newline" | "nl" => some (.ofHex "B-C 85 2028-2029")
  | "numeric" | "nu" => some (.unions [decimalNumber, numberSigns, [(0x66B, 0x66B)]])
  | "regionalindicator" | "ri" => some (listed "regionalindicator")
  | "singlequote" | "sq" => some [(0x27, 0x27)]
  | "wsegspace" => some ((inCategories ["zs"]).diff (.ofHex "A0 2007 202F"))
  | "zwj" => some [(0x200D, 0x200D)]
  | _ => none

/-- Numbers in sentences. -/
def sentenceNumbers : Ranges := .unions [decimalNumber, numberSigns, [(0x66B, 0x66C)]]

/-- Small letters in sentences; Georgian has sentences without capitals. -/
def sentenceLower : Ranges :=
  lowercase.diff (.union graphemeExtend (.ofHex "10D0-10FA 10FD-10FF"))

/-- Capitals in sentences. -/
def sentenceUpper : Ranges :=
  (Ranges.union uppercase (inCategories ["lt"])).diff (.ofHex "1C90-1CBA 1CBD-1CBF")

/-- Full stops. -/
def fullStops : Ranges := .ofHex "2E 2024 FE52 FF0E"

/-- The characters that play a part in cutting sentences. -/
def sentencePart? : String → Option Ranges
  | "aterm" | "at" => some fullStops
  | "close" | "cl" =>
    some ((Ranges.union (inCategories ["ps", "pe", "pi", "pf"])
      (.ofHex "22 27 275B-2760 2E00-2E01 2E06-2E08 2E0B 1F676-1F678")).diff [(0x5F3, 0x5F3)])
  | "cr" => some [(13, 13)]
  | "extend" | "ex" => some (.union joiningMarks [(0x200D, 0x200D)])
  | "format" | "fo" =>
    some ((inCategories ["cf"]).diff (.unions [[(0x200C, 0x200D)], joiningMarks, numberSigns]))
  | "lf" => some [(10, 10)]
  | "lower" | "lo" => some sentenceLower
  | "numeric" | "nu" => some sentenceNumbers
  | "oletter" | "le" =>
    some ((Ranges.union alphabetic [(0x5F3, 0x5F3)]).diff
      (.unions [sentenceLower, sentenceUpper, joiningMarks]))
  | "scontinue" | "sc" =>
    some (.ofHex "2C-2D 3A-3B 37E 55D 60C-60D 7F8 1802 1808 2013-2014 3001 FE10-FE11 FE13-FE14 FE31-FE32
      FE50-FE51 FE54-FE55 FE58 FE63 FF0C-FF0D FF1A-FF1B FF64")
  | "sep" | "se" => some (.ofHex "85 2028-2029")
  | "sp" => some (whiteSpace.diff (.ofHex "A D 85 2028-2029"))
  | "sterm" | "st" => some ((listed "sentenceterminal").diff fullStops)
  | "upper" | "up" => some sentenceUpper
  | _ => none

end Unicode
end ExEditor
