import ExEditor.Json.Basic

/-! Writing JSON, either on one line or laid out with two blanks for each level. -/
namespace ExEditor
namespace Json

/-- A hexadecimal digit. -/
def hexDigit (n : Nat) : Char := Nat.digitChar n

/-- A character inside a string. Quotes, backslashes and control characters are escaped. -/
def writeChar (c : Char) : Text :=
  if c = '"' then ['\\', '"']
  else if c = '\\' then ['\\', '\\']
  else if c = '\n' then ['\\', 'n']
  else if c = '\r' then ['\\', 'r']
  else if c = '\t' then ['\\', 't']
  else if c = '\x08' then ['\\', 'b']
  else if c = '\x0c' then ['\\', 'f']
  else if c.toNat < 0x20 then
    ['\\', 'u', '0', '0', hexDigit (c.toNat / 16), hexDigit (c.toNat % 16)]
  else [c]

/-- A string with its quotes. -/
def writeString (t : Text) : Text := '"' :: t.flatMap writeChar ++ ['"']

mutual

/-- A value on one line, without blanks. -/
def compact : Json → Text
  | null => "null"
  | bool true => "true"
  | bool false => "false"
  | number written => written
  | string t => writeString t
  | array items => '[' :: compactItems items ++ [']']
  | object fields => '\x7b' :: compactFields fields ++ ['\x7d']

/-- The items of an array on one line. -/
def compactItems : List Json → Text
  | [] => []
  | [j] => compact j
  | j :: rest => compact j ++ ',' :: compactItems rest

/-- The fields of an object on one line. -/
def compactFields : List (Text × Json) → Text
  | [] => []
  | [(name, j)] => writeString name ++ ':' :: compact j
  | (name, j) :: rest => writeString name ++ ':' :: compact j ++ ',' :: compactFields rest

end

/-- The start of a line at a level. -/
def newLine (level : Nat) : Text := '\n' :: List.replicate (2 * level) ' '

mutual

/-- A value laid out on several lines, at a level. What is empty stays on its line. -/
def pretty (level : Nat) : Json → Text
  | null => "null"
  | bool true => "true"
  | bool false => "false"
  | number written => written
  | string t => writeString t
  | array [] => ['[', ']']
  | array (j :: rest) =>
    '[' :: newLine (level + 1) ++ pretty (level + 1) j ++ prettyItems (level + 1) rest
      ++ newLine level ++ [']']
  | object [] => ['\x7b', '\x7d']
  | object ((name, j) :: rest) =>
    '\x7b' :: newLine (level + 1) ++ writeString name ++ ':' :: ' ' :: pretty (level + 1) j
      ++ prettyFields (level + 1) rest ++ newLine level ++ ['\x7d']

/-- The items after the first one. -/
def prettyItems (level : Nat) : List Json → Text
  | [] => []
  | j :: rest => ',' :: newLine level ++ pretty level j ++ prettyItems level rest

/-- The fields after the first one. -/
def prettyFields (level : Nat) : List (Text × Json) → Text
  | [] => []
  | (name, j) :: rest =>
    ',' :: newLine level ++ writeString name ++ ':' :: ' ' :: pretty level j ++ prettyFields level rest

end
end Json
end ExEditor
