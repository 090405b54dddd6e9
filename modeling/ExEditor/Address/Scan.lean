import ExEditor.Text.Basic

/-! Where addresses end and searches begin inside a command line. An address may hold a search
between delimiters, whose text is skipped as a whole, and marks, whose names may be any character. -/
namespace ExEditor
namespace Address

/-- Characters that begin an operand of the calculator. -/
def isOperandStart (c : Char) : Bool := c.isDigit || c = '.' || c = '$' || c = '\'' || c = '('

/-- Whether a search begins at the front of a text. A question mark always begins one. A slash
divides if it has an operand on both sides. -/
def startsSearch (atPartStart : Bool) : Text → Bool
  | '?' :: _ => true
  | '/' :: t => atPartStart || !(t.head?.any isOperandStart)
  | _ => false

/-- What stands before and after the first delimiter that no backslash precedes. A backslash always
takes the next character with it. -/
def splitAtDelimiter (delimiter : Char) : Text → Option (Text × Text)
  | [] => none
  | ['\\'] => none
  | '\\' :: c :: t => (splitAtDelimiter delimiter t).map fun (l, r) => ('\\' :: c :: l, r)
  | c :: t =>
    if c = delimiter then some ([], t)
    else (splitAtDelimiter delimiter t).map fun (l, r) => (c :: l, r)

/-- A pattern as written between delimiters, with the delimiter itself no longer escaped. -/
def unescapeDelimiter (delimiter : Char) (t : Text) : Text :=
  t.replacePair '\\' delimiter delimiter

/-- Where a scan stands. -/
inductive Inside
  | address
  | markName
  | pattern (delimiter : Char)
  | escape (delimiter : Char)

/-- The state after one more character. `blank` says that the present part is blank so far. -/
def Inside.next (blank : Bool) (c : Char) (t : Text) : Inside → Inside
  | address =>
    if c = '\'' then markName
    else if startsSearch blank (c :: t) then pattern c
    else address
  | markName => address
  | pattern delimiter =>
    if c = '\\' then escape delimiter else if c = delimiter then address else pattern delimiter
  | escape delimiter => pattern delimiter

/-- Characters that may stand in the range of a command outside searches and mark names. -/
def isRangeChar (c : Char) : Bool := c.isDigit || ".$%*+-() \t,;'/?".toList.contains c

/-- The range text at the front of a command line, and what follows it. -/
def scanRange : Inside → (blank : Bool) → Text → Text × Text
  | _, _, [] => ([], [])
  | inside, blank, c :: t =>
    let (stops, blank') : Bool × Bool := match inside with
      | .address => (!isRangeChar c, c = ',' || c = ';' || (blank && Unicode.isBlank c))
      | _ => (false, false)
    if stops then ([], c :: t)
    else
      let (range, rest) := scanRange (inside.next blank c t) blank' t
      (c :: range, rest)

/-- The parts of a range text, each with the separator that follows it. Separators inside searches,
mark names and parentheses do not count. -/
def splitParts : Inside → (depth : Nat) → (blank : Bool) → Text → List (Text × Option Char)
  | _, _, _, [] => [([], none)]
  | inside, depth, blank, c :: t =>
    let plain := match inside with
      | .address => true
      | _ => false
    if plain && depth == 0 && (c = ',' || c = ';') then
      ([], some c) :: splitParts .address 0 true t
    else
      let depth' :=
        if plain && c = '(' then depth + 1 else if plain && c = ')' then depth - 1 else depth
      match splitParts (inside.next blank c t) depth' (blank && Unicode.isBlank c) t with
      | [] => []
      | (part, separator) :: rest => (c :: part, separator) :: rest

/-- The address before a search and the text of the search with its delimiters, if one is there. -/
def splitAtSearch : (atStart : Bool) → Text → Option (Text × Text)
  | _, [] => none
  | atStart, c :: t =>
    if startsSearch atStart (c :: t) then some ([], c :: t)
    else (splitAtSearch false t).map fun (l, r) => (c :: l, r)

end Address
end ExEditor
