import ExEditor.Shell.Command

/-! The words and signs of a command text. -/
namespace ExEditor
namespace Shell

/-- What is wrong with the text of a command. -/
inductive GrammarFault
  | unterminatedQuote
  | unterminatedBackquote
  | missingBrace
  | missingParentheses
  | badSubstitution
  | badLoopVariable
  /-- Something that cannot stand where it is, and what should stand there. -/
  | unexpected (found : Text) (expected : Option Text)
  deriving DecidableEq, Repr

/-- The fault as shown. -/
def GrammarFault.message : GrammarFault → Text
  | unterminatedQuote => "Syntax error: Unterminated quoted string"
  | unterminatedBackquote => "Syntax error: EOF in backquote substitution"
  | missingBrace => "Syntax error: Missing '\x7d'"
  | missingParentheses => "Syntax error: Missing '))'"
  | badSubstitution => "Bad substitution"
  | badLoopVariable => "Syntax error: Bad for loop variable"
  | unexpected found none => "Syntax error: " ++ found ++ " unexpected".toList
  | unexpected found (some expected) =>
    "Syntax error: " ++ found ++ " unexpected (expecting ".toList ++ expected ++ [')']

/-- A piece of a command text. -/
inductive Token
  | word (w : Word)
  /-- The number of the stream that the redirection behind it is for. -/
  | number (n : Nat)
  | sign (t : Text)
  | lineEnd
  | fault (f : GrammarFault)
  deriving DecidableEq, Repr

/-- Whether a character ends a word. -/
def endsWord (c : Char) : Bool := " \t\n;&|<>()".toList.contains c

/-- A word with one more character at its front. -/
def pushLiteral (c : Char) : Word → Word
  | .literal t :: w => .literal (c :: t) :: w
  | w => .literal [c] :: w

/-- A word with one more character between quotes at its front. -/
def pushQuoted (c : Char) : Word → Word
  | .quoted t :: w => .quoted (c :: t) :: w
  | w => .quoted [c] :: w

/-- What stands before the character that closes the brackets and quotes in `open'`, innermost first,
and what follows it. -/
def takeBalanced : Nat → (opened : List Char) → Text → Option (Text × Text)
  | 0, _, _ => none
  | _ + 1, [], _ => none
  | _ + 1, _ :: _, [] => none
  | n + 1, close :: opened, c :: t =>
    let keep (k : Nat) (opened : List Char) : Option (Text × Text) :=
      (takeBalanced n opened ((c :: t).drop k)).map fun (l, r) => ((c :: t).take k ++ l, r)
    if c = '\\' then keep 2 (close :: opened)
    else if c = close then
      if opened = [] then some ([], t) else keep 1 opened
    else if c = '"' then keep 1 ('"' :: close :: opened)
    else if c = '\'' && close ≠ '"' then
      match Text.splitFirst? (· = '\'') t with
      | some (body, _) => keep (body.length + 2) (close :: opened)
      | none => none
    else if c = '$' && t.head? == some '(' then keep 2 (')' :: close :: opened)
    else if c = '$' && t.head? == some '\x7b' then keep 2 ('\x7d' :: close :: opened)
    else if c = '(' && close = ')' then keep 1 (')' :: close :: opened)
    else keep 1 (close :: opened)

/-- What stands before a backquote, without the backslashes that quote inside it, and what follows. -/
def takeBackquoted : Text → Option (Text × Text)
  | [] => none
  | '`' :: t => some ([], t)
  | '\\' :: c :: t =>
    (takeBackquoted t).map fun (l, r) =>
      (if c = '`' || c = '\\' || c = '$' then c :: l else '\\' :: c :: l, r)
  | c :: t => (takeBackquoted t).map fun (l, r) => (c :: l, r)

/-- The name of a parameter at the front of a text. -/
def takeName : Text → Option (Text × Text)
  | [] => none
  | c :: t =>
    if isNameStart c then
      some ((c :: t).takeWhile isNamePart, (c :: t).dropWhile isNamePart)
    else if c.isDigit then some ([c], t)
    else if "@*#?$!-".toList.contains c then some ([c], t)
    else none

/-- What is done with a parameter, from what follows its name between braces. -/
def readAdjustment : Text → Except GrammarFault Adjustment
  | [] => .ok .nothing
  | ':' :: '-' :: w => .ok (.fallback true w)
  | '-' :: w => .ok (.fallback false w)
  | ':' :: '=' :: w => .ok (.assign true w)
  | '=' :: w => .ok (.assign false w)
  | ':' :: '+' :: w => .ok (.replacement true w)
  | '+' :: w => .ok (.replacement false w)
  | ':' :: '?' :: w => .ok (.demand true w)
  | '?' :: w => .ok (.demand false w)
  | '%' :: '%' :: p => .ok (.dropEnd true p)
  | '%' :: p => .ok (.dropEnd false p)
  | '#' :: '#' :: p => .ok (.dropStart true p)
  | '#' :: p => .ok (.dropStart false p)
  | [':'] => .error .missingBrace
  | _ => .error .badSubstitution

/-- The name of a parameter between braces, which may have several digits. -/
def takeLongName (t : Text) : Option (Text × Text) :=
  match t.takeWhile Char.isDigit with
  | [] => takeName t
  | digits => some (digits, t.drop digits.length)

/-- A parameter from what stands between its braces. -/
def readBraces (inQuotes : Bool) (t : Text) : Except GrammarFault Part :=
  match t with
  | '#' :: c :: rest =>
    match takeLongName (c :: rest) with
    | some (name, []) => .ok (.parameter name .length inQuotes)
    | _ => .error .badSubstitution
  | t =>
    match takeLongName t with
    | some (name, rest) => (readAdjustment rest).map fun a => .parameter name a inQuotes
    | none => .error .badSubstitution

/-- What follows a dollar sign, as a part of a word; a dollar sign that nothing follows stands for
itself. -/
def readDollar (inQuotes : Bool) (t : Text) : Except GrammarFault (Part × Text) :=
  let own : Part := if inQuotes then .quoted ['$'] else .literal ['$']
  match t with
  | '(' :: '(' :: rest =>
    match takeBalanced (rest.length + 1) [')'] rest with
    | some (source, ')' :: rest) => .ok (.value source inQuotes, rest)
    | _ => .error .missingParentheses
  | '(' :: rest =>
    match takeBalanced (rest.length + 1) [')'] rest with
    | some (source, rest) => .ok (.output source inQuotes, rest)
    | none => .error (.unexpected "end of file" (some "\")\""))
  | '\x7b' :: rest =>
    match takeBalanced (rest.length + 1) ['\x7d'] rest with
    | some (body, rest) => (readBraces inQuotes body).map (·, rest)
    | none => .error .missingBrace
  | t =>
    match takeName t with
    | some (name, rest) => .ok (.parameter name .nothing inQuotes, rest)
    | none => .ok (own, t)

/-- The parts of a word up to the character that ends it. Between double quotes this is another double
quote, or, with `closed` unset, only the end of the text. The first argument bounds their number. -/
def readParts : Nat → (inQuotes closed : Bool) → Text → Except GrammarFault (Word × Text)
  | 0, _, _, t => .ok ([], t)
  | n + 1, false, closed, t => do
    match t with
    | [] => return ([], [])
    | '\\' :: '\n' :: t => readParts n false closed t
    | '\\' :: c :: t =>
      let (w, rest) ← readParts n false closed t
      return (.quoted [c] :: w, rest)
    | '\'' :: t =>
      match Text.splitFirst? (· = '\'') t with
      | none => throw .unterminatedQuote
      | some (body, t) =>
        let (w, rest) ← readParts n false closed t
        return (.quoted body :: w, rest)
    | '"' :: t =>
      let (inner, t) ← readParts n true true t
      let (w, rest) ← readParts n false closed t
      return ((if inner = [] then [.quoted []] else inner) ++ w, rest)
    | '`' :: t =>
      match takeBackquoted t with
      | none => throw .unterminatedBackquote
      | some (source, t) =>
        let (w, rest) ← readParts n false closed t
        return (.output source false :: w, rest)
    | '$' :: t =>
      let (part, t) ← readDollar false t
      let (w, rest) ← readParts n false closed t
      return (part :: w, rest)
    | c :: t =>
      if closed && endsWord c then return ([], c :: t)
      let (w, rest) ← readParts n false closed t
      return (pushLiteral c w, rest)
  | n + 1, true, closed, t => do
    match t with
    | [] => if closed then throw .unterminatedQuote else return ([], [])
    | '\\' :: '\n' :: t => readParts n true closed t
    | '\\' :: c :: t =>
      let (w, rest) ← readParts n true closed t
      if c = '$' || c = '`' || c = '"' || c = '\\' then return (pushQuoted c w, rest)
      else return (pushQuoted '\\' (pushQuoted c w), rest)
    | '`' :: t =>
      match takeBackquoted t with
      | none => throw .unterminatedBackquote
      | some (source, t) =>
        let (w, rest) ← readParts n true closed t
        return (.output source true :: w, rest)
    | '$' :: t =>
      let (part, t) ← readDollar true t
      let (w, rest) ← readParts n true closed t
      return (part :: w, rest)
    | c :: t =>
      if closed && c = '"' then return ([], t)
      let (w, rest) ← readParts n true closed t
      return (pushQuoted c w, rest)

/-- A whole text as one word. -/
def Word.ofText (inQuotes : Bool) (t : Text) : Except GrammarFault Word :=
  (readParts (t.length + 1) inQuotes false t).map (·.1)

/-- Whether a part is quoted. -/
def Part.isQuoted : Part → Bool
  | quoted _ => true
  | _ => false

/-- The text of a word as it is written, without what quotes in it. -/
def Word.unquoted (w : Word) : Text :=
  w.flatMap fun
    | .literal t => t
    | .quoted t => t
    | _ => []

/-- The lines of a text up to one that is an ending, and what follows it. With `tabs` the tabs at the
front of the lines do not count. The first argument bounds the lines. -/
def takeDocument : Nat → (tabs : Bool) → (ending : Text) → Text → Text × Text
  | 0, _, _, t => ([], t)
  | n + 1, tabs, ending, t =>
    if t = [] then ([], [])
    else
      let line := t.takeWhile (· ≠ '\n')
      let rest := t.drop (line.length + 1)
      let line := if tabs then line.dropWhile (· = '\t') else line
      if line = ending then ([], rest)
      else
        let (more, rest) := takeDocument n tabs ending rest
        (line ++ '\n' :: more, rest)

/-- The text that a document stands for. Nothing is filled in if its ending is quoted. -/
def documentWord (ending : Word) (body : Text) : Except GrammarFault Word :=
  if ending.any Part.isQuoted then .ok [.quoted body]
  else (readParts (body.length + 1) true false body).map (·.1)

/-- Signs of more than one character, longest first. -/
def longSigns : List Text :=
  ["&&", "||", ";;", "<<-", "<<", ">>", "<&", ">&", "<>", ">|"].map String.toList

/-- The sign at the front of a text. -/
def takeSign (t : Text) : Option (Text × Text) :=
  match longSigns.find? (·.isPrefixOf t) with
  | some sign => some (sign, t.drop sign.length)
  | none =>
    match t with
    | c :: rest => if ";&|<>()".toList.contains c then some ([c], rest) else none
    | [] => none

/-- The pieces of a text. What is wrong with it is the last of them. -/
def tokensFrom : Nat → Text → List Token
  | 0, _ => []
  | n + 1, t =>
    match t with
    | [] => []
    | '\\' :: '\n' :: t => tokensFrom n t
    | '\n' :: t => .lineEnd :: tokensFrom n t
    | '#' :: t => tokensFrom n (t.dropWhile (· ≠ '\n'))
    | c :: rest =>
      if c = ' ' || c = '\t' then tokensFrom n rest
      else
        match takeSign (c :: rest) with
        | some (sign, rest) =>
          if sign = "<<".toList || sign = "<<-".toList then
            match readParts (rest.length + 1) false true (rest.dropWhile fun c => c = ' ' || c = '\t') with
            | .error f => [.fault f]
            | .ok ([], _) => .sign sign :: tokensFrom n rest
            | .ok (ending, rest) =>
              let line := rest.takeWhile (· ≠ '\n')
              let below := rest.drop (line.length + 1)
              let (body, below) :=
                takeDocument (below.length + 1) (sign.length = 3) (Word.unquoted ending) below
              match documentWord ending body with
              | .error f => [.fault f]
              | .ok w =>
                .sign sign :: .word w ::
                  tokensFrom n (line ++ if line.length < rest.length then '\n' :: below else [])
          else .sign sign :: tokensFrom n rest
        | none =>
          match readParts ((c :: rest).length + 1) false true (c :: rest) with
          | .error f => [.fault f]
          | .ok (w, rest) =>
            match plain? w, rest.head? with
            | some digits, some follows =>
              if digits.isNumeral && (follows = '<' || follows = '>') then
                .number digits.numeralValue :: tokensFrom n rest
              else .word w :: tokensFrom n rest
            | _, _ => .word w :: tokensFrom n rest

/-- The pieces of a command text. -/
def tokens (t : Text) : List Token := tokensFrom (t.length + 1) t

end Shell
end ExEditor
