import ExEditor.Shell.Decimal
import ExEditor.Shell.Record.Program

/-! Reading programs that work on records. Each function gives
what stands in front and what follows it; where a text is no program the fault is the text from the place
on that cannot be read. -/
namespace ExEditor
namespace Shell
namespace Record

/-- Skip blanks, line ends that are quoted, and comments. -/
def skip : (inComment : Bool) → Text → Text
  | _, [] => []
  | true, c :: t => if c = '\n' then c :: t else skip true t
  | false, '\\' :: '\n' :: t => skip false t
  | false, c :: t =>
    if c = ' ' || c = '\t' || c = '\r' then skip false t
    else if c = '#' then skip true t
    else c :: t

/-- Skip blanks. -/
def blanks (t : Text) : Text := skip false t

/-- Skip blanks, line ends and semicolons. The first argument bounds their number. -/
def gaps : Nat → (semicolons : Bool) → Text → Text
  | 0, _, t => t
  | n + 1, semicolons, t =>
    match blanks t with
    | '\n' :: t => gaps n semicolons t
    | ';' :: t => if semicolons then gaps n semicolons t else ';' :: t
    | t => t

/-- Skip line ends. -/
def lineEnds (t : Text) : Text := gaps (t.length + 1) false t

/-- Skip whatever may stand between statements. -/
def statementEnds (t : Text) : Text := gaps (t.length + 1) true t

/-- The text behind a sign, if it stands in front. -/
def after? (sign : String) (t : Text) : Option Text :=
  if sign.toList.isPrefixOf (blanks t) then some ((blanks t).drop sign.length) else none

/-- The text behind a sign that has to stand in front. -/
def after (sign : String) (t : Text) : Except Text Text :=
  match after? sign t with
  | some t => .ok t
  | none => .error (blanks t)

/-- The name or keyword in front. -/
def word? (t : Text) : Option (Text × Text) :=
  match blanks t with
  | c :: t =>
    if isNameStart c then
      let rest := t.takeWhile isNamePart
      some (c :: rest, t.drop rest.length)
    else none
  | [] => none

/-- The text behind a keyword, if it stands in front. -/
def afterWord? (keyword : String) (t : Text) : Option Text :=
  match word? t with
  | some (word, rest) => if word = keyword.toList then some rest else none
  | none => none

/-- The character that an escape in a text stands for, and what follows it. -/
def escaped : Text → Text × Text
  | 'n' :: t => (['\n'], t)
  | 't' :: t => (['\t'], t)
  | 'r' :: t => (['\r'], t)
  | 'a' :: t => (['\x07'], t)
  | 'b' :: t => (['\x08'], t)
  | 'f' :: t => (['\x0c'], t)
  | 'v' :: t => (['\x0b'], t)
  | '"' :: t => (['"'], t)
  | '/' :: t => (['/'], t)
  | '\\' :: t => (['\\'], t)
  | t =>
    match (t.take 3).takeWhile fun c => '0' ≤ c && c ≤ '7' with
    | [] => (['\\'], t)
    | digits =>
      ([Char.ofNat (digits.foldl (fun n c => 8 * n + (c.toNat - 48)) 0 % 256)], t.drop digits.length)

/-- A text up to its closing quote. The first argument bounds its characters. -/
def quoted : Nat → Text → Except Text (Text × Text)
  | 0, t => .error t
  | n + 1, t =>
    match t with
    | [] => .error []
    | '"' :: t => .ok ([], t)
    | '\n' :: t => .error ('\n' :: t)
    | '\\' :: t =>
      let (found, rest) := escaped t
      (quoted n rest).map fun (more, rest) => (found ++ more, rest)
    | c :: t => (quoted n t).map fun (more, rest) => (c :: more, rest)

/-- A text with its escapes replaced. The first argument bounds its characters. -/
def unescape : Nat → Text → Text
  | 0, t => t
  | n + 1, t =>
    match t with
    | [] => []
    | '\\' :: t => let (found, rest) := escaped t; found ++ unescape n rest
    | c :: t => c :: unescape n t

/-- A regular expression up to its closing slash. -/
def regular : Text → Except Text (Text × Text)
  | [] => .error []
  | '/' :: t => .ok ([], t)
  | '\n' :: t => .error ('\n' :: t)
  | '\\' :: '/' :: t => (regular t).map fun (more, rest) => ('/' :: more, rest)
  | '\\' :: c :: t => (regular t).map fun (more, rest) => ('\\' :: c :: more, rest)
  | c :: t => (regular t).map fun (more, rest) => (c :: more, rest)

/-- Whether a value can be assigned to an expression. -/
def Expr.isTarget : Expr → Bool
  | name _ | field _ | item _ _ => true
  | _ => false

/-- The operator of an assignment in front. -/
def assignment? (t : Text) : Option (Option Operator × Text) :=
  match blanks t with
  | '=' :: '=' :: _ => none
  | '=' :: t => some (none, t)
  | '+' :: '=' :: t => some (some .add, t)
  | '-' :: '=' :: t => some (some .sub, t)
  | '*' :: '=' :: t => some (some .mul, t)
  | '/' :: '=' :: t => some (some .div, t)
  | '%' :: '=' :: t => some (some .mod, t)
  | '^' :: '=' :: t => some (some .power, t)
  | _ => none

/-- How an expression stands: inside of the list of a `print`, where a greater sign is no comparison, and
inside of the head of a `for`, where `in` is no operator. -/
structure Place where
  inPrint : Bool := false
  inHead : Bool := false

/-- The comparison in front. -/
def Place.comparison? (place : Place) (t : Text) : Option (Operator × Text) :=
  match blanks t with
  | '<' :: '=' :: t => some (.atMost, t)
  | '<' :: t => some (.less, t)
  | '=' :: '=' :: t => some (.equal, t)
  | '!' :: '=' :: t => some (.unequal, t)
  | '>' :: '=' :: t => if place.inPrint then none else some (.atLeast, t)
  | '>' :: t => if place.inPrint then none else some (.greater, t)
  | _ => none

/-- The sum or product sign in front. -/
def arithmetic? (products : Bool) (t : Text) : Option (Operator × Text) :=
  if (assignment? t).isSome then none
  else
    match products, blanks t with
    | false, '+' :: t => some (.add, t)
    | false, '-' :: t => some (.sub, t)
    | true, '*' :: t => some (.mul, t)
    | true, '/' :: t => some (.div, t)
    | true, '%' :: t => some (.mod, t)
    | _, _ => none

/-- Whether a value that is joined to the one before it begins here. -/
def startsJoined (t : Text) : Bool :=
  match blanks t with
  | [] => false
  | c :: t =>
    if isNameStart c then
      match word? (c :: t) with
      | some (word, _) => !keywords.contains word
      | none => false
    else c.isDigit || c = '.' || c = '"' || c = '$' || c = '(' || c = '!' && t.head? ≠ some '='
      && t.head? ≠ some '~' || (c = '-' || c = '+') && t.head? = some c

mutual

/-- An expression. The first argument of each of these functions bounds how deep it is. -/
def expression : Nat → Place → Text → Except Text (Expr × Text)
  | 0, _, t => .error t
  | n + 1, place, t => do
    let (e, rest) ← choice n place t
    match if e.isTarget then assignment? rest else none with
    | some (operator, rest) =>
      let (v, rest) ← expression n place (lineEnds rest)
      return (.assign e operator v, rest)
    | none => return (e, rest)

/-- An expression with a question. -/
def choice : Nat → Place → Text → Except Text (Expr × Text)
  | 0, _, t => .error t
  | n + 1, place, t => do
    let (e, rest) ← either n place t
    match after? "?" rest with
    | some rest =>
      let (a, rest) ← expression n place (lineEnds rest)
      let (b, rest) ← expression n place (lineEnds (← after ":" (lineEnds rest)))
      return (.choice e a b, rest)
    | none => return (e, rest)

/-- Values of which one is enough. -/
def either : Nat → Place → Text → Except Text (Expr × Text)
  | 0, _, t => .error t
  | n + 1, place, t => do
    let (e, rest) ← both n place t
    match after? "||" rest with
    | some rest =>
      let (f, rest) ← either n place (lineEnds rest)
      return (.either e f, rest)
    | none => return (e, rest)

/-- Values that are all wanted. -/
def both : Nat → Place → Text → Except Text (Expr × Text)
  | 0, _, t => .error t
  | n + 1, place, t => do
    let (e, rest) ← contained n place t
    match after? "&&" rest with
    | some rest =>
      let (f, rest) ← both n place (lineEnds rest)
      return (.both e f, rest)
    | none => return (e, rest)

/-- Values that are looked up in arrays. -/
def contained : Nat → Place → Text → Except Text (Expr × Text)
  | 0, _, t => .error t
  | n + 1, place, t => do
    let (e, rest) ← matched n place t
    match if place.inHead then none else afterWord? "in" rest with
    | some rest =>
      match word? rest with
      | some (array, rest) => return (.isIn array e, rest)
      | none => throw rest
    | none => return (e, rest)

/-- Values that are compared with regular expressions. -/
def matched : Nat → Place → Text → Except Text (Expr × Text)
  | 0, _, t => .error t
  | n + 1, place, t => do
    let (e, rest) ← compared n place t
    match after? "!~" rest, after? "~" rest with
    | some rest, _ =>
      let (p, rest) ← compared n place rest
      return (.matching true e p, rest)
    | none, some rest =>
      let (p, rest) ← compared n place rest
      return (.matching false e p, rest)
    | none, none => return (e, rest)

/-- Values that are compared. -/
def compared : Nat → Place → Text → Except Text (Expr × Text)
  | 0, _, t => .error t
  | n + 1, place, t => do
    let (e, rest) ← joined n t
    match place.comparison? rest with
    | some (operator, rest) =>
      let (f, rest) ← joined n rest
      return (.binary operator e f, rest)
    | none => return (e, rest)

/-- Values next to one another. -/
def joined : Nat → Text → Except Text (Expr × Text)
  | 0, t => .error t
  | n + 1, t => do
    let (e, rest) ← added n false t
    moreJoined n e rest

/-- What is joined to a value. -/
def moreJoined : Nat → Expr → Text → Except Text (Expr × Text)
  | 0, _, t => .error t
  | n + 1, e, t =>
    if startsJoined t then do
      let (f, rest) ← added n false t
      moreJoined n (.binary .join e f) rest
    else .ok (e, t)

/-- Sums, or products inside of these. -/
def added : Nat → (products : Bool) → Text → Except Text (Expr × Text)
  | 0, _, t => .error t
  | n + 1, products, t => do
    let (e, rest) ← if products then signed n t else added n true t
    moreAdded n products e rest

/-- What is added to a value, or multiplied with it. -/
def moreAdded : Nat → (products : Bool) → Expr → Text → Except Text (Expr × Text)
  | 0, _, _, t => .error t
  | n + 1, products, e, t =>
    match arithmetic? products t with
    | some (operator, rest) => do
      let (f, rest) ← if products then signed n rest else added n true rest
      moreAdded n products (.binary operator e f) rest
    | none => .ok (e, t)

/-- A value with a sign in front. -/
def signed : Nat → Text → Except Text (Expr × Text)
  | 0, t => .error t
  | n + 1, t =>
    match blanks t with
    | '+' :: '+' :: _ | '-' :: '-' :: _ => raised n t
    | '-' :: t => do let (e, rest) ← signed n t; return (.minus e, rest)
    | '+' :: t => do let (e, rest) ← signed n t; return (.plus e, rest)
    | '!' :: t => do let (e, rest) ← signed n t; return (.negation e, rest)
    | t => raised n t

/-- A power. -/
def raised : Nat → Text → Except Text (Expr × Text)
  | 0, t => .error t
  | n + 1, t => do
    let (e, rest) ← stepped n t
    match if (assignment? rest).isSome then none else after? "^" rest with
    | some rest =>
      let (f, rest) ← signed n rest
      return (.binary .power e f, rest)
    | none => return (e, rest)

/-- A value that is counted up or down. -/
def stepped : Nat → Text → Except Text (Expr × Text)
  | 0, t => .error t
  | n + 1, t => do
    match blanks t with
    | '+' :: '+' :: t => let (e, rest) ← operand n t; return (.step e 1 false, rest)
    | '-' :: '-' :: t => let (e, rest) ← operand n t; return (.step e (-1) false, rest)
    | t =>
      let (e, rest) ← operand n t
      if e.isTarget then
        match after? "++" rest, after? "--" rest with
        | some rest, _ => return (.step e 1 true, rest)
        | none, some rest => return (.step e (-1) true, rest)
        | none, none => return (e, rest)
      else return (e, rest)

/-- Expressions with commas between them, up to a closing sign. -/
def list : Nat → (closing : String) → Text → Except Text (List Expr × Text)
  | 0, _, t => .error t
  | n + 1, closing, t =>
    match after? closing (lineEnds t) with
    | some rest => .ok ([], rest)
    | none => do
      let (e, rest) ← expression n {} (lineEnds t)
      match after? "," (lineEnds rest) with
      | some rest =>
        let (more, rest) ← list n closing (lineEnds rest)
        if more = [] then throw rest else return (e :: more, rest)
      | none => return ([e], ← after closing (lineEnds rest))

/-- A value with nothing around it. -/
def operand : Nat → Text → Except Text (Expr × Text)
  | 0, t => .error t
  | n + 1, t => do
    match blanks t with
    | [] => throw []
    | '$' :: t =>
      match blanks t with
      | '+' :: '+' :: _ | '-' :: '-' :: _ =>
        let (e, rest) ← stepped n t
        return (.field e, rest)
      | '-' :: t =>
        let (e, rest) ← operand n t
        return (.field (.minus e), rest)
      | t =>
        let (e, rest) ← operand n t
        return (.field e, rest)
    | '(' :: t =>
      let (values, rest) ← list n ")" t
      match values with
      | [] => throw rest
      | [e] => return (e, rest)
      | e :: others =>
        let index := others.foldl .pair e
        match afterWord? "in" rest with
        | some rest =>
          match word? rest with
          | some (array, rest) => return (.isIn array index, rest)
          | none => throw rest
        | none => throw rest
    | '"' :: t =>
      let (found, rest) ← quoted (t.length + 1) t
      return (.text found, rest)
    | '/' :: t =>
      let (found, rest) ← regular t
      return (.pattern found, rest)
    | c :: t =>
      match numeral? (c :: t), word? (c :: t) with
      | some (v, rest), _ => return (.number (double v), rest)
      | none, none => throw (c :: t)
      | none, some (word, rest) =>
        if keywords.contains word then throw (c :: t)
        else if functionNames.contains word then
          match rest with
          | '(' :: rest =>
            let (values, rest) ← list n ")" rest
            return (.call word values, rest)
          | rest =>
            match if word = "length".toList then none else after? "(" rest with
            | some rest =>
              let (values, rest) ← list n ")" rest
              return (.call word values, rest)
            | none => if word = "length".toList then return (.call word [], rest) else throw rest
        else
          match rest with
          | '[' :: rest =>
            let (values, rest) ← list n "]" rest
            match values with
            | [] => throw rest
            | e :: others => return (.item word (others.foldl .pair e), rest)
          | rest => return (.name word, rest)

end

/-- Most levels of an expression at the front of a text. -/
def depthBound (t : Text) : Nat := 20 * t.length + 100

/-- Whether a statement ends here, or its list of values. -/
def endsValues (t : Text) : Bool :=
  match blanks t with
  | [] => true
  | c :: _ => "\n;>\x7d".toList.contains c

/-- Values with commas between them, up to the end of the statement or the sign of a file. The first
argument bounds their number. -/
def values : Nat → Text → Except Text (List Expr × Text)
  | 0, t => .error t
  | n + 1, t => do
    let (e, rest) ← expression (depthBound t) { inPrint := true } t
    match after? "," rest with
    | some rest =>
      let (more, rest) ← values n (lineEnds rest)
      return (e :: more, rest)
    | none => return ([e], rest)

/-- What a `print` shows: nothing, a list in parentheses, or a list. -/
def shown (t : Text) : Except Text (List Expr × Text) :=
  if endsValues t then .ok ([], t)
  else
    match (after? "(" t).map fun inner => list (depthBound inner) ")" inner with
    | some (.ok (found, rest)) =>
      if endsValues rest && found ≠ [] then .ok (found, rest) else values (t.length + 1) t
    | _ => values (t.length + 1) t

/-- Where a statement writes. -/
def target (t : Text) : Except Text (Target × Text) := do
  let file (appends : Bool) (t : Text) : Except Text (Target × Text) := do
    let (e, rest) ← added (depthBound t) false t
    return (.file appends e, rest)
  match after? ">>" t, after? ">" t with
  | some rest, _ => file true rest
  | none, some rest => file false rest
  | none, none => return (.output, t)

/-- What follows a simple statement. -/
def ending (t : Text) : Except Text Text :=
  match blanks t with
  | [] => .ok []
  | '\n' :: t => .ok t
  | ';' :: t => .ok t
  | '\x7d' :: t => .ok ('\x7d' :: t)
  | t => .error t

/-- A simple statement, one that holds no others. -/
def simple (t : Text) : Except Text (Statement × Text) := do
  let plain (s : Statement) (rest : Text) : Except Text (Statement × Text) := return (s, rest)
  match word? t with
  | some (word, rest) =>
    match String.ofList word with
    | "print" =>
      let (es, rest) ← shown rest
      let (goal, rest) ← target rest
      return (.print es goal, rest)
    | "printf" =>
      let (es, rest) ← shown rest
      let (goal, rest) ← target rest
      if es.isEmpty then throw rest else return (.printf es goal, rest)
    | "next" => plain .next rest
    | "break" => plain .leave rest
    | "continue" => plain .again rest
    | "exit" =>
      if endsValues rest then return (.exit none, rest)
      else
        let (e, rest) ← expression (depthBound rest) {} rest
        return (.exit (some e), rest)
    | "delete" =>
      match word? rest with
      | none => throw rest
      | some (array, rest) =>
        match after? "[" rest with
        | none => return (.remove array none, rest)
        | some rest =>
          let (es, rest) ← list (depthBound rest) "]" rest
          match es with
          | [] => throw rest
          | e :: others => return (.remove array (some (others.foldl .pair e)), rest)
    | _ =>
      let (e, rest) ← expression (depthBound t) {} t
      return (.value e, rest)
  | none =>
    let (e, rest) ← expression (depthBound t) {} t
    return (.value e, rest)

/-- A check in parentheses. -/
def check (t : Text) : Except Text (Expr × Text) := do
  let t ← after "(" t
  let (e, rest) ← expression (depthBound t) {} t
  return (e, ← after ")" rest)

/-- The head of a loop over an array, after its opening parenthesis. -/
def overArray? (t : Text) : Option (Text × Text × Text) := do
  let (name, rest) ← word? t
  let rest ← afterWord? "in" rest
  let (array, rest) ← word? rest
  let rest ← after? ")" rest
  return (name, array, rest)

mutual

/-- A statement with what ends it. The first argument of each of these functions bounds the
statements. -/
def statement : Nat → Text → Except Text (Statement × Text)
  | 0, t => .error t
  | n + 1, t => do
    match blanks t with
    | '\x7b' :: t =>
      let (body, rest) ← statements n t
      return (.block body, rest)
    | ';' :: t => return (.block [], t)
    | t =>
      match word? t with
      | none => finished t
      | some (word, rest) =>
        match String.ofList word with
        | "if" =>
          let (e, rest) ← check rest
          let (body, rest) ← statement n (lineEnds rest)
          match afterWord? "else" (statementEnds rest) with
          | some rest =>
            let (otherwise, rest) ← statement n (lineEnds rest)
            return (.branch e body otherwise, rest)
          | none => return (.branch e body (.block []), rest)
        | "while" =>
          let (e, rest) ← check rest
          let (body, rest) ← statement n (lineEnds rest)
          return (.loop true e (.block []) body, rest)
        | "do" =>
          let (body, rest) ← statement n (lineEnds rest)
          match afterWord? "while" (statementEnds rest) with
          | none => throw rest
          | some rest =>
            let (e, rest) ← check rest
            return (.loop false e (.block []) body, ← ending rest)
        | "for" => forLoop n (← after "(" rest)
        | _ => finished t

/-- A simple statement with what ends it. -/
def finished (t : Text) : Except Text (Statement × Text) := do
  let (s, rest) ← simple t
  return (s, ← ending rest)

/-- A loop, after its opening parenthesis. -/
def forLoop : Nat → Text → Except Text (Statement × Text)
  | 0, t => .error t
  | n + 1, t => do
    match overArray? t with
    | some (name, array, rest) =>
      let (body, rest) ← statement n (lineEnds rest)
      return (.each name array body, rest)
    | none =>
      let (first, rest) ← match after? ";" t with
        | some rest => pure (Statement.block [], rest)
        | none => do
          let (s, rest) ← simple t
          pure (s, ← after ";" rest)
      let (e, rest) ← match after? ";" (lineEnds rest) with
        | some rest => pure (Expr.number 1, rest)
        | none => do
          let (e, rest) ← expression (depthBound rest) {} (lineEnds rest)
          pure (e, ← after ";" rest)
      let (step, rest) ← match after? ")" (lineEnds rest) with
        | some rest => pure (Statement.block [], rest)
        | none => do
          let (s, rest) ← simple (lineEnds rest)
          pure (s, ← after ")" rest)
      let (body, rest) ← statement n (lineEnds rest)
      return (.block [first, .loop true e step body], rest)

/-- Statements up to the closing brace. -/
def statements : Nat → Text → Except Text (List Statement × Text)
  | 0, t => .error t
  | n + 1, t => do
    match statementEnds t with
    | [] => throw []
    | '\x7d' :: t => return ([], t)
    | t =>
      let (s, rest) ← statement n t
      let (more, rest) ← statements n rest
      return (s :: more, rest)

end

/-- The body of a rule, if there is one. -/
def body? (t : Text) : Except Text (Option Statement × Text) :=
  match after? "\x7b" t with
  | none => .ok (none, t)
  | some t => (statements (2 * t.length + 2) t).map fun (body, rest) => (some (.block body), rest)

/-- The rules of a program. The first argument bounds their number. -/
def rules : Nat → Text → Except Text (List Rule)
  | 0, t => .error t
  | n + 1, t => do
    let t := statementEnds t
    if t = [] then return []
    let (test, rest) : Test × Text ←
      match afterWord? "BEGIN" t, afterWord? "END" t with
      | some rest, _ => pure (.first, rest)
      | none, some rest => pure (.last, rest)
      | none, none =>
        if t.head? = some '\x7b' then pure (.always, t)
        else do
          let (e, rest) ← expression (depthBound t) {} t
          match after? "," rest with
          | none => pure (.holds e, rest)
          | some rest =>
            let (f, rest) ← expression (depthBound rest) {} (lineEnds rest)
            pure (.between e f, rest)
    let (body, rest) ← body? rest
    match body, test with
    | none, .first | none, .last | none, .always => throw rest
    | body, test => return ⟨test, body.getD (.print [] .output)⟩ :: (← rules n rest)

/-- A program. -/
def read (t : Text) : Except Text (List Rule) := rules (t.length + 1) t

end Record
end Shell
end ExEditor
