import ExEditor.Shell.Token

/-! Commands from the pieces of their text. The first argument of each function bounds the commands
still to come; a text has fewer of them than pieces. -/
namespace ExEditor
namespace Shell

/-- Words that have a meaning of their own where a command may begin. -/
def reservedWords : List Text :=
  ["!", "case", "do", "done", "elif", "else", "esac", "fi", "for", "if", "then", "until", "while",
   "\x7b", "\x7d"].map String.toList

/-- Reserved words that end a list of commands. -/
def closingWords : List Text :=
  ["do", "done", "elif", "else", "esac", "fi", "then", "\x7d"].map String.toList

/-- Signs that redirect a stream. -/
def redirectSigns : List (Text × RedirectKind) :=
  [("<".toList, .input), (">".toList, .output), (">|".toList, .output), (">>".toList, .append),
   ("<>".toList, .both), ("<&".toList, .duplicate), (">&".toList, .duplicate), ("<<".toList, .document),
   ("<<-".toList, .document)]

/-- A text in double quotes. -/
def inQuotes (t : Text) : Text := '"' :: t ++ ['"']

/-- The reserved word that a piece is. -/
def Token.reserved? : Token → Option Text
  | word w => (plain? w).filter reservedWords.contains
  | _ => none

/-- How the first piece is named in a complaint. -/
def nameOf : List Token → Text
  | [] => "end of file"
  | .lineEnd :: _ => "newline"
  | .number _ :: _ => "redirection"
  | .fault _ :: _ => "word"
  | .sign s :: _ => if redirectSigns.any (·.1 == s) then "redirection" else inQuotes s
  | t@(.word _) :: _ =>
    match t.reserved? with
    | some word => inQuotes word
    | none => "word"

/-- Number of line ends in a piece. A document ends in a line of its own. -/
def Token.lineEnds : Token → Nat
  | lineEnd => 1
  | word w => w.foldl (fun n part => n + part.lineEnds) 0
  | sign s => if s = "<<".toList || s = "<<-".toList then 1 else 0
  | number _ | fault _ => 0

/-- Number of line ends in pieces. -/
def lineEnds (ts : List Token) : Nat := ts.foldl (fun n t => n + t.lineEnds) 0

/-- A fault, and the number of line ends below it. -/
abbrev Misread := GrammarFault × Nat

/-- The complaint about the first piece. -/
def refuse {α : Type} (ts : List Token) (expected : Option Text) : Except Misread α :=
  match ts with
  | .fault f :: _ => .error (f, 0)
  | ts => .error (.unexpected (nameOf ts) expected, lineEnds (ts.drop 1))

/-- Skip line ends. -/
def skipLines : List Token → List Token
  | .lineEnd :: ts => skipLines ts
  | ts => ts

/-- Whether a list of commands ends here. -/
def endsList : List Token → Bool
  | [] => true
  | .sign s :: _ => s = [')'] || s = [';', ';']
  | t :: _ => t.reserved?.any closingWords.contains

/-- What follows a word that must be there. -/
def expectWord (word : Text) : List Token → Except Misread (List Token)
  | .word w :: ts => if plain? w = some word then .ok ts else refuse (.word w :: ts) (some (inQuotes word))
  | ts => refuse ts (some (inQuotes word))

/-- What follows a sign that must be there. -/
def expectSign (sign : Text) : List Token → Except Misread (List Token)
  | .sign s :: ts => if s = sign then .ok ts else refuse (.sign s :: ts) (some (inQuotes sign))
  | ts => refuse ts (some (inQuotes sign))

/-- The redirection at the front, if there is one. -/
def readRedirect? (ts : List Token) : Except Misread (Option (Redirect × List Token)) :=
  let (number, rest) : Option Nat × List Token := match ts with
    | .number n :: ts => (some n, ts)
    | ts => (none, ts)
  match rest with
  | .sign s :: rest =>
    match redirectSigns.lookup s, rest with
    | none, _ => .ok none
    | some kind, .word target :: rest =>
      .ok (some (⟨number.getD (if s.head? == some '<' then 0 else 1), kind, target⟩, rest))
    | some _, rest => refuse rest none
  | _ => .ok none

/-- The redirections at the front. -/
def readRedirects : Nat → List Token → Except Misread (List Redirect × List Token)
  | 0, ts => .ok ([], ts)
  | n + 1, ts => do
    match ← readRedirect? ts with
    | none => return ([], ts)
    | some (r, ts) =>
      let (rs, ts) ← readRedirects n ts
      return (r :: rs, ts)

/-- A command with redirections, if there are any. -/
def redirect (body : Command) : List Redirect → Command
  | [] => body
  | rs => .redirected body rs

/-- The words up to the end of a line or a semicolon. -/
def readWords : List Token → List Word × List Token
  | .word w :: ts => let (ws, ts) := readWords ts; (w :: ws, ts)
  | ts => ([], ts)

/-- The patterns of an arm, with bars between them. -/
def readPatterns : List Token → Except Misread (List Word × List Token)
  | .word w :: .sign ['|'] :: ts => (readPatterns ts).map fun (ws, ts) => (w :: ws, ts)
  | .word w :: ts => (expectSign [')'] ts).map ([w], ·)
  | ts => refuse ts (some (inQuotes [')']))

/-- The parts of a command without keywords. -/
def readSimple : Nat → List (Text × Word) → List Word → List Redirect → List Token →
    Except Misread (Command × List Token)
  | 0, as, ws, rs, ts => .ok (.simple as.reverse ws.reverse rs.reverse, ts)
  | n + 1, as, ws, rs, ts => do
    match ← readRedirect? ts with
    | some (r, ts) => readSimple n as ws (r :: rs) ts
    | none =>
      match ts with
      | .word w :: rest =>
        match if ws = [] then assignment? w else none with
        | some a => readSimple n (a :: as) ws rs rest
        | none => readSimple n as (w :: ws) rs rest
      | ts =>
        if as = [] && ws = [] && rs = [] then refuse ts none
        else return (.simple as.reverse ws.reverse rs.reverse, ts)

mutual

/-- A list of commands, up to something that ends it. -/
def readList : Nat → List Token → Except Misread (Command × List Token)
  | 0, ts => refuse ts none
  | n + 1, ts => do
    let ts := skipLines ts
    if endsList ts then return (.nothing, ts)
    let (c, ts) ← readChain n ts
    match ts with
    | .sign [';'] :: ts | .lineEnd :: ts =>
      let (rest, ts) ← readList n ts
      return (.sequence c rest, ts)
    | .sign ['&'] :: ts =>
      let (rest, ts) ← readList n ts
      return (.sequence (.either (.subshell c) .nothing) rest, ts)
    | ts => return (c, ts)

/-- A list of at least one command, with what has to close it. -/
def readBody : Nat → (closing : String) → List Token → Except Misread (Command × List Token)
  | 0, _, ts => refuse ts none
  | n + 1, closing, ts =>
    match skipLines ts with
    | [] => refuse [] (some (inQuotes closing.toList))
    | rest => if endsList rest then refuse rest none else readList n ts

/-- Pipelines with `&&` and `||` between them. -/
def readChain : Nat → List Token → Except Misread (Command × List Token)
  | 0, ts => refuse ts none
  | n + 1, ts => do
    let (c, ts) ← readPipeline n ts
    readLinks n c ts

/-- What follows the first pipeline of a chain. -/
def readLinks : Nat → Command → List Token → Except Misread (Command × List Token)
  | 0, _, ts => refuse ts none
  | n + 1, first, ts => do
    match ts with
    | .sign ['&', '&'] :: ts =>
      let (second, ts) ← readPipeline n (skipLines ts)
      readLinks n (.both first second) ts
    | .sign ['|', '|'] :: ts =>
      let (second, ts) ← readPipeline n (skipLines ts)
      readLinks n (.either first second) ts
    | ts => return (first, ts)

/-- Commands with bars between them. -/
def readPipeline : Nat → List Token → Except Misread (Command × List Token)
  | 0, ts => refuse ts none
  | n + 1, ts => do
    match ts with
    | t :: rest =>
      if t.reserved? = some ['!'] then
        let (c, ts) ← readPipeline n rest
        return (.negation c, ts)
      match ← readStages n ts with
      | ([c], ts) => return (c, ts)
      | (cs, ts) => return (.pipeline cs, ts)
    | [] => refuse [] none

/-- The commands of a pipeline. -/
def readStages : Nat → List Token → Except Misread (List Command × List Token)
  | 0, ts => refuse ts none
  | n + 1, ts => do
    let (c, ts) ← readCommand n ts
    match ts with
    | .sign ['|'] :: ts =>
      let (cs, ts) ← readStages n (skipLines ts)
      return (c :: cs, ts)
    | ts => return ([c], ts)

/-- One command. -/
def readCommand : Nat → List Token → Except Misread (Command × List Token)
  | 0, ts => refuse ts none
  | n + 1, ts => do
    let below := lineEnds ts
    let finish (c : Command) (ts : List Token) : Except Misread (Command × List Token) := do
      let (rs, ts) ← readRedirects n ts
      return (.located below (redirect c rs), ts)
    match ts with
    | .sign ['('] :: ts =>
      let (c, ts) ← readBody n ")" ts
      finish (.subshell c) (← expectSign [')'] ts)
    | t :: rest =>
      match t.reserved? with
      | none =>
        match ts with
        | .word w :: .sign ['('] :: rest =>
          match plain? w with
          | some name =>
            let (c, ts) ← readCommand n (skipLines (← expectSign [')'] rest))
            return (.definition name c, ts)
          | none => refuse (.sign ['('] :: rest) none
        | ts => (readSimple (ts.length + 1) [] [] [] ts).map fun (c, ts) => (.located below c, ts)
      | some keyword =>
        match String.ofList keyword with
        | "\x7b" =>
          let (c, ts) ← readBody n "\x7d" rest
          finish c (← expectWord ['\x7d'] ts)
        | "if" =>
          let (c, ts) ← readBranch n rest
          finish c ts
        | "while" =>
          let (c, ts) ← readLoop n false rest
          finish c ts
        | "until" =>
          let (c, ts) ← readLoop n true rest
          finish c ts
        | "for" =>
          let (c, ts) ← readEach n rest
          finish c ts
        | "case" =>
          match rest with
          | .word subject :: ts =>
            let (arms, ts) ← readArms n (← expectWord "in" (skipLines ts))
            finish (.choice subject arms) ts
          | ts => refuse ts (some "word")
        | _ => refuse ts none
    | [] => refuse [] none

/-- What follows `if` or `elif`. -/
def readBranch : Nat → List Token → Except Misread (Command × List Token)
  | 0, ts => refuse ts none
  | n + 1, ts => do
    let (test, ts) ← readBody n "then" ts
    let (body, ts) ← readBody n "fi" (← expectWord "then" ts)
    match ts.head?.bind Token.reserved? with
    | some word =>
      if word = "elif".toList then
        let (otherwise, ts) ← readBranch n (ts.drop 1)
        return (.branch test body otherwise, ts)
      if word = "else".toList then
        let (otherwise, ts) ← readBody n "fi" (ts.drop 1)
        return (.branch test body otherwise, ← expectWord "fi" ts)
      return (.branch test body .nothing, ← expectWord "fi" ts)
    | none => return (.branch test body .nothing, ← expectWord "fi" ts)

/-- What follows `while` or `until`. -/
def readLoop : Nat → (untilDone : Bool) → List Token → Except Misread (Command × List Token)
  | 0, _, ts => refuse ts none
  | n + 1, untilDone, ts => do
    let (test, ts) ← readBody n "do" ts
    let (body, ts) ← readBody n "done" (← expectWord "do" ts)
    return (.loop untilDone test body, ← expectWord "done" ts)

/-- What follows `for`. -/
def readEach : Nat → List Token → Except Misread (Command × List Token)
  | 0, ts => refuse ts none
  | n + 1, ts => do
    match ts with
    | .word w :: ts =>
      match (plain? w).filter isName with
      | none => throw (.badLoopVariable, lineEnds ts)
      | some name =>
        let (words, ts) : Option (List Word) × List Token ←
          match skipLines ts with
          | .word w :: rest =>
            if plain? w = some "in".toList then
              match readWords rest with
              | (ws, .sign [';'] :: ts) | (ws, .lineEnd :: ts) => pure (some ws, ts)
              | (_, ts) => refuse ts none
            else pure (none, .word w :: rest)
          | .sign [';'] :: ts => pure (none, ts)
          | ts => pure (none, ts)
        let (body, ts) ← readBody n "done" (← expectWord "do" (skipLines ts))
        return (.each name words body, ← expectWord "done" ts)
    | .fault f :: _ => throw (f, 0)
    | _ => throw (.badLoopVariable, 0)

/-- The arms of a choice, up to `esac`. -/
def readArms : Nat → List Token → Except Misread (List (List Word × Command) × List Token)
  | 0, ts => refuse ts none
  | n + 1, ts => do
    let ts := skipLines ts
    match ts.head?.bind Token.reserved? with
    | some _ => return ([], ← expectWord "esac" ts)
    | none =>
      let ts := match ts with
        | .sign ['('] :: ts => ts
        | ts => ts
      let (patterns, ts) ← readPatterns ts
      let (body, ts) ← readList n ts
      match ts with
      | .sign [';', ';'] :: ts =>
        let (arms, ts) ← readArms n ts
        return ((patterns, body) :: arms, ts)
      | ts =>
        if ts.head?.bind Token.reserved? = some "esac".toList then return ([(patterns, body)], ts.drop 1)
        else refuse ts (some (inQuotes [';', ';']))

end

/-- How many steps a text of so many pieces may take to read. -/
def readBound (ts : List Token) : Nat := 12 * ts.length + 24

/-- The commands of one line, after the first of them. -/
def readRest : Nat → Command → List Token → Except Misread (Command × List Token)
  | 0, c, ts => .ok (c, ts)
  | n + 1, c, ts => do
    let next (c : Command) (ts : List Token) : Except Misread (Command × List Token) := do
      match ts with
      | [] => return (c, [])
      | .lineEnd :: ts => return (c, ts)
      | ts =>
        let (d, ts) ← readChain (readBound ts) ts
        let (rest, ts) ← readRest n d ts
        return (.sequence c rest, ts)
    match ts with
    | [] => return (c, [])
    | .lineEnd :: ts => return (c, ts)
    | .sign [';'] :: ts => next c ts
    | .sign ['&'] :: ts => next (.either (.subshell c) .nothing) ts
    | ts => refuse ts none

/-- The commands of the first line and the pieces behind it. There are none if nothing but line ends is
left. -/
def readLine? (ts : List Token) : Except Misread (Option (Command × List Token)) := do
  match skipLines ts with
  | [] => return none
  | ts =>
    let (c, rest) ← readChain (readBound ts) ts
    let (c, rest) ← readRest (rest.length + 1) c rest
    return some (c, rest)

end Shell
end ExEditor
