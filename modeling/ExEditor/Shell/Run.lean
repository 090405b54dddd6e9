import ExEditor.Shell.Arithmetic
import ExEditor.Shell.Expansion
import ExEditor.Shell.Reader
import ExEditor.Shell.Tool

/-! Running the commands of a shell. The first argument of each function that runs some bounds how many
may run one inside the other or one after the other. -/
namespace ExEditor
namespace Shell

namespace State

/-- Whether the next command is to run. -/
def goesOn (s : State) : Bool := s.flow = .onward

/-- The shell that goes on when one that was run apart has ended: it keeps nothing but what has been done
to files and streams, and the status. -/
def rejoin (s child : State) : State :=
  { s with
    files := { child.files with workDir := s.files.workDir }
    streams := child.streams
    status := child.status
    flow := if child.flow = .killed then .killed else .onward }

/-- Why the shell could not open a file. -/
def openCause (missing : String) (fault : FileFault) : Text :=
  match fault with
  | .notFound | .notADirectory => missing.toList
  | fault => fault.cause

/-- The number of the stream that a path stands for. -/
def deviceNumber? (path : Text) : Option Nat :=
  [("/dev/stdin".toList, 0), ("/dev/stdout".toList, 1), ("/dev/stderr".toList, 2)].lookup path

/-- Let a number stand for a file that is read, or say why it cannot be. -/
def openToRead (s : State) (number : Nat) (path : Text) : Except Text State :=
  match deviceNumber? path, s.files.at? path with
  | some n, _ => .ok ((s.places.lookup n).elim s (s.place number))
  | none, .ok (.file _) => .ok (s.openStream number (.file (s.files.canonical path) 0))
  | none, .ok .directory => .ok (s.openStream number .nothing)
  | none, .error fault =>
    if path = nullPath then .ok (s.openStream number .nothing)
    else .error ("cannot open ".toList ++ path ++ ": ".toList ++ openCause "No such file" fault)

/-- Let a number stand for a file that is written, or say why it cannot be. -/
def openToWrite (s : State) (number : Nat) (appends : Bool) (path : Text) : Except Text State :=
  match deviceNumber? path with
  | some n => .ok ((s.places.lookup n).elim s (s.place number))
  | none =>
    if path = nullPath then .ok (s.openStream number .nothing)
    else
      let written :=
        if appends && (s.textOf path).isOk then .ok s.files else s.files.write path (.text [])
      match written with
      | .ok files =>
        .ok ({ s with files }.openStream number (.file (files.canonical path) 0))
      | .error fault =>
        .error ("cannot create ".toList ++ path ++ ": ".toList ++ openCause "Directory nonexistent" fault)

/-- Redirect a stream to what a text names, or say why that cannot be done. -/
def redirectTo (s : State) (r : Redirect) (target : Text) : Except Text State :=
  match r.kind with
  | .input => s.openToRead r.number target
  | .output => s.openToWrite r.number false target
  | .append | .both => s.openToWrite r.number true target
  | .document => .ok (s.openStream r.number (.text target))
  | .duplicate =>
    if target = ['-'] then .ok (s.openStream r.number .closed)
    else if target.isNumeral then
      match s.places.lookup target.numeralValue with
      | some place => .ok (s.place r.number place)
      | none => .error (target ++ ": Bad file descriptor".toList)
    else .error "Syntax error: Bad fd number"

/-- A line of the input without its line end, and whether it had one. Without `raw` a backslash quotes
the character behind it, and joins lines. The first argument bounds the lines that are joined. -/
def takeLine : Nat → (raw : Bool) → State → Option (Marked × Bool) × State
  | 0, _, s => (none, s)
  | n + 1, raw, s =>
    match s.pending with
    | [] => (none, s)
    | t =>
      let line := t.takeWhile (· ≠ '\n')
      let whole := line.length < t.length
      let s := s.skipInput (line.length + if whole then 1 else 0)
      let rec mark : Text → Marked × Bool
        | [] => ([], false)
        | ['\\'] => if raw then ([('\\', false)], false) else ([], true)
        | '\\' :: c :: t =>
          if raw then let (m, open') := mark (c :: t); (('\\', false) :: m, open')
          else let (m, open') := mark t; ((c, true) :: m, open')
        | c :: t => let (m, open') := mark t; ((c, false) :: m, open')
      let (m, open') := mark line
      if open' && whole then
        match takeLine n raw s with
        | (some (rest, whole), s) => (some (m ++ rest, whole), s)
        | (none, s) => (some (m, false), s)
      else (some (m, whole), s)

/-- Give the fields of a line to variables; the last one takes all that is left. -/
def setFields (separators : Text) : List Text → Marked → State → State
  | [], _, s => s
  | [name], m, s =>
    let soft (x : Char × Bool) : Bool := !x.2 && separators.contains x.1 && isSoft x.1
    let m := ((m.dropWhile soft).reverse.dropWhile soft).reverse
    s.set name (m.map (·.1))
  | name :: names, m, s =>
    let splits (x : Char × Bool) : Bool := !x.2 && separators.contains x.1
    let soft (x : Char × Bool) : Bool := splits x && isSoft x.1
    let m := m.dropWhile soft
    let field := m.takeWhile fun x => !splits x
    let rest := (m.drop field.length).dropWhile soft
    let rest := match rest with
      | x :: more => if splits x then more.dropWhile soft else rest
      | [] => []
    setFields separators names rest (s.set name (field.map (·.1)))

/-- Read a line into variables. -/
def read (words : List Text) (s : State) : State :=
  let (raw, names) : Bool × List Text := match words with
    | ['-', 'r'] :: names => (true, names)
    | names => (false, names)
  let names := if names = [] then ["REPLY".toList] else names
  match takeLine (s.pending.length + 1) raw s with
  | (none, s) => (names.foldl (fun s name => s.set name []) s).finish 1
  | (some (m, whole), s) => (setFields s.separators names m s).finish (if whole then 0 else 1)

/-- Go to a directory, that of the user if none is named. -/
def changeDirectory (words : List Text) (s : State) : State :=
  let back := words = [['-']]
  let target :=
    if back then (s.value? "OLDPWD".toList).getD []
    else words.headD ((s.value? "HOME".toList).getD [])
  if target = [] || s.files.isDirectory target then
    let old := s.files.workDir
    let path := if target = [] then old else s.files.canonical target
    let s := ((s.enter path).set "OLDPWD".toList old).set "PWD".toList path
    (if back then s.emit (path ++ ['\n']) else s).finish 0
  else (s.complainOf ("cd: can't cd to ".toList ++ target)).finish 2

/-- Signals by number. -/
def signals : List (Text × Text) :=
  [("0", "EXIT"), ("1", "HUP"), ("2", "INT"), ("3", "QUIT"), ("9", "KILL"), ("10", "USR1"), ("12", "USR2"),
    ("13", "PIPE"), ("14", "ALRM"), ("15", "TERM"), ("17", "CHLD"), ("18", "CONT")].map fun (n, name) =>
    (String.toList n, String.toList name)

/-- The name of a signal that is written as a number or as a name. -/
def signalName? (t : Text) : Option Text :=
  match signals.find? fun (n, name) => n = t || name = t.map Char.toUpper with
  | some (_, name) => some name
  | none => none

/-- The signal that `kill` is asked to send, and to whom. -/
def signalOf : List Text → Text × List Text
  | ['-', 's'] :: signal :: rest => (signal, rest)
  | ['-', '-'] :: rest => ("TERM".toList, rest)
  | ('-' :: signal) :: rest => (signal, rest)
  | words => ("TERM".toList, words)

/-- Send a signal. Only the shell itself can be reached, and what it runs then is given back. -/
def kill (words : List Text) (s : State) : State × Text :=
  let (signal, targets) := signalOf words
  let illegal : Option Char := match words with
    | ('-' :: c :: t) :: _ => if c = 's' || c = '-' || (signalName? (c :: t)).isSome then none else some c
    | _ => none
  if let some c := illegal then ((s.complainOf ("kill: Illegal option -".toList ++ [c])).finish 2, [])
  else if targets = [] then
    (((s.complainOf "kill: Usage: kill [-s sigspec | -signum | -sigspec] [pid | job]... or").complain
      "kill -l [exitstatus]").finish 2, [])
  else
    match signalName? signal with
    | none => ((s.complainOf ("kill: invalid signal number or name: ".toList ++ signal)).finish 2, [])
    | some name =>
      targets.foldl (fun (s, action) target =>
        if target = process then
          if signal = ['0'] || ["CHLD", "CONT"].contains (String.ofList name) then (s, action)
          else
            match if name = "KILL".toList then none else s.traps.lookup name with
            | some run => (s, action ++ run ++ ['\n'])
            | none => ({ s with flow := .killed, status := 137 }, action)
        else if !target.isNumeral then
          ((s.complainOf ("kill: Illegal number: ".toList ++ target)).finish 2, action)
        else ((s.complainOf "kill: No such process").finish 1, action)) (s.finish 0, [])

/-- Say what is to be run when signals come, take that back, or show it. -/
def trap (words : List Text) (s : State) : State :=
  let set (action : Option Text) (s : State) (t : Text) : State :=
    match signalName? t with
    | some name =>
      let others := s.traps.filter (·.1 ≠ name)
      { s with traps := others ++ (action.map (name, ·)).toList }
    | none => (s.complain ("trap: ".toList ++ t ++ ": bad trap".toList)).finish 1
  match words with
  | [] =>
    (s.emit (ofBodies (s.traps.map fun (name, t) => "trap -- '".toList ++ t ++ "' ".toList ++ name))).finish 0
  | [t] => set none (s.finish 0) t
  | ['-'] :: names => names.foldl (set none) (s.finish 0)
  | action :: names => names.foldl (set (some action)) (s.finish 0)

/-- Take a name for another command text, or show those that are taken. -/
def aliased (words : List Text) (s : State) : State :=
  let shown (name value : Text) : Text := name ++ "='".toList ++ value ++ "'\n".toList
  if words = [] then (s.emit (s.aliases.flatMap fun (name, value) => shown name value)).finish 0
  else
    words.foldl (fun s word =>
      match Text.splitFirst? (· = '=') word with
      | some (name, value) => { s with aliases := (name, value) :: s.aliases.filter (·.1 ≠ name) }
      | none =>
        match s.aliases.lookup word with
        | some value => s.emit (shown word value)
        | none => (s.complain ("alias: ".toList ++ word ++ " not found".toList)).finish 1) (s.finish 0)

/-- Give names back that were taken for command texts. -/
def unalias (words : List Text) (s : State) : State :=
  words.foldl (fun s word =>
    if word = "-a".toList then { s with aliases := [] }
    else if (s.aliases.lookup word).isSome then { s with aliases := s.aliases.filter (·.1 ≠ word) }
    else (s.complain ("unalias: ".toList ++ word ++ " not found".toList)).finish 1) (s.finish 0)

/-- Names of options that are written out. -/
def optionNames : List (String × Char) :=
  [("errexit", 'e'), ("noglob", 'f'), ("nounset", 'u'), ("xtrace", 'x'), ("noexec", 'n'), ("allexport", 'a')]

/-- Set options and parameters, or show the variables. -/
def setOptions : Nat → List Text → State → State
  | 0, _, s => s
  | n + 1, words, s =>
    let turn (on : Bool) (letters : Text) (s : State) : State :=
      { s with options := s.options.filter (fun c => !letters.contains c) ++ if on then letters else [] }
    match words with
    | [] => s
    | ['-', '-'] :: rest => { s with parameters := rest }
    | ['-', 'o'] :: name :: rest =>
      setOptions n rest (turn true ((optionNames.lookup (String.ofList name)).toList) s)
    | ['+', 'o'] :: name :: rest =>
      setOptions n rest (turn false ((optionNames.lookup (String.ofList name)).toList) s)
    | ('-' :: letters) :: rest =>
      match letters.find? fun c => !"abCefhmnuvxI".toList.contains c with
      | some c => s.abort ("set: Illegal option -".toList ++ [c])
      | none => setOptions n rest (turn true letters s)
    | ('+' :: letters) :: rest => setOptions n rest (turn false letters s)
    | rest => { s with parameters := rest }

/-- Give a variable a value, unless it may not be changed. A complaint begins with the name of the tool
that asks for it. -/
def assignBy (s : State) (tool : String) (name value : Text) : State :=
  if s.constants.contains name then s.abort (tool.toList ++ name ++ ": is read only".toList) else s.set name value

/-- Give a variable a value, unless it may not be changed. -/
def assignTo (s : State) (name value : Text) : State := s.assignBy "" name value

/-- Keep what a variable holds until the present function is left. -/
def shadow (s : State) (name : Text) : State :=
  match s.shadowed with
  | some kept =>
    if (kept.lookup name).isSome then s else { s with shadowed := some ((name, s.value? name) :: kept) }
  | none => s

/-- Give variables back what they held before a function. -/
def unshadow (s : State) : State :=
  (s.shadowed.getD []).foldl (fun s (name, value) =>
    match value with
    | some t => s.set name t
    | none => { s with values := s.values.filter (·.1 ≠ name) }) s

/-- The number in the first word, or a complaint of the named command. -/
def withNumber (s : State) (tool : String) (words : List Text) (default : Nat) (act : Nat → State) : State :=
  match words with
  | [] => act default
  | t :: _ =>
    if t.isNumeral then act t.numeralValue
    else s.abort (tool.toList ++ ": Illegal number: ".toList ++ t)

/-- Give variables the values in assignments, with something done for each of their names. -/
def declare (words : List Text) (tool : String) (each : State → Text → State) (s : State) : State :=
  words.foldl (fun s word =>
    if !s.goesOn then s
    else
      match Text.splitFirst? (· = '=') word with
      | some (name, value) =>
        let s := s.assignBy tool name value
        if s.goesOn then each s name else s
      | none => each s word) (s.finish 0)

/-- Let nothing change some variables, or show those that nothing may change. -/
def readonly (words : List Text) (s : State) : State :=
  if words = [] || words = ["-p".toList] then
    let names := s.constants.mergeSort fun a b => !Text.before b a
    (s.emit (ofBodies (names.map fun name =>
      "readonly ".toList ++ name ++ ((s.value? name).elim [] fun t => "='".toList ++ t ++ ['\''])))).finish 0
  else s.declare words "readonly: " fun s name => { s with constants := name :: s.constants }

/-- Let programs see some variables, or show those that they see. -/
def exports (words : List Text) (s : State) : State :=
  if words = [] || words = ["-p".toList] then
    let shown := s.environment.mergeSort fun a b => !Text.before b.1 a.1
    (s.emit (ofBodies (shown.map fun (name, t) => "export ".toList ++ name ++ "='".toList ++ t ++ ['\'']))).finish 0
  else s.declare words "export: " exportName

/-- Take variables for the present function. -/
def localise (words : List Text) (s : State) : State :=
  if s.shadowed.isNone then s.abort "local: not in a function"
  else
    words.foldl (fun s word =>
      match Text.splitFirst? (· = '=') word with
      | some (name, value) => (s.shadow name).assignBy "local: " name value
      | none => s.shadow word) (s.finish 0)

/-- Find the next option among some words, or the parameters, and give it to a variable. -/
def nextOption (words : List Text) (s : State) : State :=
  match words with
  | letters :: name :: given =>
    let args := if given = [] then s.parameters else given
    let index := max 1 (((s.value? "OPTIND".toList).map Text.numeralValue).getD 1)
    let word := args[index - 1]?.getD []
    let quiet := letters.head? = some ':'
    let moved (s : State) (index offset : Nat) : State :=
      { s.set "OPTIND".toList (Text.ofNat index) with optionOffset := offset }
    let setArgument (s : State) (t : Text) : State := s.set "OPTARG".toList t
    let refuse (s : State) (complaint : Text) (c sign : Char) : State :=
      if quiet then setArgument (s.set name [sign]) [c]
      else ((s.set name ['?']).unset "OPTARG".toList).complain complaint
    let offset := if s.optionOffset < word.length then s.optionOffset else 0
    let ends (s : State) (index : Nat) : State := ((moved s index 0).set name ['?']).finish 1
    if offset = 0 && (word.head? != some '-' || word.length = 1) then ends s index
    else if offset = 0 && word = ['-', '-'] then ends s (index + 1)
    else
      let offset := max 1 offset
      let c := word.getD offset '?'
      let last := word.length ≤ offset + 1
      let s := if last then moved s (index + 1) 0 else moved s index (offset + 1)
      match (letters.drop (if quiet then 1 else 0)).dropWhile (· ≠ c) with
      | [] => (refuse s ("Illegal option -".toList ++ [c]) c '?').finish 0
      | _ :: ':' :: _ =>
        if !last then (setArgument ((moved s (index + 1) 0).set name [c]) (word.drop (offset + 1))).finish 0
        else
          match args[index]? with
          | some t => (setArgument ((moved s (index + 2) 0).set name [c]) t).finish 0
          | none => (refuse s ("No arg for -".toList ++ c :: " option".toList) c ':').finish 0
      | _ => ((s.set name [c]).unset "OPTARG".toList).finish 0
  | _ => (s.complainOf "getopts: Usage: getopts optstring var [arg]").finish 2

/-- Take variables or functions away. -/
def unsetAll (words : List Text) (s : State) : State :=
  match words with
  | ['-', 'f'] :: names => { s with functions := s.functions.filter fun f => !names.contains f.1 }.finish 0
  | ['-', 'v'] :: names => names.foldl unset (s.finish 0)
  | names =>
    match names.find? s.constants.contains with
    | some name => s.abort ("unset: ".toList ++ name ++ ": is read only".toList)
    | none => names.foldl unset (s.finish 0)

end State

/-- Commands after whose failure to redirect the shell stops. -/
def specialNames : List Text :=
  [":", ".", "break", "continue", "eval", "exec", "exit", "export", "readonly", "return", "set", "shift",
   "times", "trap", "unset"].map String.toList

/-- Commands that the shell carries out itself, besides its own tools. -/
def shellNames : List Text :=
  specialNames ++
    ["alias", "bg", "cd", "command", "fg", "getopts", "hash", "jobs", "kill", "local", "pwd", "read", "type", "ulimit",
      "umask", "unalias", "wait"].map String.toList

/-- What a name stands for, as `type` shows it. -/
def State.kindOf (s : State) (name : Text) : Option Text :=
  if reservedWords.contains name then some " is a shell keyword"
  else if (s.aliases.lookup name).isSome then
    some (" is an alias for ".toList ++ (s.aliases.lookup name).getD [])
  else if (s.functions.lookup name).isSome then some " is a shell function"
  else if specialNames.contains name then some " is a special shell builtin"
  else if (ownTools.lookup (String.ofList name)).isSome || shellNames.contains name then
    some " is a shell builtin"
  else if isProgram name then some (" is ".toList ++ programPath name)
  else none

/-- Show what names stand for. -/
def State.showKinds (words : List Text) (s : State) : State :=
  words.foldl (fun s name =>
    match s.kindOf name with
    | some kind => s.emit (name ++ kind ++ ['\n'])
    | none => (s.emit (name ++ ": not found\n".toList)).finish 127) (s.finish 0)

/-- Show where programs are found. -/
def State.which (words : List Text) (s : State) : State :=
  words.foldl (fun s name =>
    if isProgram name then s.emit (programPath name ++ ['\n']) else s.finish 1)
    (s.finish (if words = [] then 1 else 0))

/-- Show how a name would be run, as `command -v` does. -/
def State.locate (name : Text) (s : State) : State :=
  match s.aliases.lookup name with
  | some t => (s.emit ("alias ".toList ++ name ++ "='".toList ++ t ++ "'\n".toList)).finish 0
  | none =>
    if (ownTools.lookup (String.ofList name)).isSome || shellNames.contains name
        || reservedWords.contains name || (s.functions.lookup name).isSome then
      (s.emit (name ++ ['\n'])).finish 0
    else if isProgram name then (s.emit (programPath name ++ ['\n'])).finish 0
    else if name.contains '/' && s.files.has name then (s.emit (name ++ ['\n'])).finish 0
    else s.finish 127

/-- Show a command on the error output before it runs, if that has been asked for: the values of variables
that it sets, and its words. -/
def State.trace (s before : State) (names words : List Text) : State :=
  if before.options.contains 'x' then
    let values := names.map fun name => name ++ '=' :: (s.value? name).getD []
    let shown := '+' :: ' ' :: Text.join [' '] (values ++ words) ++ ['\n']
    let written := { before with streams := s.streams, files := s.files }.write 2 shown
    { s with streams := written.streams, files := written.files }
  else s

/-- A failure ends the shell if that has been asked for and nothing looks at the status. -/
def State.strict (s : State) : State :=
  if s.options.contains 'e' && !s.guarded && s.goesOn && s.status ≠ 0 then { s with flow := .exited } else s

/-- How `xargs` hands over its input. -/
structure Feeding where
  /-- How many words a command is given at most. -/
  size : Option Nat := none
  /-- What stands for a line of the input in the command. -/
  mark : Option Text := none
  /-- What ends an item of the input, in which nothing is quoted then. -/
  delimiter : Option Char := none
  shows : Bool := false
  skipsNothing : Bool := false
  byLine : Bool := false

/-- The options of `xargs` and the command behind them. -/
def Feeding.read : Nat → List Text → Feeding → Feeding × List Text
  | 0, words, f => (f, words)
  | n + 1, words, f =>
    match words with
    | ('-' :: c :: t) :: rest =>
      let value : Text := if t = [] then rest.headD [] else t
      let after := if t = [] then rest.drop 1 else rest
      let more : List Text := if t = [] then rest else ('-' :: t) :: rest
      match c with
      | 'n' => read n after { f with size := some value.numeralValue }
      | 'L' => read n after { f with size := some value.numeralValue, byLine := true }
      | 'I' => read n after { f with mark := some value }
      | 'd' =>
        let delimiter : Char := match value with
          | ['\\', 'n'] => '\n'
          | ['\\', 't'] => '\t'
          | ['\\', '0'] => '\x00'
          | value => value.headD '\n'
        read n after { f with delimiter := some delimiter }
      | 'P' | 's' => read n after f
      | '0' => read n more { f with delimiter := some '\x00' }
      | 't' => read n more { f with shows := true }
      | 'r' => read n more { f with skipsNothing := true }
      | 'i' => read n rest { f with mark := some (if t = [] then "\x7b\x7d".toList else t) }
      | _ => (f, words)
    | words => (f, words)

/-- Words in the input of `xargs`, or the quote in it that is not closed. A word that has begun is `word`;
with `byLine` blanks do not end one. The first argument bounds the characters. -/
def inputWords (byLine : Bool) : Nat → (word : Option Text) → Text → Except Char (List Text)
  | 0, word, _ => .ok word.toList
  | n + 1, word, t =>
    match t with
    | [] | ['\\'] => .ok word.toList
    | '\\' :: c :: t => inputWords byLine n (some (word.getD [] ++ [c])) t
    | c :: t =>
      if c = '\'' || c = '"' then
        let body := t.takeWhile fun d => d ≠ c && d ≠ '\n'
        match t.drop body.length with
        | d :: rest => if d = c then inputWords byLine n (some (word.getD [] ++ body)) rest else .error c
        | [] => .error c
      else if c = '\n' || (!byLine && (c = ' ' || c = '\t')) then
        (inputWords byLine n none t).map (word.toList ++ ·)
      else if (c = ' ' || c = '\t') && word.isNone then inputWords byLine n none t
      else inputWords byLine n (some (word.getD [] ++ [c])) t

/-- The items of the input of `xargs`. -/
def Feeding.items (f : Feeding) (t : Text) : Except Char (List Text) :=
  match f.delimiter with
  | some c => .ok ((Text.splitAfter (· = c) t).map fun item => (Text.dropEnding? item [c]).getD item)
  | none => inputWords (f.mark.isSome || f.byLine) (t.length + 1) none t

/-- A text with another in the place of a mark. -/
def filledIn (mark item : Text) : Nat → Text → Text
  | 0, t => t
  | _ + 1, [] => []
  | n + 1, c :: t =>
    if mark ≠ [] && mark.isPrefixOf (c :: t) then item ++ filledIn mark item n ((c :: t).drop mark.length)
    else c :: filledIn mark item n t

/-- The commands that `xargs` runs for some items. -/
def Feeding.commands (f : Feeding) (command items : List Text) : List (List Text) :=
  let command := if command = [] then ["echo".toList] else command
  match f.mark with
  | some mark => items.map fun item => command.map fun word => filledIn mark item word.length word
  | none =>
    match f.size with
    | some size => (chunks items.length (max 1 size) items).map (command ++ ·)
    | none => if items = [] && f.skipsNothing then [] else [command ++ items]

mutual

/-- A part of a word, filled in. -/
def fillPart : Nat → Part → State → List Mark × State
  | 0, _, s => ([], s)
  | n + 1, part, s =>
    match part with
    | .literal t => (Mark.ofLiteral t, s)
    | .quoted t => (Mark.ofQuoted t, s)
    | .output source inQuotes =>
      let (t, s) := outputOf n source s
      (Mark.ofValue inQuotes t, s)
    | .value source inQuotes =>
      let (expression, s) := fillText n true source s
      match Arithmetic.evaluate ⟨s.values⟩ expression with
      | .ok (v, store) => (Mark.ofValue inQuotes (Text.ofInt v), { s with values := store.values })
      | .error fault => ([], s.abort (fault.message expression))
    | .parameter name adjustment inQuotes =>
      let value := s.parameter? name
      let own : List Mark :=
        if name = ['@'] then Mark.ofParameters inQuotes s.parameters
        else if name = ['*'] && !inQuotes then Mark.ofParameters false s.parameters
        else Mark.ofValue inQuotes (value.getD [])
      let isThere (orEmpty : Bool) : Bool := value.isSome && !(orEmpty && value == some [])
      let other (word : Text) (s : State) : List Mark × State :=
        match Word.ofText inQuotes word with
        | .error fault => ([], s.abort fault.message)
        | .ok w =>
          let (marks, s) := fillWord n w s
          (marks.map fun
            | .char c false false => .char c false true
            | mark => mark, s)
      match adjustment with
      | .nothing =>
        if s.options.contains 'u' && value.isNone && name ≠ ['@'] && name ≠ ['*'] then
          ([], s.abort (name ++ ": parameter not set".toList))
        else (own, s)
      | .length =>
        let size := if name = ['@'] || name = ['*'] then s.parameters.length else (value.getD []).length
        (Mark.ofValue inQuotes (Text.ofNat size), s)
      | .fallback orEmpty word => if isThere orEmpty then (own, s) else other word s
      | .replacement orEmpty word => if isThere orEmpty then other word s else (Mark.ofValue inQuotes [], s)
      | .assign orEmpty word =>
        if isThere orEmpty then (own, s)
        else
          let (marks, s) := other word s
          (marks, s.assignTo name (Mark.text marks))
      | .demand orEmpty word =>
        if isThere orEmpty then (own, s)
        else
          let (marks, s) := other word s
          let complaint : Text :=
            if word ≠ [] then Mark.text marks
            else if orEmpty then "parameter not set or null" else "parameter not set"
          ([], s.abort (name ++ ": ".toList ++ complaint))
      | .dropStart longest pattern =>
        let (glob, s) := fillGlob n pattern s
        (Mark.ofValue inQuotes (dropStart longest glob (value.getD [])), s)
      | .dropEnd longest pattern =>
        let (glob, s) := fillGlob n pattern s
        (Mark.ofValue inQuotes (dropEnd longest glob (value.getD [])), s)

/-- A word, filled in. -/
def fillWord : Nat → Word → State → List Mark × State
  | 0, _, s => ([], s)
  | _ + 1, [], s => ([], s)
  | n + 1, part :: rest, s =>
    let (marks, s) := fillPart n part s
    if s.goesOn then
      let (more, s) := fillWord n rest s
      (marks ++ more, s)
    else ([], s)

/-- A pattern as written, filled in. -/
def fillGlob : Nat → Text → State → Glob × State
  | 0, _, s => ([], s)
  | n + 1, pattern, s =>
    match Word.ofText false pattern with
    | .error fault => ([], s.abort fault.message)
    | .ok w =>
      let (marks, s) := fillWord n w s
      (Glob.ofMarked (Mark.marked marks), s)

/-- A text as written, filled in. -/
def fillText : Nat → (inQuotes : Bool) → Text → State → Text × State
  | 0, _, _, s => ([], s)
  | n + 1, inQuotes, t, s =>
    match Word.ofText inQuotes t with
    | .error fault => ([], s.abort fault.message)
    | .ok w =>
      let (marks, s) := fillWord n w s
      (Mark.text marks, s)

/-- A word that is not split, filled in. -/
def fillWhole : Nat → Word → State → Text × State
  | 0, _, s => ([], s)
  | n + 1, w, s =>
    let (marks, s) := fillWord n (s.tilde w) s
    (Mark.text marks, s)

/-- The fields of words. -/
def fillFields : Nat → List Word → State → List Text × State
  | 0, _, s => ([], s)
  | _ + 1, [], s => ([], s)
  | n + 1, w :: rest, s =>
    let (marks, s) := fillWord n (s.tilde w) s
    let cut := fields s.separators marks
    let found := if s.options.contains 'f' then cut.map (·.map (·.1)) else cut.flatMap (paths s.files)
    if s.goesOn then
      let (more, s) := fillFields n rest s
      (found ++ more, s)
    else ([], s)

/-- The output of a command text, without the line ends at its end. -/
def outputOf : Nat → Text → State → Text × State
  | 0, _, s => ([], s)
  | n + 1, source, s =>
    let place := s.streams.length
    let child := runLines n (s.line - 1) source (s.openStream 1 (.text []))
    let t := match child.streams[place]? with
      | some (.text t) => t
      | _ => []
    (Text.dropEndWhile (· = '\n') t, s.rejoin child)

/-- Run the lines of a text one after the other; `above` is the number of lines in front of it. -/
def runLines : Nat → (above : Nat) → Text → State → State
  | 0, _, _, s => s
  | n + 1, above, t, s =>
    { runTokens n (tokens t) { s with status := 0, lineEnds := above + t.count '\n' } with
      lineEnds := s.lineEnds, line := s.line }

/-- Run a text that is no part of another. -/
def runText : Nat → Text → State → State
  | 0, _, s => s
  | n + 1, t, s => runLines n 0 t s

/-- Run lines that are left of a text. -/
def runTokens : Nat → List Token → State → State
  | 0, _, s => s
  | n + 1, ts, s =>
    match readLine? ts with
    | .error (fault, below) => { s with line := s.lineEnds - below + 1 }.abort fault.message
    | .ok none => s
    | .ok (some (c, ts)) =>
      let s := run n c s
      if s.goesOn then runTokens n ts s else s

/-- Open what redirections name. A complaint leaves the shell as it was. -/
def openAll : Nat → List Redirect → State → Except State State
  | 0, _, s => .ok s
  | _ + 1, [], s => .ok s
  | n + 1, r :: rest, s =>
    let (target, s) := fillWhole n r.target s
    match s.redirectTo r target with
    | .ok s => openAll n rest s
    | .error complaint => .error ((s.complainOf complaint).finish 2)

/-- Run a command whose status is looked at. -/
def runGuarded : Nat → Command → State → State
  | 0, _, s => s
  | n + 1, c, s => { run n c { s with guarded := true } with guarded := s.guarded }

/-- Run a command. -/
def run : Nat → Command → State → State
  | 0, _, s => s
  | n + 1, c, s =>
    if s.options.contains 'n' then s
    else
    match c with
    | .nothing => s.finish 0
    | .simple assignments words redirects => (runSimple n assignments words redirects s).strict
    | .pipeline stages => (runStages n stages s).strict
    | .negation body =>
      let s := runGuarded n body s
      if s.goesOn then s.finish (if s.status = 0 then 1 else 0) else s
    | .both first second =>
      let s := runGuarded n first s
      if s.goesOn && s.status = 0 then run n second s else s
    | .either first second =>
      let s := runGuarded n first s
      if s.goesOn && s.status ≠ 0 then run n second s else s
    | .sequence first second =>
      let s := run n first s
      match second with
      | .nothing => s
      | second => if s.goesOn then run n second s else s
    | .subshell body => (s.rejoin (atEnd n (run n body { s with traps := [] }))).strict
    | .redirected body redirects =>
      match openAll n redirects s with
      | .error failed => { failed with places := s.places }.strict
      | .ok opened => { run n body opened with places := s.places }
    | .branch check body otherwise =>
      let s := runGuarded n check s
      if !s.goesOn then s else if s.status = 0 then run n body s else run n otherwise s
    | .loop untilDone check body => runLoop n untilDone check body (s.finish 0) 0
    | .each name words body =>
      let (values, s) := match words with
        | some words => fillFields n words s
        | none => (s.parameters, s)
      if s.goesOn then runEach n name values body (s.finish 0) else s
    | .choice subject arms =>
      let (t, s) := fillWhole n subject s
      runArms n t arms s
    | .located below body => run n body { s with line := s.lineEnds - below + 1 }
    | .definition name body =>
      { s with functions := (name, body) :: s.functions.filter (·.1 ≠ name) }.finish 0

/-- Run what has been asked for at the end. -/
def atEnd : Nat → State → State
  | 0, s => s
  | n + 1, s =>
    match if s.flow = .killed then none else s.traps.lookup "EXIT".toList with
    | some action =>
      let after := runText n action { s with traps := [], flow := .onward }
      { after with status := s.status, flow := .exited }
    | none => s

/-- Run the stages of a pipeline, each with the output of the one before it as its input. -/
def runStages : Nat → List Command → State → State
  | 0, _, s => s
  | _ + 1, [], s => s
  | n + 1, [c], s => s.rejoin (run n c s)
  | n + 1, c :: rest, s =>
    let place := s.streams.length
    let after := s.rejoin (run n c (s.openStream 1 (.text [])))
    if after.goesOn then { runStages n rest (after.place 0 place) with places := s.places } else after

/-- Run a loop, whose last round has ended with a status. -/
def runLoop : Nat → (untilDone : Bool) → (check body : Command) → State → (status : Nat) → State
  | 0, _, _, _, s, _ => s
  | n + 1, untilDone, check, body, s, status =>
    let s := runGuarded n check s
    if !s.goesOn then
      match s.flow with
      | .leave loops => { s with flow := if loops ≤ 1 then .onward else .leave (loops - 1) }
      | _ => s
    else if (s.status = 0) = untilDone then s.finish status
    else
      let s := run n body s
      match s.flow with
      | .onward => runLoop n untilDone check body s s.status
      | .leave loops => { s with flow := if loops ≤ 1 then .onward else .leave (loops - 1) }
      | .next loops =>
        if loops ≤ 1 then runLoop n untilDone check body { s with flow := .onward } s.status
        else { s with flow := .next (loops - 1) }
      | _ => s

/-- Run a command once for each of some values of a variable. -/
def runEach : Nat → (name : Text) → (values : List Text) → (body : Command) → State → State
  | 0, _, _, _, s => s
  | _ + 1, _, [], _, s => s
  | n + 1, name, value :: values, body, s =>
    let s := s.assignTo name value
    let s := if s.goesOn then run n body s else s
    match s.flow with
    | .onward => runEach n name values body s
    | .leave loops => { s with flow := if loops ≤ 1 then .onward else .leave (loops - 1) }
    | .next loops =>
      if loops ≤ 1 then runEach n name values body { s with flow := .onward }
      else { s with flow := .next (loops - 1) }
    | _ => s

/-- Run the first arm that has a pattern for a text. -/
def runArms : Nat → Text → List (List Word × Command) → State → State
  | 0, _, _, s => s
  | _ + 1, _, [], s => s.finish 0
  | n + 1, t, (patterns, body) :: arms, s =>
    let (chosen, s) := matchesAny n t patterns s
    if !s.goesOn then s else if chosen then run n body s else runArms n t arms s

/-- Whether one of some patterns is one for a text. -/
def matchesAny : Nat → Text → List Word → State → Bool × State
  | 0, _, _, s => (false, s)
  | _ + 1, _, [], s => (false, s)
  | n + 1, t, w :: rest, s =>
    let (marks, s) := fillWord n (s.tilde w) s
    if (Glob.ofMarked (Mark.marked marks)).isMatch t then (true, s) else matchesAny n t rest s

/-- Give variables the values of words. -/
def assign : Nat → List (Text × Word) → State → State
  | 0, _, s => s
  | _ + 1, [], s => s
  | n + 1, (name, w) :: rest, s =>
    let (value, s) := fillWhole n w s
    if s.goesOn then assign n rest (s.assignTo name value) else s

/-- Run a command that is words, assignments and redirections. -/
def runSimple : Nat → List (Text × Word) → List Word → List Redirect → State → State
  | 0, _, _, _, s => s
  | n + 1, assignments, words, redirects, s =>
    let (argv, s) := fillFields n words s
    if !s.goesOn then s
    else
      let runsCommand := (assignments.map (·.2)).any fun w => w.any fun
        | .output _ _ => true
        | _ => false
      match openAll n redirects s with
      | .error failed =>
        let failed := { failed with places := s.places }
        if argv.head?.any specialNames.contains then { failed with flow := .exited } else failed
      | .ok opened =>
        match argv with
        | [] =>
          let after := { assign n assignments opened with places := s.places }
          let after := if runsCommand || !after.goesOn then after else after.finish 0
          after.trace s (assignments.map (·.1)) []
        | name :: args =>
          let inner := assign n assignments opened
          if !inner.goesOn then { inner with places := s.places }
          else
            let names := assignments.map (·.1)
            let inner := names.foldl State.exportName (inner.trace s names argv)
            let after := runWords n name args inner
            let kept :=
              if assignments = [] || specialNames.contains name then after
              else
                { after with
                  values := s.values.filter (fun v => names.contains v.1) ++
                    after.values.filter fun v => !names.contains v.1
                  exported := s.exported }
            if name = "exec".toList && args = [] then kept else { kept with places := s.places }

/-- Run a command by its name. -/
def runWords : Nat → (name : Text) → (args : List Text) → State → State
  | 0, _, _, s => s
  | n + 1, name, args, s =>
    match s.functions.lookup name with
    | some body =>
      let after := run n body { s with parameters := args, shadowed := some [] }
      { after.unshadow with
        parameters := s.parameters
        shadowed := s.shadowed
        flow := if after.flow = .fromFunction then .onward else after.flow }
    | none =>
      match ownTools.lookup (String.ofList name) with
      | some tool => tool args s
      | none =>
        match String.ofList name with
        | "exit" =>
          s.withNumber "exit" args s.status fun k => { s with status := k % 256, flow := .exited }
        | "return" =>
          s.withNumber "return" args s.status fun k => { s with status := k % 256, flow := .fromFunction }
        | "break" => s.withNumber "break" args 1 fun k => { s with status := 0, flow := .leave k }
        | "continue" => s.withNumber "continue" args 1 fun k => { s with status := 0, flow := .next k }
        | "shift" =>
          s.withNumber "shift" args 1 fun k =>
            if k ≤ s.parameters.length then { s with status := 0, parameters := s.parameters.drop k }
            else s.abort "shift: can't shift that many"
        | "cd" => s.changeDirectory args
        | "pwd" => (s.emit (s.files.workDir ++ ['\n'])).finish 0
        | "export" => s.exports args
        | "readonly" => s.readonly args
        | "local" => s.localise args
        | "unset" => s.unsetAll args
        | "read" => s.read args
        | "kill" =>
          let (s, action) := s.kill args
          if action = [] || !s.goesOn then s else runText n action s
        | "set" =>
          if args = [] then
            let shown := s.values.mergeSort fun a b => !Text.before b.1 a.1
            (s.emit (ofBodies (shown.map fun (name, t) => name ++ "='".toList ++ t ++ ['\'']))).finish 0
          else State.setOptions (args.length + 1) args (s.finish 0)
        | "trap" => s.trap args
        | "getopts" => s.nextOption args
        | "alias" => s.aliased args
        | "unalias" => s.unalias args
        | "type" => s.showKinds args
        | "which" => s.which args
        | "umask" =>
          let mask : Text :=
            if args = [] then "0022\n" else if args = ["-S".toList] then "u=rwx,g=rx,o=rx\n" else []
          (s.emit mask).finish 0
        | "ulimit" => (s.emit (if args = [] then "unlimited\n".toList else [])).finish 0
        | "wait" | "times" | "hash" | "jobs" => s.finish 0
        | "bg" | "fg" => (s.complainOf (name ++ ": No current job".toList)).finish 2
        | "eval" =>
          { runText n (Text.join [' '] args) { s with script := "eval: ".toList } with script := s.script }
        | "." =>
          match args with
          | [] => s.finish 0
          | path :: _ =>
            match if path.contains '/' then s.textOf path else .error .notFound with
            | .ok t => { runText n t { s with script := path ++ ": ".toList } with script := s.script }
            | .error _ =>
              if path.contains '/' then s.abort (".: cannot open ".toList ++ path ++ ": No such file".toList)
              else s.abort (".: ".toList ++ path ++ ": not found".toList)
        | "exec" =>
          match args with
          | [] => s.finish 0
          | name :: args =>
            if isProgram name then
              let after := runWords n name args { s with functions := [], traps := [] }
              if after.goesOn then { after with flow := .exited } else after
            else { (s.abort ("exec: ".toList ++ name ++ ": not found".toList)) with status := 127 }
        | "command" =>
          match args with
          | ['-', 'v'] :: name :: _ => s.locate name
          | ['-', 'V'] :: name :: _ => s.showKinds [name]
          | ['-', 'v'] :: _ | ['-', 'V'] :: _ => s.finish 0
          | ['-', 'p'] :: name :: args | ['-', '-'] :: name :: args =>
            { runWords n name args { s with functions := [] } with functions := s.functions }
          | [] => s.finish 0
          | name :: args =>
            { runWords n name args { s with functions := [] } with functions := s.functions }
        | "sh" | "dash" | "bash" => runShell n args s
        | "env" => runWithin n args s
        | "nice" | "nohup" | "timeout" =>
          match if name = "timeout".toList then args.drop 1 else args with
          | [] => s.finish 0
          | name :: args => { runWords n name args { s with functions := [] } with functions := s.functions }
        | "xargs" => runOnInput n args s
        | _ =>
          if name.contains '/' && runners.contains (String.ofList (programName name)) then
            { runWords n (programName name) args { s with functions := [] } with functions := s.functions }
          else runProgram name args s

/-- Run a shell inside the shell, which sees only what programs see. -/
def runShell : Nat → (args : List Text) → State → State
  | 0, _, s => s
  | n + 1, args, s =>
    let child (name : Text) (parameters : List Text) : State :=
      { s with
        values := withPath s.environment, functions := [], name, parameters, options := [], guarded := false
        constants := [], shadowed := none, traps := [], aliases := [], script := [] }
    match args with
    | ['-', 'c'] :: source :: rest =>
      s.rejoin (atEnd n (runText n source (child (rest.headD "sh".toList) (rest.drop 1))))
    | [] =>
      let (source, s) := s.takeInput
      s.rejoin (atEnd n (runText n source (child "sh".toList [])))
    | path :: rest =>
      match s.textOf path with
      | .ok source => s.rejoin (atEnd n (runText n source (child path rest)))
      | .error _ =>
        (s.complainOf ("0: cannot open ".toList ++ path ++ ": No such file".toList)).finish 2

/-- Run a command among other variables, or show the variables. -/
def runWithin : Nat → (args : List Text) → State → State
  | 0, _, s => s
  | n + 1, args, s =>
    match args with
    | [] => printenv [] s
    | word :: rest =>
      if word = ['-', 'i'] || word = ['-'] then
        { runWithin n rest { s with values := [], exported := [] } with
          values := s.values, exported := s.exported }
      else if word = ['-', 'u'] then
        { runWithin n (rest.drop 1) (s.unset (rest.headD [])) with values := s.values, exported := s.exported }
      else
        match Text.splitFirst? (· = '=') word with
        | some (name, value) =>
          { runWithin n rest ((s.set name value).exportName name) with
            values := s.values, exported := s.exported }
        | none =>
          if isProgram word then
            runWords n word rest { s with functions := [] }
          else
            (s.complain ("env: '".toList ++ word ++ "': No such file or directory".toList)).finish 127

/-- Run a command with the words of the input behind its own. -/
def runOnInput : Nat → (args : List Text) → State → State
  | 0, _, s => s
  | n + 1, args, s =>
    let (t, s) := s.takeInput
    let (f, command) := Feeding.read (args.length + 1 + (args.map List.length).foldl (· + ·) 0) args {}
    match f.items t with
    | .error quote =>
      (s.complain ("xargs: unmatched ".toList ++ (if quote = '"' then "double" else "single").toList ++
        " quote; by default quotes are special to xargs unless you use the -0 option".toList)).finish 1
    | .ok items =>
      (f.commands command items).foldl (fun s words =>
        match words with
        | [] => s
        | name :: args =>
          let before := s.status
          let s := if f.shows then s.complain (Text.join [' '] words) else s
          if isProgram name then
            let after := runWords n name args { s with functions := [] }
            { after with functions := s.functions, status := if after.status = 0 then before else 123 }
          else (s.complain ("xargs: ".toList ++ name ++ ": No such file or directory".toList)).finish 127) (s.finish 0)

/-- Run a program by its name. -/
def runProgram (name : Text) (args : List Text) (s : State) : State :=
  match program? name with
  | some tool => tool args s
  | none =>
    if name.contains '/' && s.files.has name then
      (s.complainOf (name ++ ": Permission denied".toList)).finish 126
    else (s.complainOf (name ++ ": not found".toList)).finish 127

end

end Shell
end ExEditor
