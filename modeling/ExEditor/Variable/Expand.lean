import ExEditor.Disk.Path
import ExEditor.Failure
import ExEditor.Host
import ExEditor.Settings
import ExEditor.Store.Shelf

/-! Expanding variables to text. A template names other variables, whose expansions may ask the user
or change the store; each is made in the state that the ones before it have left. -/
namespace ExEditor

/-- What an expansion may look at, besides the store and the surroundings. -/
structure ExpansionContext where
  settings : Settings := {}
  filename : Option Text := none
  cwd : Text := ['/']

/-- What an expansion may change. -/
structure ExpansionState where
  shelf : Shelf := {}
  host : Host := {}

namespace Variable

/-- The format of a date or time variable that has none of its own. -/
def defaultFormat (name : Text) : Text :=
  if name = "Date" then "%Y-%m-%d"
  else if name = "Datetime" then "%Y-%m-%d %H:%M:%S"
  else if name = "Time" then "%H:%M:%S"
  else "%Y"

/-- The text of a builtin. -/
def builtinText (context : ExpansionContext) (now : Clock) (v : Variable) : Except Failure Text :=
  let comments := context.settings
  match String.ofList v.name with
  | "Date" | "Datetime" | "Time" | "Year" =>
    let format := v.format.getD (defaultFormat v.name)
    match now.render? format with
    | some t => .ok t
    | none => .error (.malformed (.badDateFormat format))
  | "Filename" => .ok ((context.filename.bind Path.fileName?).getD [])
  | "Fullname" => .ok (context.filename.getD [])
  | "Path" => .ok ((context.filename.bind Path.parent?).getD [])
  | "Cb" => .ok comments.commentBegin
  | "Ce" => .ok comments.commentEnd
  | "Cl" =>
    .ok (if comments.commentEnd = [] then comments.commentBegin
      else comments.commentBegin ++ ' ' :: comments.commentEnd)
  | _ => .error (.malformed (.unknownBuiltin v.name))

/-- An environment variable. -/
def environmentText (host : Host) (key : Text) : Except Failure Text :=
  match host.environment.lookup key with
  | some value => .ok value
  | none => .error (.io (.environmentUnset key))

/-- Ask the user for the text of a variable, which is kept in the variable if its kind says so. -/
def askUser (v : Variable) (host : Host) : Except Failure (Text × Variable) × Host :=
  if !v.ask then (.ok (v.value.getD [], v), host)
  else
    match host.input v.name (v.value.getD []) with
    | (none, host) => (.error .cancelled, host)
    | (some answer, host) =>
      let value := if v.kind.isCached then some answer else v.value
      let ask := !(v.kind == .inputOnce && answer ≠ [])
      (.ok (answer, { v with value, ask }), host)

/-- Run the command of a variable. Line breaks at the end of its output are dropped. -/
def commandText (v : Variable) (cwd : Text) (state : ExpansionState) :
    Except Failure Text × ExpansionState :=
  match v.value with
  | none => (.error (.malformed (.variableWithoutCommand v.name)), state)
  | some command =>
    let (result, host, files) := state.host.run state.shelf.files command cwd none
    let state := { host, shelf := { state.shelf with files } }
    match result with
    | .refused reason => (.error (.process reason), state)
    | .output o =>
      match o.complaint? with
      | some complaint => (.error (.process complaint), state)
      | none => (.ok (Text.dropEndWhile Text.isBreak o.stdout), state)

/-- The file of a template. -/
def templatePath (context : ExpansionContext) (file : Text) : Text :=
  Path.join (context.settings.templateDir.getD context.cwd) file

/-- The text of the template of a variable. -/
def templateText (context : ExpansionContext) (files : FileTree) (v : Variable) : Except Failure Text :=
  match v.value with
  | none => .error (.malformed (.variableWithoutTemplate v.name))
  | some file =>
    let path := templatePath context file
    match files.readText path with
    | .ok t => .ok t
    | .error fault => .error (.io (.unreadable path fault.reason))

/-- Put the prefix of a variable in front of every line of a text. -/
def prefixLines (v : Variable) (t : Text) : Text :=
  match v.linePrefix with
  | some p => if p = [] then t else (Text.splitAfter (· = '\n') t).flatMap (p ++ ·)
  | none => t

/-- A piece of a template. -/
inductive Piece
  | literal (t : Text)
  | token (name : Text)
  /-- An `@` that no other one follows, with the text behind it. -/
  | unterminated (rest : Text)
  deriving DecidableEq, Repr

/-- The pieces of a template. `token` holds the name being read, if there is one. Two `@` in a row are
one as text. -/
def pieces : (token : Option Text) → Text → List Piece
  | none, [] => []
  | some name, [] => [.unterminated name]
  | none, c :: t => if c = '@' then pieces (some []) t else .literal [c] :: pieces none t
  | some name, c :: t =>
    if c = '@' then (if name = [] then .literal ['@'] else .token name) :: pieces none t
    else pieces (some (name ++ [c])) t

/-- A way to expand a variable by its name. -/
abbrev Expander := Text → ExpansionState → Except Failure Text × ExpansionState

/-- Expand the pieces of a template from left to right, up to the first that fails. -/
def expandPieces (expand : Expander) :
    List Piece → ExpansionState → Except Failure Text × ExpansionState
  | [], state => (.ok [], state)
  | piece :: rest, state =>
    let (front, state) : Except Failure Text × ExpansionState := match piece with
      | .literal t => (.ok t, state)
      | .token name => expand name state
      | .unterminated t => (.error (.malformed (.unterminatedToken t.trimEnd)), state)
    match front with
    | .error failure => (.error failure, state)
    | .ok t =>
      let (others, state) := expandPieces expand rest state
      (others.map (t ++ ·), state)

/-- The text of a variable, and the variable as it is afterwards. `expand` expands the variables that
a template names. -/
def expandWith (expand : Expander) (context : ExpansionContext) (v : Variable)
    (state : ExpansionState) : Except Failure (Text × Variable) × ExpansionState :=
  let unchanged (r : Except Failure Text) := r.map (·, v)
  match v.kind with
  | .builtin => (unchanged (builtinText context state.host.now v), state)
  | .environment => (unchanged (environmentText state.host (v.value.getD v.name)), state)
  | .fixed => (.ok (v.value.getD [], v), state)
  | .input | .inputOnce | .inputSave =>
    let (result, host) := askUser v state.host
    (result, { state with host })
  | .process =>
    let (result, state) := commandText v context.cwd state
    (unchanged result, state)
  | .template =>
    match templateText context state.shelf.files v with
    | .error failure => (.error failure, state)
    | .ok t =>
      let (result, state) := expandPieces expand (pieces none t) state
      (unchanged result, state)

/-- Expand a variable by its name; `visiting` names those whose expansion is under way. A name that
is not known stands for a new variable, of a kind that is not kept. The first argument bounds how deep
expansions may nest. -/
def expandNested (context : ExpansionContext) : Nat → (visiting : List Text) → Expander
  | 0, visiting, name, state => (.error (.recursion (.templateCycle name visiting)), state)
  | n + 1, visiting, name, state =>
    if visiting.contains name then (.error (.recursion (.templateCycle name visiting)), state)
    else
      let v := (state.shelf.store.findVariable? name).getD (firstReference name)
      match expandWith (expandNested context n (visiting ++ [name])) context v state with
      | (.error failure, state) => (.error failure, state)
      | (.ok (t, v), state) =>
        let state :=
          if v.kind.isCached then { state with shelf := state.shelf.setVariable v } else state
        (.ok (prefixLines v t), state)

/-- Expand a variable by its name. Templates nest at most as deep as there are variables, since none
is expanded inside itself and no expansion makes a new template. -/
def expand (context : ExpansionContext) : Expander := fun name state =>
  expandNested context (state.shelf.store.vars.length + 2) [] name state

end Variable
end ExEditor
