import ExEditor.Failure

/-! Options of a session, changed by `set`. -/
namespace ExEditor

/-- The options. -/
structure Settings where
  /-- Searches and substitutions ignore case. -/
  ignoreCase : Bool := false
  /-- A search goes on at the other end of the text. -/
  wrapScan : Bool := true
  shiftWidth : Nat := 4
  /-- Lines are indented by blanks instead of tabs. -/
  expandTab : Bool := true
  commentBegin : Text := "//"
  commentEnd : Text := []
  /-- Directory that template files are read from. -/
  templateDir : Option Text := none
  deriving DecidableEq, Repr

namespace Settings

/-- What one step of indentation inserts. -/
def indentUnit (s : Settings) : Text :=
  if s.expandTab then List.replicate s.shiftWidth ' ' else ['\t']

/-- The name of a switch as listed, with `no` in front if it is off. -/
def switchName (on : Bool) (name : Text) : Text := if on then name else 'n' :: 'o' :: name

/-- The options as `set all` shows them. -/
def listing (s : Settings) : Text :=
  Text.join [' '] <|
    [switchName s.ignoreCase "ignorecase", switchName s.wrapScan "wrapscan",
     switchName s.expandTab "expandtab", "shiftwidth=" ++ Text.ofNat s.shiftWidth,
     "commentbegin=" ++ s.commentBegin]
      ++ if s.commentEnd = [] then [] else ["commentend=" ++ s.commentEnd]

/-- Turn the options that are on or off by name. -/
def switch? (s : Settings) (name : String) : Option Settings :=
  match name with
  | "ic" | "ignorecase" => some { s with ignoreCase := true }
  | "noic" | "noignorecase" => some { s with ignoreCase := false }
  | "ws" | "wrapscan" => some { s with wrapScan := true }
  | "nows" | "nowrapscan" => some { s with wrapScan := false }
  | "et" | "expandtab" => some { s with expandTab := true }
  | "noet" | "noexpandtab" => some { s with expandTab := false }
  | _ => none

/-- Apply one option, `name` or `name=value`, that changes something. -/
def applyOption (s : Settings) (option : Text) : Except Failure Settings :=
  let unknown : Except Failure Settings := .error (.malformed (.unknownOption option))
  match option.splitFirst? (· = '=') with
  | none => (s.switch? (String.ofList option)).elim unknown .ok
  | some (name, value) =>
    match String.ofList name with
    | "sw" | "shiftwidth" =>
      match value.readWord? with
      | some (n + 1) => .ok { s with shiftWidth := n + 1 }
      | _ => .error (.malformed (.invalidShiftWidth value))
    | "cb" | "commentbegin" => .ok { s with commentBegin := value }
    | "ce" | "commentend" => .ok { s with commentEnd := value }
    | "td" | "templatedir" => .ok { s with templateDir := some value }
    | _ => unknown

/-- Apply options from left to right. `all` asks for the listing as it is at that point. What was
applied before an option that is refused stays applied. -/
def applyOptions (s : Settings) (shown : Option Text) :
    List Text → Settings × Except Failure (Option Text)
  | [] => (s, .ok shown)
  | option :: rest =>
    if option = "all" then applyOptions s (some s.listing) rest
    else
      match s.applyOption option with
      | .ok s => applyOptions s shown rest
      | .error failure => (s, .error failure)

/-- Apply the arguments of `set`. The result is the listing, if it was asked for. -/
def apply (s : Settings) (arguments : Text) : Settings × Except Failure (Option Text) :=
  s.applyOptions none arguments.words

end Settings
end ExEditor
