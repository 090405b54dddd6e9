import ExEditor.Command.Parse
import ExEditor.Frame.Basic
import ExEditor.Shell.Process
import ExEditor.Variable.DateFormat

/-! What a session asks of its surroundings: showing messages, asking the user, running commands. The
answers are given beforehand, and everything that is asked is kept. -/
namespace ExEditor

/-- Answer to a question. -/
inductive Confirm
  | yes
  | no
  | cancel
  deriving DecidableEq, Repr

/-- What a command is answered with: something given, or what a shell makes of it. -/
inductive ProcessAnswer
  | given (result : ProcessResult)
  | shell
  deriving DecidableEq, Repr

/-- An answer, during which everything may be cancelled. -/
structure Reply (α : Type) where
  answer : α
  cancels : Bool := false
  deriving DecidableEq, Repr

/-- What went out to the surroundings. -/
inductive Event
  | message (text : Text)
  /-- A question, with what was selected when it was asked. -/
  | question (text : Text) (selection : Selection)
  | prompt (text default : Text)
  /-- A command, the directory it ran in, and the text of the file that is its last argument. -/
  | run (command directory : Text) (file : Option Text)
  deriving DecidableEq, Repr

/-- The surroundings of a session. -/
structure Host where
  environment : List (Text × Text) := []
  /-- Directory of the user's account, for when the environment does not name it. -/
  account : Option Text := none
  now : Clock := {}
  /-- Answers to the next questions, and the answer to those after them. -/
  confirms : List (Reply Confirm) := []
  unanswered : Confirm := .cancel
  /-- Answers to the next prompts; `none` cancels. Later prompts take their default. -/
  inputs : List (Option Text) := []
  /-- What the next commands leave, and what those after them leave. -/
  processes : List (Reply ProcessAnswer) := []
  withoutProcess : ProcessAnswer := .given (.output {})
  /-- Whether everything is to stop. -/
  cancelled : Bool := false
  /-- After how many more looks at it that flag goes up from outside, if it does. -/
  cancelsAfter : Option Nat := none
  /-- What went out, latest first. -/
  events : List Event := []
  /-- The texts that questions were asked about, latest first. -/
  displayed : List Text := []
  /-- The commands that were logged, latest first. -/
  log : List Command := []

namespace Host

/-- Keep what went out. -/
def note (h : Host) (e : Event) : Host := { h with events := e :: h.events }

/-- Show a message. -/
def tell (h : Host) (t : Text) : Host := h.note (.message t)

/-- Look whether everything is to stop. -/
def look (h : Host) : Bool × Host :=
  match h.cancelsAfter with
  | none => (h.cancelled, h)
  | some 0 => (true, { h with cancelled := true, cancelsAfter := none })
  | some (n + 1) => (h.cancelled, { h with cancelsAfter := some n })

/-- Show a text that a question is about. -/
def display (h : Host) (t : Text) : Host := { h with displayed := t :: h.displayed }

/-- Ask a question. -/
def confirm (h : Host) (question : Text) (selection : Selection) : Confirm × Host :=
  let h := h.note (.question question selection)
  match h.confirms with
  | [] => (h.unanswered, h)
  | reply :: rest =>
    (reply.answer, { h with confirms := rest, cancelled := h.cancelled || reply.cancels })

/-- Ask for a line of text. -/
def input (h : Host) (prompt default : Text) : Option Text × Host :=
  let h := h.note (.prompt prompt default)
  match h.inputs with
  | [] => (some default, h)
  | answer :: rest => (answer, { h with inputs := rest })

/-- The answer to a command. -/
def answer (h : Host) : ProcessAnswer × Host :=
  match h.processes with
  | [] => (h.withoutProcess, h)
  | reply :: rest =>
    (reply.answer, { h with processes := rest, cancelled := h.cancelled || reply.cancels })

/-- Run a command in a directory. It may read and change files, and `file` is the text of the one that is
its last argument. -/
def run (h : Host) (files : FileTree) (command directory : Text) (file : Option Text) :
    ProcessResult × Host × FileTree :=
  match (h.note (.run command directory file)).answer with
  | (.given result, h) => (result, h, files)
  | (.shell, h) =>
    let (result, files) := Shell.runProcess command file h.environment directory files
    (result, h, files)

/-- Messages that were shown, in order. -/
def messages (h : Host) : List Text :=
  h.events.reverse.filterMap fun
    | .message t => some t
    | _ => none

/-- Questions that were asked, in order. -/
def questions (h : Host) : List Text :=
  h.events.reverse.filterMap fun
    | .question t _ => some t
    | _ => none

/-- Prompts that were given, in order. -/
def prompts (h : Host) : List Text :=
  h.events.reverse.filterMap fun
    | .prompt t _ => some t
    | _ => none

end Host
end ExEditor
