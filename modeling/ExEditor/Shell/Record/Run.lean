import ExEditor.Shell.Record.Value
import ExEditor.Shell.Tool.Search

/-! Running programs on records. The first argument of each function that runs something bounds how many
may run one inside the other or one after the other. -/
namespace ExEditor
namespace Shell
namespace Record

/-- What is done after a statement. -/
inductive Flow
  | onward
  | leave
  | again
  | next
  | exit
  deriving DecidableEq, Repr

/-- A program at work. -/
structure Run where
  shell : State
  values : List (Text × Value) := []
  arrays : List (Text × List (Text × Value)) := []
  record : Text := []
  fields : List Text := []
  /-- Files that have been written to. -/
  opened : List Text := []
  /-- Rules of ranges that have begun, by their numbers. -/
  within : List Nat := []
  flow : Flow := .onward

namespace Run

/-- A text that a variable holds. -/
def setting (r : Run) (name : String) : Text := ((r.values.lookup name.toList).getD .unset).toText

/-- Give a variable a value. -/
def put (r : Run) (name : Text) (v : Value) : Run :=
  { r with values := (name, v) :: r.values.filter (·.1 ≠ name) }

/-- What a regular expression looks for; what is none looks for nothing. -/
def finder (t : Text) : Option Finder :=
  (finderOf { extended := true, hasControls := true, quotesInSets := true } false t).toOption

/-- Cut a text where something is found. -/
def cutAt (m : Finder) (t : Text) : List Text :=
  let found := (m.findAll t).filter fun hit => hit.start < hit.stop
  let rec pieces (offset : Nat) (rest : Text) : List Found → List Text
    | [] => [rest]
    | hit :: hits =>
      rest.take (hit.start - offset) :: pieces hit.stop (rest.drop (hit.stop - offset)) hits
  pieces 0 t found

/-- The fields of a text. -/
def fieldsOf (separator t : Text) : List Text :=
  if t = [] then []
  else
    match separator with
    | [' '] => ((t.splitOnP fun c => c = ' ' || c = '\t' || c = '\n').filter (· ≠ []))
    | [c] => if c = '\\' || c = '|' || !".+*?()|[]\x7b\x7d^$".toList.contains c then t.splitOn c else byPattern [c]
    | [] => t.map fun c => [c]
    | separator => byPattern separator
where
  /-- The fields between the places that a regular expression matches. -/
  byPattern (separator : Text) : List Text :=
    match finder separator with
    | some m => cutAt m t
    | none => [t]

/-- Take a text as the record. -/
def setRecord (r : Run) (t : Text) : Run := { r with record := t, fields := fieldsOf (r.setting "FS") t }

/-- Take fields as those of the record. -/
def setFields (r : Run) (fields : List Text) : Run :=
  { r with fields, record := Text.join (r.setting "OFS") fields }

/-- A field, or the record under the number 0. -/
def field (r : Run) (n : Int) : Value :=
  if n ≤ 0 then .input r.record
  else
    match r.fields[n.toNat - 1]? with
    | some t => .input t
    | none => .unset

/-- Fields with empty ones behind them, as many as are asked for. -/
def padded (count : Nat) (fields : List Text) : List Text :=
  fields.take count ++ List.replicate (count - fields.length) []

/-- Give a field a value. -/
def putField (r : Run) (n : Int) (t : Text) : Run :=
  if n ≤ 0 then r.setRecord t
  else r.setFields ((padded (max n.toNat r.fields.length) r.fields).set (n.toNat - 1) t)

/-- The value of a variable. -/
def value (r : Run) (name : Text) : Value :=
  if name = "NF".toList then .number r.fields.length else (r.values.lookup name).getD .unset

/-- Give a variable a value. The number of fields is one that can be changed. -/
def assign (r : Run) (name : Text) (v : Value) : Run :=
  if name = "NF".toList then r.setFields (padded (truncate v.toNumber).toNat r.fields) else r.put name v

/-- The items of an array. -/
def items (r : Run) (array : Text) : List (Text × Value) := (r.arrays.lookup array).getD []

/-- Give an array its items. -/
def putItems (r : Run) (array : Text) (items : List (Text × Value)) : Run :=
  { r with arrays := (array, items) :: r.arrays.filter (·.1 ≠ array) }

/-- The value of an item, which is made if it is not there. -/
def item (r : Run) (array index : Text) : Value × Run :=
  match (r.items array).lookup index with
  | some v => (v, r)
  | none => (.unset, r.putItems array (r.items array ++ [(index, .unset)]))

/-- Give an item a value. -/
def putItem (r : Run) (array index : Text) (v : Value) : Run :=
  let items := r.items array
  if (items.lookup index).isSome then
    r.putItems array (items.map fun x => if x.1 = index then (index, v) else x)
  else r.putItems array (items ++ [(index, v)])

/-- What a replacement makes of a match: `&` stands for the match unless it is quoted. -/
def replaced (found : Text) : Text → Text
  | [] => []
  | '\\' :: '&' :: t => '&' :: replaced found t
  | '\\' :: '\\' :: t => '\\' :: replaced found t
  | '&' :: t => found ++ replaced found t
  | c :: t => c :: replaced found t

/-- Replace the first match in a text, or all of them, and count them. -/
def substitute (m : Finder) (all : Bool) (replacement t : Text) : Text × Nat :=
  let found := if all then m.findAll t else (m.find? t).toList
  let rec pieces (offset : Nat) (rest : Text) : List Found → Text
    | [] => rest
    | hit :: hits =>
      let matched := rest.drop (hit.start - offset)
      rest.take (hit.start - offset) ++ replaced (matched.take (hit.stop - hit.start)) replacement ++
        pieces hit.stop (matched.drop (hit.stop - hit.start)) hits
  (pieces 0 t found, found.length)

/-- A part of a text, from a number on that is counted from 1. -/
def part (t : Text) (start : Rat) (size : Option Rat) : Text :=
  let first := nearest start
  let stop : Int := match size with
    | some n => nearest (start + n)
    | none => t.length + 1
  (t.take (stop - 1).toNat).drop (first - 1).toNat

/-- Where a text begins in another, counted from 1, or 0. -/
def placeOf (wanted t : Text) : Nat :=
  let places := (List.range (t.length + 1)).filter fun n => wanted.isPrefixOf (t.drop n)
  match places with
  | n :: _ => if wanted = [] then 0 else n + 1
  | [] => 0

/-- Write to the output, or to a file, which is made anew when it is first written to. -/
def write (r : Run) (target : Option (Bool × Text)) (t : Text) : Run :=
  match target with
  | none => { r with shell := r.shell.emit t }
  | some (appends, path) =>
    if path = "/dev/stdout".toList || path = ['-'] then { r with shell := r.shell.emit t }
    else if path = "/dev/stderr".toList then { r with shell := r.shell.write 2 t }
    else
      let old := if appends || r.opened.contains path then (r.shell.textOf path).toOption.getD [] else []
      { r with shell := r.shell.writeFile path (old ++ t), opened := path :: r.opened }

end Run

mutual

/-- The value of an expression. -/
def evaluate : Nat → Expr → Run → Value × Run
  | 0, _, r => (.unset, r)
  | n + 1, e, r =>
    match e with
    | .number x => (.number x, r)
    | .text t => (.text t, r)
    | .pattern t => (.ofBool ((Run.finder t).any fun m => m.isMatch r.record), r)
    | .name name => (r.value name, r)
    | .field index =>
      let (v, r) := evaluate n index r
      (r.field (truncate v.toNumber), r)
    | .item array index =>
      let (v, r) := evaluate n index r
      r.item array v.toText
    | .isIn array index =>
      let (v, r) := evaluate n index r
      (.ofBool ((r.items array).lookup v.toText).isSome, r)
    | .pair first second =>
      let (v, r) := evaluate n first r
      let (w, r) := evaluate n second r
      (.text (v.toText ++ r.setting "SUBSEP" ++ w.toText), r)
    | .assign target none value =>
      let (v, r) := evaluate n value r
      (v, store n target v r)
    | .assign target (some operator) value =>
      let (w, r) := evaluate n value r
      let (v, r) := evaluate n target r
      let v := v.apply operator w
      (v, store n target v r)
    | .step target amount showsOld =>
      let (v, r) := evaluate n target r
      let old := v.toNumber
      let r := store n target (.number (old + amount)) r
      (.number (if showsOld then old else old + amount), r)
    | .choice check first second =>
      let (v, r) := evaluate n check r
      evaluate n (if v.isTrue then first else second) r
    | .both first second =>
      let (v, r) := evaluate n first r
      if v.isTrue then
        let (w, r) := evaluate n second r
        (.ofBool w.isTrue, r)
      else (.ofBool false, r)
    | .either first second =>
      let (v, r) := evaluate n first r
      if v.isTrue then (.ofBool true, r)
      else
        let (w, r) := evaluate n second r
        (.ofBool w.isTrue, r)
    | .negation e =>
      let (v, r) := evaluate n e r
      (.ofBool !v.isTrue, r)
    | .minus e =>
      let (v, r) := evaluate n e r
      (.number (-v.toNumber), r)
    | .plus e =>
      let (v, r) := evaluate n e r
      (.number v.toNumber, r)
    | .binary operator first second =>
      let (v, r) := evaluate n first r
      let (w, r) := evaluate n second r
      (v.apply operator w, r)
    | .matching negated e pattern =>
      let (v, r) := evaluate n e r
      let (m, r) := finderFor n pattern r
      (.ofBool ((m.any fun m => m.isMatch v.toText) != negated), r)
    | .call name arguments => call n name arguments r

/-- What an expression looks for. -/
def finderFor : Nat → Expr → Run → Option Finder × Run
  | 0, _, r => (none, r)
  | n + 1, e, r =>
    match e with
    | .pattern t => (Run.finder t, r)
    | e =>
      let (v, r) := evaluate n e r
      (Run.finder v.toText, r)

/-- Give what an expression names a value. -/
def store : Nat → Expr → Value → Run → Run
  | 0, _, _, r => r
  | n + 1, target, v, r =>
    match target with
    | .name name => r.assign name v
    | .field index =>
      let (i, r) := evaluate n index r
      r.putField (truncate i.toNumber) v.toText
    | .item array index =>
      let (i, r) := evaluate n index r
      r.putItem array i.toText v
    | _ => r

/-- The values of expressions. -/
def evaluateAll : Nat → List Expr → Run → List Value × Run
  | 0, _, r => ([], r)
  | _ + 1, [], r => ([], r)
  | n + 1, e :: es, r =>
    let (v, r) := evaluate n e r
    let (vs, r) := evaluateAll n es r
    (v :: vs, r)

/-- The value of a function. -/
def call : Nat → (name : Text) → List Expr → Run → Value × Run
  | 0, _, _, r => (.unset, r)
  | n + 1, name, arguments, r =>
    let count (k : Nat) (r : Run) : Value × Run := (.number k, r)
    match String.ofList name, arguments with
    | "length", [] => count r.record.length r
    | "length", .name array :: _ =>
      match r.arrays.lookup array with
      | some items => count items.length r
      | none => count (r.value array).toText.length r
    | "length", e :: _ =>
      let (v, r) := evaluate n e r
      count v.toText.length r
    | "split", e :: .name array :: rest =>
      let (v, r) := evaluate n e r
      let (pieces, r) : List Text × Run := match rest with
        | [] => (Run.fieldsOf (r.setting "FS") v.toText, r)
        | .pattern separator :: _ =>
          ((Run.finder separator).elim [v.toText] fun m => if v.toText = [] then [] else Run.cutAt m v.toText, r)
        | separator :: _ =>
          let (w, r) := evaluate n separator r
          (Run.fieldsOf w.toText v.toText, r)
      count pieces.length (r.putItems array (pieces.zipIdx.map fun (t, i) => (Text.ofNat (i + 1), .input t)))
    | "sub", pattern :: replacement :: rest => replaceIn n false pattern replacement rest r
    | "gsub", pattern :: replacement :: rest => replaceIn n true pattern replacement rest r
    | "match", e :: pattern :: _ =>
      let (v, r) := evaluate n e r
      let (m, r) := finderFor n pattern r
      match m.bind fun m => m.find? v.toText with
      | some hit =>
        let start := hit.start + 1
        let size : Rat := (hit.stop - hit.start : Nat)
        let r := (r.put "RSTART".toList (.number start)).put "RLENGTH".toList (.number size)
        count start r
      | none =>
        count 0 ((r.put "RSTART".toList (.number 0)).put "RLENGTH".toList (.number (-1)))
    | name, arguments =>
      let (values, r) := evaluateAll n arguments r
      let first := values.headD .unset
      match name, values.drop 1 with
      | "substr", start :: rest =>
        (.text (Run.part first.toText start.toNumber (rest.head?.map (·.toNumber))), r)
      | "index", wanted :: _ => count (Run.placeOf wanted.toText first.toText) r
      | "int", _ => (.number (truncate first.toNumber), r)
      | "toupper", _ => (.text (first.toText.map Char.toUpper), r)
      | "tolower", _ => (.text (first.toText.map Char.toLower), r)
      | "sprintf", others =>
        (.text ((formatted (first.toText.length + 1) first.toText others).getD []), r)
      | _, _ => (.unset, r)

/-- Replace matches in the record or in what another expression names, and count them. -/
def replaceIn : Nat → (all : Bool) → (pattern replacement : Expr) → List Expr → Run → Value × Run
  | 0, _, _, _, _, r => (.unset, r)
  | n + 1, all, pattern, replacement, rest, r =>
    let target := rest.headD (.field (.number 0))
    let (m, r) := finderFor n pattern r
    let (w, r) := evaluate n replacement r
    let (v, r) := evaluate n target r
    match m with
    | none => (.number 0, r)
    | some m =>
      let (t, k) := Run.substitute m all w.toText v.toText
      (.number k, if k = 0 then r else store n target (.text t) r)

/-- Where a statement writes. -/
def place : Nat → Target → Run → Option (Bool × Text) × Run
  | 0, _, r => (none, r)
  | _ + 1, .output, r => (none, r)
  | n + 1, .file appends name, r =>
    let (v, r) := evaluate n name r
    (some (appends, v.toText), r)

/-- Run a statement. -/
def perform : Nat → Statement → Run → Run
  | 0, _, r => r
  | n + 1, s, r =>
    match s with
    | .value e => (evaluate n e r).2
    | .print values target =>
      let (found, r) := evaluateAll n values r
      let (goal, r) := place n target r
      let t := if values.isEmpty then r.record else Text.join (r.setting "OFS") (found.map (·.toText))
      r.write goal (t ++ r.setting "ORS")
    | .printf values target =>
      let (found, r) := evaluateAll n values r
      let (goal, r) := place n target r
      let format := (found.headD .unset).toText
      match formatted (format.length + 1) format (found.drop 1) with
      | some t => r.write goal t
      | none =>
        let complaint : Text :=
          "awk: run time error: not enough arguments passed to printf(\"".toList ++ format ++ "\")".toList
        let position : Text :=
          "\tFILENAME=\"".toList ++ r.setting "FILENAME" ++ "\" FNR=".toList ++ r.setting "FNR" ++
            " NR=".toList ++ r.setting "NR"
        { r with shell := ((r.shell.complain complaint).complain position).finish 2, flow := .exit }
    | .branch check body otherwise =>
      let (v, r) := evaluate n check r
      perform n (if v.isTrue then body else otherwise) r
    | .loop checksFirst check step body =>
      if checksFirst then
        let (v, r) := evaluate n check r
        if v.isTrue then performLoop n check step body r else r
      else performLoop n check step body r
    | .each name array body => performEach n name ((r.items array).map (·.1)) body r
    | .block body => performAll n body r
    | .next => { r with flow := .next }
    | .exit none => { r with flow := .exit }
    | .exit (some e) =>
      let (v, r) := evaluate n e r
      { r with flow := .exit, shell := r.shell.finish (truncate v.toNumber % 256).toNat }
    | .leave => { r with flow := .leave }
    | .again => { r with flow := .again }
    | .remove array none => r.putItems array []
    | .remove array (some index) =>
      let (v, r) := evaluate n index r
      r.putItems array ((r.items array).filter (·.1 ≠ v.toText))

/-- Run statements. -/
def performAll : Nat → List Statement → Run → Run
  | 0, _, r => r
  | _ + 1, [], r => r
  | n + 1, s :: rest, r =>
    let r := perform n s r
    if r.flow = .onward then performAll n rest r else r

/-- Run the body of a loop, and go on with its rounds. -/
def performLoop : Nat → (check : Expr) → (step body : Statement) → Run → Run
  | 0, _, _, _, r => r
  | n + 1, check, step, body, r =>
    let r := perform n body r
    if r.flow = .leave then { r with flow := .onward }
    else if r.flow = .onward || r.flow = .again then
      let r := perform n step { r with flow := .onward }
      let (v, r) := evaluate n check r
      if v.isTrue then performLoop n check step body r else r
    else r

/-- Run a body for each index of an array. -/
def performEach : Nat → (name : Text) → (indices : List Text) → (body : Statement) → Run → Run
  | 0, _, _, _, r => r
  | _ + 1, _, [], _, r => r
  | n + 1, name, index :: rest, body, r =>
    let r := perform n body (r.put name (.input index))
    if r.flow = .leave then { r with flow := .onward }
    else if r.flow = .onward || r.flow = .again then
      performEach n name rest body { r with flow := .onward }
    else r

end

/-- Bound on what a program does. -/
def bound : Nat := 1000000

/-- Whether the rule of a number is for the record, or for the time before or behind all records. -/
def applies (number : Nat) (test : Test) (r : Run) : Bool × Run :=
  let holds (e : Expr) (r : Run) : Bool × Run :=
    let (v, r) := evaluate bound e r
    (v.isTrue, r)
  match test with
  | .first | .last => (false, r)
  | .always => (true, r)
  | .holds e => holds e r
  | .between start stop =>
    let (begun, r) := if r.within.contains number then (true, r) else holds start r
    if begun then
      let (ended, r) := holds stop r
      let others := r.within.filter (· ≠ number)
      (true, { r with within := if ended then others else number :: others })
    else (false, r)

/-- Run rules on the record. -/
def runRules : List (Rule × Nat) → Run → Run
  | [], r => r
  | (rule, number) :: rest, r =>
    let (applying, r) := applies number rule.test r
    let r := if applying then perform bound rule.body r else r
    if r.flow = .onward then runRules rest r else r

/-- Run rules on each record of a file. -/
def runRecords (rules : List Rule) : List Text → Run → Run
  | [], r => r
  | t :: rest, r =>
    let one (name : String) (r : Run) : Run :=
      r.put name.toList (.number (((r.values.lookup name.toList).getD .unset).toNumber + 1))
    let r := runRules rules.zipIdx (one "FNR" (one "NR" (r.setRecord t)))
    if r.flow = .exit then r else runRecords rules rest { r with flow := .onward }

/-- Run the bodies of rules that wait for nothing but their time. -/
def runBodies (bodies : List Statement) (r : Run) : Run :=
  bodies.foldl (fun r body => if r.flow = .onward then perform bound body r else r) r

/-- The records of a text. Where no separator is set they are divided by empty lines. -/
def recordsOf (separator t : Text) : List Text :=
  match separator with
  | [c] => (Text.splitAfter (· = c) t).map fun piece => (Text.dropEnding? piece [c]).getD piece
  | [] =>
    match Run.finder "\n\n+".toList with
    | some m => (Run.cutAt m ((t.dropWhile (· = '\n')) |> Text.dropEndWhile (· = '\n'))).filter (· ≠ [])
    | none => [t]
  | separator =>
    match Run.finder separator with
    | some m =>
      let pieces := Run.cutAt m t
      if pieces.getLast? == some [] then pieces.dropLast else pieces
    | none => [t]

/-- Run rules on the records of files, one after the other. A name with an equals sign sets a variable
instead. -/
def runFiles (rules : List Rule) : List Text → Run → Run
  | [], r => r
  | name :: names, r =>
    if r.flow = .exit then r
    else
      match (Text.splitFirst? (· = '=') name).bind fun (l, v) =>
          if l ≠ [] && l.all isNamePart && l.head?.any isNameStart then some (l, v) else none with
      | some (name, v) => runFiles rules names (r.put name (.input (unescape (v.length + 1) v)))
      | none =>
        match r.shell.source name with
        | (.error fault, shell) =>
          let shell := (shell.complain ("awk: cannot open \"".toList ++ name ++ "\" (".toList ++ fault.cause ++ [')'])).finish 2
          runFiles rules names { r with shell }
        | (.ok t, shell) =>
          let r := (({ r with shell }).put "FILENAME".toList (.text (if name = ['-'] then [] else name))).put
            "FNR".toList (.number 0)
          runFiles rules names (runRecords rules (recordsOf (r.setting "RS") t) r)

/-- Run a program on files. -/
def runProgram (rules : List Rule) (settings : List (Text × Text)) (names : List Text) (s : State) : State :=
  let bodies (test : Test → Bool) : List Statement := (rules.filter fun rule => test rule.test).map (·.body)
  let first := bodies fun
    | .first => true
    | _ => false
  let last := bodies fun
    | .last => true
    | _ => false
  let values : List (Text × Value) :=
    [("FS", .text " "), ("OFS", .text " "), ("ORS", .text "\n"), ("RS", .text "\n"),
      ("SUBSEP", .text "\x1c"), ("NR", .number 0), ("FNR", .number 0)].map fun (name, v) => (String.toList name, v)
  let environment := s.environment.map fun (name, t) => (name, Value.input t)
  let r : Run := { shell := s.finish 0, values, arrays := [("ENVIRON".toList, environment)] }
  let r := settings.foldl (fun r (name, t) => r.put name (.input (unescape (t.length + 1) t))) r
  let r := runBodies first r
  let r :=
    if first.length = rules.length || r.flow = .exit then r
    else
      let isFile (name : Text) : Bool := !(name.contains '=')
      runFiles rules (if names.any isFile then names else names ++ [['-']]) r
  (runBodies last (if r.flow = .exit && r.shell.status = 2 then r else { r with flow := .onward })).shell

end Record

/-- The line of a program that a rest of its text begins on, and the word that stands there. -/
def faultOf (program rest : Text) : Text :=
  let line := (program.take (program.length - rest.length)).count '\n' + 1
  match rest with
  | [] => "awk: line ".toList ++ Text.ofNat (line + 1) ++ ": missing \x7d near end of file".toList
  | c :: t =>
    let word := if isNamePart c then (c :: t).takeWhile isNamePart else [c]
    "awk: line ".toList ++ Text.ofNat line ++ ": syntax error at or near ".toList ++
      if c = '\n' then "end of line".toList else word

/-- Run a program on the records of files. -/
def awk : Tool := fun words s =>
  let rec options : List Text → List (Text × Text) → List (Text × Text) × List Text
    | ['-', 'F'] :: t :: rest, found => options rest (found ++ [("FS".toList, t)])
    | ('-' :: 'F' :: t) :: rest, found => options rest (found ++ [("FS".toList, if t = ['t'] then ['\t'] else t)])
    | ['-', 'v'] :: t :: rest, found => options rest (found ++ ((Text.splitFirst? (· = '=') t).toList))
    | ('-' :: 'v' :: t) :: rest, found => options rest (found ++ ((Text.splitFirst? (· = '=') t).toList))
    | ['-', '-'] :: rest, found => (found, rest)
    | rest, found => (found, rest)
  let (settings, words) := options words []
  let run (program : Text) (names : List Text) : State :=
    match Record.read program with
    | .ok rules => Record.runProgram rules settings names s
    | .error rest => (s.complain (faultOf program rest)).finish 2
  match words with
  | ['-', 'f'] :: path :: names =>
    match s.textOf path with
    | .ok program => run program names
    | .error fault =>
      (s.complain ("awk: cannot open \"".toList ++ path ++ "\" (".toList ++ fault.cause ++ [')'])).finish 2
  | ('-' :: c :: t) :: _ => (s.complain ("awk: not an option: -".toList ++ c :: t)).finish 2
  | program :: names => run program names
  | [] => (s.complain "Usage: mawk [Options] [Program] [file ...]").finish 2

end Shell
end ExEditor
