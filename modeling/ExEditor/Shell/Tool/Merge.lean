import ExEditor.Shell.Tool.Order

/-! Tools that go through two ordered texts at once. -/
namespace ExEditor
namespace Shell

/-- Complain that a tool has been given too few or too many words. -/
def State.operandFault (s : State) (tool : String) (operands : List Text) (wanted : Nat) : State :=
  let fault : Text :=
    match operands.drop wanted, operands.getLast? with
    | extra :: _, _ => "extra operand ".toList ++ quoted extra
    | [], some last => "missing operand after ".toList ++ quoted last
    | [], none => "missing operand".toList
  ((s.complain (tool.toList ++ ": ".toList ++ fault)).complain
    ("Try '".toList ++ tool.toList ++ " --help' for more information.".toList)).finish 1

/-- Lines of two texts in three columns: those of the first alone, those of the second alone, and those of
both. `column` shows a line in one of them. The first argument bounds the lines. -/
def columns (column : Nat → Text → Text) : Nat → List Text → List Text → Text
  | 0, _, _ => []
  | n + 1, a :: as, b :: bs =>
    if a = b then column 3 a ++ columns column n as bs
    else if a.before b then column 1 a ++ columns column n as (b :: bs)
    else column 2 b ++ columns column n (a :: as) bs
  | _ + 1, as, [] => as.flatMap (column 1)
  | _ + 1, [], bs => bs.flatMap (column 2)

/-- The first line that is out of order. -/
def firstDisorder? : List Text → Option Nat
  | a :: b :: rest => if b.before a then some 1 else (firstDisorder? (b :: rest)).map (· + 1)
  | _ => none

/-- Compare two ordered texts line by line. -/
def comm : Tool := fun words s =>
  ({ tool := "comm", flags := "123" } : Usage).apply words s fun g =>
    match g.operands with
    | [first, second] =>
      let (found, s) := s.sources "comm" [first, second]
      match found with
      | [(_, t), (_, u)] =>
        let hidden (i : Nat) : Bool := g.has (Nat.digitChar i)
        let column (i : Nat) (line : Text) : Text :=
          if hidden i then []
          else List.replicate (((List.range' 1 (i - 1)).filter fun j => !hidden j).length) '\t' ++ line ++ ['\n']
        let (a, b) := (bodiesOf t, bodiesOf u)
        let s := s.emit (columns column (a.length + b.length + 1) a b)
        let complaint (number : Text) (lines : List Text) (s : State) : State :=
          if (firstDisorder? lines).isSome then
            (s.complain ("comm: file ".toList ++ number ++ " is not in sorted order".toList)).finish 1
          else s
        let s := complaint ['2'] b (complaint ['1'] a s)
        if s.status = 0 then s else s.complain "comm: input is not in sorted order"
      | _ => s
    | operands => s.operandFault "comm" operands 2

/-- How two texts are joined. -/
structure Joining where
  separator : Option Char := none
  /-- The fields that have to agree. -/
  firstField : Nat := 1
  secondField : Nat := 1
  /-- The fields that are shown, each as the number of a text and of a field; 0 is the field that the
  lines agree in. -/
  shown : Option (List (Nat × Nat)) := none
  /-- What stands for fields that are not there. -/
  filling : Text := []
  ignoreCase : Bool := false

namespace Joining

/-- The fields of a line. -/
def fieldsOf (j : Joining) (line : Text) : List Text :=
  match j.separator with
  | some c => line.splitOn c
  | none => (line.splitOnP isFieldBlank).filter (· ≠ [])

/-- The key that a field is. -/
def key (j : Joining) (field : Nat) (fields : List Text) : Text :=
  let t := fields.getD (field - 1) []
  if j.ignoreCase then t.map Char.toUpper else t

/-- A line of one text, or of two that agree. -/
def row (j : Joining) (first second : Option (List Text)) : Text :=
  let joined (fields : List Text) : Text := Text.join [j.separator.getD ' '] fields ++ ['\n']
  let own (field : Nat) (fields : List Text) : List Text := fields.eraseIdx (field - 1)
  let common : Text := match first, second with
    | some a, _ => a.getD (j.firstField - 1) []
    | none, some b => b.getD (j.secondField - 1) []
    | none, none => []
  match j.shown with
  | none =>
    joined (common :: (first.elim [] (own j.firstField)) ++ second.elim [] (own j.secondField))
  | some fields =>
    joined (fields.map fun (text, field) =>
      let t : Text :=
        if text = 0 then common
        else (((if text = 1 then first else second).getD [])[field - 1]?).getD []
      if t = [] then j.filling else t)

/-- The rows of two texts. `alone` shows a line that agrees with none. The first argument bounds the
lines. -/
def rows (j : Joining) (paired : Bool) (alone : Nat → Bool) : Nat → List (List Text) → List (List Text) → Text
  | 0, _, _ => []
  | n + 1, a :: as, b :: bs =>
    let (k, l) := (j.key j.firstField a, j.key j.secondField b)
    if k = l then
      let same := (a :: as).takeWhile fun a => j.key j.firstField a = k
      let others := (b :: bs).takeWhile fun b => j.key j.secondField b = k
      (if paired then same.flatMap fun a => others.flatMap fun b => j.row (some a) (some b) else []) ++
        rows j paired alone n ((a :: as).drop same.length) ((b :: bs).drop others.length)
    else if k.before l then (if alone 1 then j.row (some a) none else []) ++ rows j paired alone n as (b :: bs)
    else (if alone 2 then j.row none (some b) else []) ++ rows j paired alone n (a :: as) bs
  | _ + 1, as, [] => if alone 1 then as.flatMap fun a => j.row (some a) none else []
  | _ + 1, [], bs => if alone 2 then bs.flatMap fun b => j.row none (some b) else []

/-- A field as written: a zero, or the number of a text and that of a field with a point between them. -/
def readField (t : Text) : Option (Nat × Nat) :=
  match t with
  | ['0'] => some (0, 0)
  | '1' :: '.' :: n => (natOf? n).map fun n => (1, n)
  | '2' :: '.' :: n => (natOf? n).map fun n => (2, n)
  | _ => none

end Joining

/-- Join the lines of two texts that agree in a field. -/
def join : Tool := fun words s =>
  ({ tool := "join", flags := "i", valued := "12jtavoe" } : Usage).apply words s fun g =>
    match g.operands with
    | [first, second] =>
      let (found, s) := s.sources "join" [first, second]
      match found with
      | [(_, t), (_, u)] =>
        let number (letter : Char) : Option Nat := ((g.value? letter).or (g.value? 'j')).bind natOf?
        let lists (letter : Char) : List Nat := (g.options.filter (·.1 = letter)).filterMap fun o => natOf? o.2
        let j : Joining :=
          { separator := (g.value? 't').bind List.head?
            firstField := (number '1').getD 1
            secondField := (number '2').getD 1
            shown := (g.value? 'o').map fun t =>
              (t.splitOnP fun c => c = ',' || c = ' ').filterMap Joining.readField
            filling := (g.value? 'e').getD []
            ignoreCase := g.has 'i' }
        let (a, b) := (bodiesOf t, bodiesOf u)
        let only := lists 'v'
        let alone (i : Nat) : Bool := only.contains i || (lists 'a').contains i
        s.emit (j.rows (only = []) alone (a.length + b.length + 1) (a.map j.fieldsOf) (b.map j.fieldsOf))
      | _ => s
    | operands => s.operandFault "join" operands 2

end Shell
end ExEditor
