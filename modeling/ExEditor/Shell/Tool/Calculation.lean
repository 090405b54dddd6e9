import ExEditor.Shell.Tool.Search

/-! Calculating with words, as `expr` does: every word is an operand or an operator, and the value is
shown. -/
namespace ExEditor
namespace Shell
namespace Calculation

/-- What is wrong with the words of a calculation. -/
inductive Fault
  | missingOperand
  | missingAfter (word : Text)
  | unexpected (word : Text)
  | unexpectedClosing
  | unclosedAfter (word : Text)
  | unclosedAt (word : Text)
  | notWhole
  | divisionByZero
  | badExpression
  deriving DecidableEq, Repr

/-- The fault of a calculation as shown. -/
def Fault.message : Fault → Text
  | missingOperand => "missing operand"
  | missingAfter word => "syntax error: missing argument after '" ++ word ++ ['\'']
  | unexpected word => "syntax error: unexpected argument '" ++ word ++ ['\'']
  | unexpectedClosing => "syntax error: unexpected ')'"
  | unclosedAfter word => "syntax error: expecting ')' after '" ++ word ++ ['\'']
  | unclosedAt word => "syntax error: expecting ')' instead of '" ++ word ++ ['\'']
  | notWhole => "non-integer argument"
  | divisionByZero => "division by zero"
  | badExpression => "Invalid regular expression"

/-- The words still to come, and the one before them. -/
structure Rest where
  words : List Text
  before : Text := []

/-- A value and what follows it, or a fault. -/
abbrev Reading := Except Fault (Text × Rest)

/-- Whether a value counts as nothing: it is empty or a zero. -/
def isNull (t : Text) : Bool :=
  let digits : Text := match t with
    | '-' :: t => t
    | t => t
  t = [] || (digits ≠ [] && digits.all (· = '0'))

/-- A whole number. -/
def whole? : Text → Option Int
  | '-' :: t => (natOf? t).map fun n => -(n : Int)
  | t => (natOf? t).map fun n => (n : Int)

/-- A truth value as shown. -/
def ofBool (b : Bool) : Text := if b then ['1'] else ['0']

/-- The next word, which has to be there. -/
def Rest.take (r : Rest) : Except Fault (Text × Rest) :=
  match r.words with
  | [] => .error (if r.before = [] then .missingOperand else .missingAfter r.before)
  | word :: words => .ok (word, ⟨words, word⟩)

/-- The next word if it is one of some operators. -/
def Rest.operator? (r : Rest) (operators : List String) : Option (String × Rest) :=
  match r.words with
  | [] => none
  | word :: words => (operators.find? (·.toList = word)).map fun sign => (sign, ⟨words, word⟩)

/-- Whether the outcome of a comparison is the one that an operator asks for. -/
def compares (operator : String) : Ordering → Bool
  | .lt => ["<", "<=", "!="].contains operator
  | .eq => ["<=", "=", "==", ">="].contains operator
  | .gt => [">", ">=", "!="].contains operator

/-- The order of two values: of whole numbers by their size, else of texts. -/
def order (a b : Text) : Ordering :=
  match whole? a, whole? b with
  | some m, some n => compare m n
  | _, _ => if a = b then .eq else if Text.before a b then .lt else .gt

/-- What an operator makes of two whole numbers. -/
def arithmetic (operator : String) (a b : Text) : Except Fault Text :=
  match whole? a, whole? b with
  | some m, some n =>
    match operator with
    | "+" => .ok (Text.ofInt (m + n))
    | "-" => .ok (Text.ofInt (m - n))
    | "*" => .ok (Text.ofInt (m * n))
    | "/" => if n = 0 then .error .divisionByZero else .ok (Text.ofInt (Int.tdiv m n))
    | _ => if n = 0 then .error .divisionByZero else .ok (Text.ofInt (Int.tmod m n))
  | _, _ => .error .notWhole

/-- What the beginning of a text that matches a basic expression gives: its first group, or its length
if the expression has no groups. -/
def matching (t expression : Text) : Except Fault Text :=
  match finderOf {} false expression with
  | .error _ => .error .badExpression
  | .ok m =>
    let found := m.foundAt? (m.subject t) 0
    if Text.hasPair '\\' '(' expression then
      .ok (match found.bind (·.group? 1) with
        | some (first, last) => (t.drop first).take (last - first)
        | none => [])
    else .ok (Text.ofNat (found.elim 0 (·.stop)))

/-- A number of characters from a position on, which is counted from 1. -/
def part (t position length : Text) : Text :=
  match whole? position, whole? length with
  | some p, some n => if p ≤ 0 || n ≤ 0 then [] else (t.drop (p.toNat - 1)).take n.toNat
  | _, _ => []

/-- Operators that are written between two values, from the weakest on. -/
def levels : List (List String) :=
  [["|"], ["&"], ["<", "<=", "=", "==", "!=", ">=", ">"], ["+", "-"], ["*", "/", "%"], [":"]]

/-- What an operator makes of two values. Nothing is calculated where the value is not used. -/
def apply (live : Bool) (operator : String) (a b : Text) : Except Fault Text :=
  match operator with
  | "|" => .ok (if !isNull a then a else if !isNull b then b else ['0'])
  | "&" => .ok (if isNull a || isNull b then ['0'] else a)
  | ":" => if live then matching a b else .ok []
  | operator =>
    if ["+", "-", "*", "/", "%"].contains operator then if live then arithmetic operator a b else .ok []
    else .ok (ofBool (compares operator (order a b)))

mutual

/-- A value with nothing around it. The first argument of each of these functions bounds the words. -/
def operand : Nat → (live : Bool) → Rest → Reading
  | 0, _, r => .error (.missingAfter r.before)
  | n + 1, live, r => do
    let (word, r) ← r.take
    match String.ofList word with
    | "(" =>
      let (v, r) ← operation n live levels r
      match r.words with
      | [')'] :: words => return (v, ⟨words, [')']⟩)
      | [] => throw (.unclosedAfter r.before)
      | other :: _ => throw (.unclosedAt other)
    | ")" => throw .unexpectedClosing
    | "+" => r.take
    | "length" =>
      let (t, r) ← operand n live r
      return (Text.ofNat t.length, r)
    | "match" =>
      let (t, r) ← operand n live r
      let (expression, r) ← operand n live r
      return (← apply live ":" t expression, r)
    | "index" =>
      let (t, r) ← operand n live r
      let (wanted, r) ← operand n live r
      return (Text.ofNat ((t.findIdx? wanted.contains).elim 0 (· + 1)), r)
    | "substr" =>
      let (t, r) ← operand n live r
      let (position, r) ← operand n live r
      let (length, r) ← operand n live r
      return (part t position length, r)
    | _ => return (word, r)

/-- Values with operators of the given levels between them. -/
def operation : Nat → (live : Bool) → List (List String) → Rest → Reading
  | 0, _, _, r => .error (.missingAfter r.before)
  | n + 1, live, [], r => operand n live r
  | n + 1, live, operators :: tighter, r => do
    let (v, r) ← operation n live tighter r
    continued n live operators tighter v r

/-- What follows the first value. -/
def continued : Nat → (live : Bool) → List String → List (List String) → Text → Rest → Reading
  | 0, _, _, _, _, r => .error (.missingAfter r.before)
  | n + 1, live, operators, tighter, v, r =>
    match r.operator? operators with
    | none => .ok (v, r)
    | some (operator, r) => do
      let used := live && !(operator = "|" && !isNull v) && !(operator = "&" && isNull v)
      let (w, r) ← operation n used tighter r
      continued n live operators tighter (← apply live operator v w) r

end

/-- The value of words. -/
def evaluate (words : List Text) : Except Fault Text := do
  let (v, r) ← operation (10 * words.length + 10) true levels ⟨words, []⟩
  match r.words with
  | [] => return v
  | word :: _ => throw (.unexpected word)

end Calculation

/-- Show the value of a calculation. The status says whether there was one that is not null. -/
def expr : Tool := fun words s =>
  match Calculation.evaluate (if words.head? == some ['-', '-'] then words.drop 1 else words) with
  | .ok v => (s.emit (v ++ ['\n'])).finish (if Calculation.isNull v then 1 else 0)
  | .error fault =>
    let s := s.complain ("expr: ".toList ++ fault.message)
    let s := if fault = .missingOperand then s.complain "Try 'expr --help' for more information." else s
    s.finish (if fault = .badExpression then 3 else 2)

end Shell
end ExEditor
