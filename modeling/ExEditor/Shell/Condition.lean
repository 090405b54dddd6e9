import ExEditor.Shell.State

/-! Conditions: comparisons of texts and numbers, and what there is at a path. -/
namespace ExEditor
namespace Shell
namespace Condition

/-- Operators with one operand. -/
def unary : List Text :=
  ["-n", "-z", "-e", "-f", "-d", "-s", "-r", "-w", "-x", "-L", "-h", "-t", "-p", "-S", "-b", "-c", "-g", "-u",
    "-k", "-O", "-G"].map String.toList

/-- Operators with two operands. -/
def binary : List Text :=
  ["=", "!=", "-eq", "-ne", "-lt", "-le", "-gt", "-ge", "<", ">", "-nt", "-ot", "-ef"].map String.toList

/-- A number without a sign. -/
def unsigned? (t : Text) : Option Int := if t.isNumeral then some t.numeralValue else none

/-- A number with a sign or without. -/
def number? (t : Text) : Option Int :=
  match t.trim with
  | '-' :: t => (unsigned? t).map Int.neg
  | '+' :: t => unsigned? t
  | t => unsigned? t

/-- A number, or the complaint that it is none. -/
def number (t : Text) : Except Text Int :=
  match number? t with
  | some n => .ok n
  | none => .error ("Illegal number: ".toList ++ t)

/-- A condition with one operand. -/
def holds (s : State) (operator t : Text) : Bool :=
  match String.ofList operator with
  | "-n" => t ≠ []
  | "-z" => t = []
  | "-d" => s.files.isDirectory t
  | "-f" => s.files.has t && !s.files.isDirectory t && t ≠ State.nullPath
  | "-s" =>
    match s.textOf t with
    | .ok content => content ≠ []
    | .error _ => s.files.isDirectory t
  | "-x" => s.files.isDirectory t
  | "-c" => t = State.nullPath && s.files.has t
  | "-L" | "-h" | "-t" | "-p" | "-S" | "-b" | "-g" | "-u" | "-k" => false
  | _ => s.files.has t

/-- A condition with two operands. All files are equally old. -/
def compare (s : State) (operator a b : Text) : Except Text Bool := do
  match String.ofList operator with
  | "-nt" => return s.files.has a && !s.files.has b
  | "-ot" => return s.files.has b && !s.files.has a
  | "-ef" => return s.files.has a && s.files.canonical a = s.files.canonical b
  | "=" => return a = b
  | "!=" => return a ≠ b
  | "<" => return a.before b
  | ">" => return b.before a
  | "-eq" => return (← number a) = (← number b)
  | "-ne" => return (← number a) ≠ (← number b)
  | "-lt" => return (← number a) < (← number b)
  | "-le" => return (← number a) ≤ (← number b)
  | "-gt" => return (← number a) > (← number b)
  | _ => return (← number a) ≥ (← number b)

mutual

/-- Conditions with `-o` between them. The first argument of each of these functions bounds the words. -/
def any : Nat → State → List Text → Except Text (Bool × List Text)
  | 0, _, ws => .ok (false, ws)
  | n + 1, s, ws => do
    let (a, ws) ← all n s ws
    match ws with
    | ['-', 'o'] :: ws =>
      let (b, ws) ← any n s ws
      return (a || b, ws)
    | ws => return (a, ws)

/-- Conditions with `-a` between them. -/
def all : Nat → State → List Text → Except Text (Bool × List Text)
  | 0, _, ws => .ok (false, ws)
  | n + 1, s, ws => do
    let (a, ws) ← one n s ws
    match ws with
    | ['-', 'a'] :: ws =>
      let (b, ws) ← all n s ws
      return (a && b, ws)
    | ws => return (a, ws)

/-- One condition. A word alone holds if it is not empty. -/
def one : Nat → State → List Text → Except Text (Bool × List Text)
  | 0, _, ws => .ok (false, ws)
  | n + 1, s, ws => do
    match ws with
    | [] => return (false, [])
    | [t] => return (t ≠ [], [])
    | a :: operator :: rest =>
      match binary.contains operator, rest with
      | true, b :: rest => return (← compare s operator a b, rest)
      | true, [] =>
        if unary.contains a then return (holds s a operator, [])
        else throw (operator ++ ": argument expected".toList)
      | false, _ =>
        if a = ['!'] then
          let (v, ws) ← one n s (operator :: rest)
          return (!v, ws)
        else if a = ['('] then
          if operator = [')'] then return (false, rest)
          else
            let (v, ws) ← any n s (operator :: rest)
            match ws with
            | [')'] :: ws => return (v, ws)
            | _ => throw "closing paren expected".toList
        else if unary.contains a then return (holds s a operator, rest)
        else return (a ≠ [], operator :: rest)

end

/-- The words inside of parentheses, where nothing else can be meant by these. -/
def inner (ws : List Text) : List Text :=
  match ws with
  | ['('] :: rest =>
    if (ws.length = 3 && !binary.contains (rest.headD []) || ws.length = 4) && rest.getLast? = some [')'] then
      rest.dropLast
    else ws
  | ws => ws

/-- Whether the words of a condition hold. Where words are left over, the one before them is no
operator. -/
def evaluate (s : State) (ws : List Text) : Except Text Bool := do
  let ws := inner ws
  let (v, rest) ← any (8 * ws.length + 8) s ws
  if rest = [] then return v
  else throw (ws.getD (ws.length - rest.length - 1) [] ++ ": unexpected operator".toList)

end Condition

/-- Whether a condition holds, as the status of a command. -/
def testAs (name : Text) (ws : List Text) (s : State) : State :=
  match Condition.evaluate s ws with
  | .ok v => s.finish (if v then 0 else 1)
  | .error complaint => (s.complainOf (name ++ ": ".toList ++ complaint)).finish 2

/-- The condition of the words after the name. -/
def test : Tool := testAs "test"

/-- The condition of the words up to a closing bracket. -/
def bracket : Tool := fun ws s =>
  if ws.getLast? = some [']'] then testAs ['['] ws.dropLast s
  else (s.complainOf "[: missing ]").finish 2

end Shell
end ExEditor
