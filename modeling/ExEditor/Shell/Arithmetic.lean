import ExEditor.Shell.Command

/-! Expressions of the shell: numbers of 64 bits, which wrap around, and variables that hold them. -/
namespace ExEditor
namespace Shell
namespace Arithmetic

/-- What is wrong with an expression. -/
inductive Fault
  | expecting (what : String)
  | divisionByZero
  | illegalNumber (t : Text)
  deriving DecidableEq, Repr

/-- The fault of an expression as shown. -/
def Fault.message (expression : Text) : Fault → Text
  | expecting what =>
    "arithmetic expression: expecting " ++ what.toList ++ ": \"".toList ++ expression ++ ['"']
  | divisionByZero => "arithmetic expression: division by zero: \"" ++ expression ++ ['"']
  | illegalNumber t => "Illegal number: " ++ t

/-- What an expression looks at and changes. -/
structure Store where
  /-- Values by name. -/
  values : List (Text × Text)

/-- Binary operators with how tightly they bind; of two that begin alike the longer stands first. -/
def operators : List (Text × Nat) :=
  [("||".toList, 1), ("&&".toList, 2), ("==".toList, 6), ("!=".toList, 6), ("<<".toList, 8),
   (">>".toList, 8), ("<=".toList, 7), (">=".toList, 7), ("<".toList, 7), (">".toList, 7),
   ("|".toList, 3), ("^".toList, 4), ("&".toList, 5), ("+".toList, 9), ("-".toList, 9),
   ("*".toList, 10), ("/".toList, 10), ("%".toList, 10)]

/-- A number of 64 bits. -/
def wrap (n : Int) : Int := Int.bmod n Text.wordCount

/-- A truth value as a number. -/
def ofBool (b : Bool) : Int := if b then 1 else 0

/-- A bitwise operation on numbers of 64 bits. -/
def bitwise (f : Nat → Nat → Nat) (a b : Int) : Int :=
  wrap (f (a % Text.wordCount).toNat (b % Text.wordCount).toNat)

/-- The value of two operands. Nothing is divided where the value is not used. -/
def apply (live : Bool) (sign : Text) (a b : Int) : Except Fault Int :=
  match String.ofList sign with
  | "||" => .ok (ofBool (a ≠ 0 || b ≠ 0))
  | "&&" => .ok (ofBool (a ≠ 0 && b ≠ 0))
  | "|" => .ok (bitwise Nat.lor a b)
  | "^" => .ok (bitwise Nat.xor a b)
  | "&" => .ok (bitwise Nat.land a b)
  | "==" => .ok (ofBool (a = b))
  | "!=" => .ok (ofBool (a ≠ b))
  | "<=" => .ok (ofBool (a ≤ b))
  | ">=" => .ok (ofBool (a ≥ b))
  | "<" => .ok (ofBool (a < b))
  | ">" => .ok (ofBool (a > b))
  | "<<" => .ok (wrap (a * (Nat.pow 2 (b % 64).toNat : Nat)))
  | ">>" => .ok (Int.fdiv a (Nat.pow 2 (b % 64).toNat : Nat))
  | "+" => .ok (wrap (a + b))
  | "-" => .ok (wrap (a - b))
  | "*" => .ok (wrap (a * b))
  | "/" =>
    if b = 0 then if live then .error .divisionByZero else .ok 0 else .ok (wrap (Int.tdiv a b))
  | "%" =>
    if b = 0 then if live then .error .divisionByZero else .ok 0 else .ok (wrap (Int.tmod a b))
  | _ => .ok 0

/-- Skip blanks. -/
def skip (t : Text) : Text := t.dropWhile fun c => c = ' ' || c = '\t' || c = '\n'

/-- Value of a digit in a base up to 16. -/
def digit? (base : Nat) (c : Char) : Option Nat :=
  let value :=
    if c.isDigit then c.toNat - 48
    else if 'a' ≤ c.toLower ∧ c.toLower ≤ 'f' then c.toLower.toNat - 87
    else 99
  if value < base then some value else none

/-- The number that some digits write in a base. -/
def ofDigits? (base : Nat) : Text → Option Nat
  | [] => none
  | digits => digits.foldlM (fun n c => (digit? base c).map fun d => base * n + d) 0

/-- A numeral: decimal, octal with a zero in front, or hexadecimal with `0x` in front. -/
def ofNumeral? : Text → Option Nat
  | '0' :: 'x' :: t => ofDigits? 16 t
  | '0' :: 'X' :: t => ofDigits? 16 t
  | '0' :: d :: t => ofDigits? 8 (d :: t)
  | t => ofDigits? 10 t

/-- The number that a variable holds, which is 0 if it is not set. -/
def valueOf (s : Store) (name : Text) : Except Fault Int :=
  match (s.values.lookup name).getD [] with
  | [] => .ok 0
  | '-' :: t =>
    match ofNumeral? t with
    | some n => .ok (-n)
    | none => .error (.illegalNumber ('-' :: t))
  | t =>
    match ofNumeral? t with
    | some n => .ok n
    | none => .error (.illegalNumber t)

/-- Give a variable a value. -/
def set (s : Store) (name : Text) (n : Int) : Store :=
  ⟨(name, Text.ofInt n) :: s.values.filter (·.1 ≠ name)⟩

/-- The operator of an assignment at the front of a text, without its equals sign, and what follows. -/
def takeAssignment? (t : Text) : Option (Text × Text) :=
  match t with
  | '=' :: '=' :: _ => none
  | '=' :: rest => some ([], rest)
  | t =>
    (["<<", ">>", "+", "-", "*", "/", "%", "&", "^", "|"].map String.toList).findSome? fun sign =>
      if (sign ++ ['=']).isPrefixOf t then some (sign, t.drop (sign.length + 1)) else none

/-- The binary operator at the front of a text. -/
def takeOperator? (t : Text) : Option (Text × Nat × Text) :=
  operators.findSome? fun (sign, level) =>
    if sign.isPrefixOf t then some (sign, level, t.drop sign.length) else none

mutual

/-- An operand. The first argument of each of these functions bounds the operators still to come; where
`live` is not set the value is not used, and nothing is changed. -/
def operand : Nat → (live : Bool) → Store → Text → Except Fault (Int × Store × Text)
  | 0, _, _, _ => .error (.expecting "primary")
  | n + 1, live, s, t => do
    match skip t with
    | '(' :: t =>
      let (v, s, t) ← whole n live s t
      match skip t with
      | ')' :: t => return (v, s, t)
      | _ => throw (.expecting "')'")
    | '-' :: t => let (v, s, t) ← operand n live s t; return (wrap (-v), s, t)
    | '+' :: t => operand n live s t
    | '!' :: t => let (v, s, t) ← operand n live s t; return (ofBool (v = 0), s, t)
    | '~' :: t => let (v, s, t) ← operand n live s t; return (wrap (-v - 1), s, t)
    | c :: t =>
      if c.isDigit then
        let numeral := (c :: t).takeWhile Char.isAlphanum
        match ofNumeral? numeral with
        | some v => return (wrap v, s, (c :: t).drop numeral.length)
        | none => throw (.expecting "EOF")
      else if isNameStart c then
        let name := (c :: t).takeWhile isNamePart
        let rest := (c :: t).drop name.length
        match takeAssignment? (skip rest) with
        | some (sign, rest) =>
          let (v, s, rest) ← whole n live s rest
          let v ← if sign = [] then pure v else apply live sign (← valueOf s name) v
          return (v, if live then set s name v else s, rest)
        | none => return (← valueOf s name, s, rest)
      else throw (.expecting "primary")
    | [] => throw (.expecting "primary")

/-- Operands with operators between them that bind at least as tightly as `level`. -/
def binary : Nat → (live : Bool) → (level : Nat) → Store → Text → Except Fault (Int × Store × Text)
  | 0, _, _, _, _ => .error (.expecting "primary")
  | n + 1, live, level, s, t => do
    let (v, s, t) ← operand n live s t
    continued n live level v s t

/-- What follows the first operand. -/
def continued : Nat → (live : Bool) → (level : Nat) → Int → Store → Text →
    Except Fault (Int × Store × Text)
  | 0, _, _, _, _, _ => .error (.expecting "primary")
  | n + 1, live, level, v, s, t => do
    match takeOperator? (skip t) with
    | none => return (v, s, t)
    | some (sign, tightness, rest) =>
      if tightness < level then return (v, s, t)
      let used := live && !(sign = "||".toList && v ≠ 0) && !(sign = "&&".toList && v = 0)
      let (w, s, rest) ← binary n used (tightness + 1) s rest
      continued n live level (← apply live sign v w) s rest

/-- An expression with a choice between two values. -/
def whole : Nat → (live : Bool) → Store → Text → Except Fault (Int × Store × Text)
  | 0, _, _, _ => .error (.expecting "primary")
  | n + 1, live, s, t => do
    let (v, s, t) ← binary n live 1 s t
    match skip t with
    | '?' :: t =>
      let (a, s, t) ← whole n (live && v ≠ 0) s t
      match skip t with
      | ':' :: t =>
        let (b, s, t) ← whole n (live && v = 0) s t
        return (if v ≠ 0 then a else b, s, t)
      | _ => throw (.expecting "':'")
    | _ => return (v, s, t)

end

/-- The value of an expression, and the variables after it. -/
def evaluate (s : Store) (t : Text) : Except Fault (Int × Store) := do
  if skip t = [] then return (0, s)
  let (v, s, rest) ← whole (8 * t.length + 8) true s t
  if skip rest ≠ [] then throw (.expecting "EOF")
  return (v, s)

end Arithmetic
end Shell
end ExEditor
