import ExEditor.Shell.Arithmetic
import ExEditor.Shell.Decimal
import ExEditor.Shell.State

/-! Writing words to the output: `echo`, and `printf` with its directives. -/
namespace ExEditor
namespace Shell

/-- Whether a character is an octal digit. -/
def isOctal (c : Char) : Bool := '0' ≤ c && c ≤ '7'

/-- The character that an escape after a backslash stands for, and what follows it. Other characters than
those of an escape stay, with the backslash. -/
def takeEscape : Text → Char × Text
  | 'a' :: t => ('\x07', t)
  | 'b' :: t => ('\x08', t)
  | 'f' :: t => ('\x0c', t)
  | 'n' :: t => ('\n', t)
  | 'r' :: t => ('\r', t)
  | 't' :: t => ('\t', t)
  | 'v' :: t => ('\x0b', t)
  | '\\' :: t => ('\\', t)
  | t =>
    match (t.take 3).takeWhile isOctal with
    | [] => ('\\', t)
    | digits =>
      (Char.ofNat (digits.foldl (fun n c => 8 * n + (c.toNat - 48)) 0 % 256), t.drop digits.length)

/-- What a text with escapes stands for, as in `echo`: a zero may stand before octal digits, and `\c`
ends all output. The second result says whether it did. The first argument bounds the characters. -/
def withEscapes : Nat → Text → Text × Bool
  | 0, _ => ([], false)
  | _ + 1, [] => ([], false)
  | n + 1, c :: t =>
    if c = '\\' then
      match t with
      | 'c' :: _ => ([], true)
      | '0' :: d :: rest =>
        let (found, rest) := takeEscape (if isOctal d then d :: rest else '0' :: d :: rest)
        let (more, stopped) := withEscapes n rest
        (found :: more, stopped)
      | t =>
        let (found, rest) := takeEscape t
        let (more, stopped) := withEscapes n rest
        (found :: more, stopped)
    else
      let (more, stopped) := withEscapes n t
      (c :: more, stopped)

/-- Write the words after the name with blanks between them, and a line end unless the first is `-n`. -/
def echo : Tool := fun words s =>
  let (bare, words) : Bool × List Text := match words with
    | ['-', 'n'] :: rest => (true, rest)
    | words => (false, words)
  let t := Text.join [' '] words
  let (shown, stopped) := withEscapes (t.length + 1) t
  let shown := if bare || stopped then shown else shown ++ ['\n']
  if s.isMute && shown ≠ [] then (s.complainOf "echo: echo: I/O error").finish 1
  else (s.emit shown).finish 0

/-- A directive of a format. -/
structure Directive where
  flags : Text
  width : Nat
  precision : Option Nat
  letter : Char
  deriving DecidableEq, Repr

/-- A text filled up with blanks to the width of a directive. -/
def Directive.fill (d : Directive) (t : Text) : Text :=
  if d.flags.contains '-' then t ++ List.replicate (d.width - t.length) ' ' else Text.padStart d.width t

/-- A number with its sign and as many digits as a directive asks for. -/
def Directive.number (d : Directive) (sign digits : Text) : Text :=
  let digits := List.replicate (d.precision.getD 1 - digits.length) '0' ++ digits
  let zeros :=
    if d.flags.contains '0' && !d.flags.contains '-' && d.precision.isNone then
      d.width - sign.length - digits.length
    else 0
  d.fill (sign ++ List.replicate zeros '0' ++ digits)

/-- The sign of a number. -/
def Directive.sign (d : Directive) (negative : Bool) : Text :=
  if negative then ['-'] else if d.flags.contains '+' then ['+']
  else if d.flags.contains ' ' then [' '] else []

/-- What a format has been turned into, the words that are left, and what was wrong with some. -/
structure Printed where
  shown : Text := []
  words : List Text
  complaints : List Text := []
  stopped : Bool := false

/-- Take the next word; there are as many empty ones behind the last as are needed. -/
def Printed.take (p : Printed) : Text × Printed :=
  match p.words with
  | [] => ([], p)
  | word :: rest => (word, { p with words := rest })

/-- Add a text. -/
def Printed.put (p : Printed) (t : Text) : Printed := { p with shown := p.shown ++ t }

/-- The longest beginning of a text that is a numeral, as its value, and what follows it. -/
def takeNumeral (t : Text) : Option (Int × Text) :=
  let (negative, t) : Bool × Text := match t.dropWhile fun c => c = ' ' || c = '\t' || c = '\n' with
    | '-' :: t => (true, t)
    | '+' :: t => (false, t)
    | t => (false, t)
  let (base, digits) : Nat × Text := match t with
    | '0' :: 'x' :: t => (16, t)
    | '0' :: 'X' :: t => (16, t)
    | '0' :: t => (8, '0' :: t)
    | t => (10, t)
  match digits.takeWhile fun c => (Arithmetic.digit? base c).isSome with
  | [] => none
  | found =>
    let n : Int := ((Arithmetic.ofDigits? base found).getD 0 : Nat)
    some (if negative then -n else n, digits.drop found.length)

/-- The next word as a number. A quote in front of a character stands for its code. -/
def Printed.takeNumber (p : Printed) : Int × Printed :=
  let (word, p) := p.take
  match word with
  | [] => (0, p)
  | '\'' :: c :: _ => (c.toNat, p)
  | '"' :: c :: _ => (c.toNat, p)
  | word =>
    match takeNumeral word with
    | none => (0, { p with complaints := p.complaints ++ [word ++ ": expected numeric value".toList] })
    | some (n, []) => (n, p)
    | some (n, _) =>
      (n, { p with complaints := p.complaints ++ [word ++ ": not completely converted".toList] })

/-- The next word as a decimal number: whether it has a minus sign, and its size. -/
def Printed.takeDecimal (p : Printed) : (Bool × Rat) × Printed :=
  let (word, p) := p.take
  let (negative, t) : Bool × Text := match word.trimStart with
    | '-' :: t => (true, t)
    | '+' :: t => (false, t)
    | t => (false, t)
  match numeral? t with
  | some (x, rest) =>
    let x := double x
    if rest = [] then ((negative, x), p)
    else
      ((negative, x), { p with complaints := p.complaints ++ [word ++ ": not completely converted".toList] })
  | none =>
    if word = [] then ((false, 0), p)
    else
      ((negative, 0), { p with complaints := p.complaints ++ [word ++ ": expected numeric value".toList] })

/-- Carry out a directive. There is none for other letters than those here. -/
def Printed.direct? (p : Printed) (d : Directive) : Option Printed :=
  let unsigned (base : Nat) (capital : Bool) (before : Text) : Printed :=
    let (n, p) := p.takeNumber
    let digits := Nat.toDigits base (n % Text.wordCount).toNat
    let digits := if capital then digits.map Char.toUpper else digits
    p.put (d.number (if d.flags.contains '#' && n ≠ 0 then before else []) digits)
  match d.letter with
  | 's' =>
    let (word, p) := p.take
    some (p.put (d.fill (match d.precision with
      | some n => word.take n
      | none => word)))
  | 'b' =>
    let (word, p) := p.take
    let (t, stopped) := withEscapes (word.length + 1) word
    let p := p.put (d.fill (match d.precision with
      | some n => t.take n
      | none => t))
    some { p with stopped }
  | 'c' =>
    let (word, p) := p.take
    some (p.put (d.fill [word.headD '\x00']))
  | 'd' | 'i' =>
    let (n, p) := p.takeNumber
    some (p.put (d.number (d.sign (n < 0)) (Text.ofNat n.natAbs)))
  | 'u' => some (unsigned 10 false [])
  | 'o' => some (unsigned 8 false ['0'])
  | 'x' => some (unsigned 16 false ['0', 'x'])
  | 'X' => some (unsigned 16 true ['0', 'X'])
  | letter =>
    match decimalForm? letter (d.precision.getD 6) with
    | none => none
    | some form =>
      let ((negative, x), p) := p.takeDecimal
      some (p.put ({ d with precision := none }.number (d.sign negative) (form x)))

/-- A number in a directive, or the next word if a star stands for it. -/
def Printed.size (p : Printed) (t : Text) : Nat × Printed × Text :=
  match t with
  | '*' :: t => let (n, p) := p.takeNumber; (n.toNat, p, t)
  | t => (Text.numeralValue (t.takeWhile Char.isDigit), p, t.dropWhile Char.isDigit)

/-- Go once through a format. What cannot be done is returned. The first argument bounds the
characters. -/
def Printed.run : Nat → Text → Printed → Except Text Printed
  | 0, _, p => .ok p
  | _ + 1, [], p => .ok p
  | n + 1, '\\' :: t, p =>
    let (c, rest) := takeEscape t
    run n rest (p.put [c])
  | n + 1, '%' :: '%' :: t, p => run n t (p.put ['%'])
  | n + 1, '%' :: t, p => do
    let flags : Text := t.takeWhile "#-+ 0".toList.contains
    let (width, p, rest) := p.size (t.drop flags.length)
    let (precision, p, rest) : Option Nat × Printed × Text := match rest with
      | '.' :: rest => let (k, p, rest) := p.size rest; (some k, p, rest)
      | rest => (none, p, rest)
    match rest with
    | [] => throw "missing format character".toList
    | letter :: after =>
      match p.direct? ⟨flags, width, precision, letter⟩ with
      | none => throw ('%' :: t.take (t.length - after.length) ++ ": invalid directive".toList)
      | some p => if p.stopped then return p else run n after p
  | n + 1, c :: t, p => run n t (p.put [c])

/-- Go through a format until no words are left. The first argument bounds the number of rounds. -/
def Printed.rounds : Nat → Text → Printed → Printed × Option Text
  | 0, _, p => (p, none)
  | n + 1, format, p =>
    match run (format.length + 1) format p with
    | .error complaint => (p, some complaint)
    | .ok next =>
      if next.stopped || next.words = [] || next.words.length = p.words.length then (next, none)
      else rounds n format next

/-- Write words in a format. -/
def printf : Tool := fun words s =>
  match if words.head? == some ['-', '-'] then words.drop 1 else words with
  | [] => (s.complainOf "printf: usage: printf format [arg ...]").finish 2
  | format :: words =>
    let (p, complaint) := Printed.rounds (words.length + 1) format { words }
    let mute := s.isMute && p.shown ≠ []
    let s := s.emit p.shown
    let s := if mute then s.complainOf "printf: printf: I/O error" else s
    let s := (p.complaints ++ complaint.toList).foldl (fun s t => s.complainOf ("printf: ".toList ++ t)) s
    s.finish (if complaint.isSome then 2 else if p.complaints = [] && !mute then 0 else 1)

end Shell
end ExEditor
