import ExEditor.Shell.Printf
import ExEditor.Shell.Tool.Options

/-! Tools that make and take apart numbers. -/
namespace ExEditor
namespace Shell

/-- A number with the places behind its point that it is written with. -/
structure Placed where
  value : Rat
  places : Nat

/-- The number that a text is, with a sign or without. -/
def placedOf? (t : Text) : Option Placed :=
  let (negative, t) : Bool × Text := match t with
    | '-' :: t => (true, t)
    | '+' :: t => (false, t)
    | t => (false, t)
  match numeral? t with
  | some (n, []) =>
    let part := ((t.dropWhile (· ≠ '.')).drop 1).takeWhile Char.isDigit
    let places := if t.contains 'e' || t.contains 'E' then 0 else part.length
    some ⟨if negative then -n else n, places⟩
  | _ => none

/-- Numbers from one to another in steps. The first argument bounds their number. -/
def steppedFrom : Nat → (step n last : Rat) → List Rat
  | 0, _, _, _ => []
  | k + 1, step, n, last =>
    if (0 < step && last < n) || (step < 0 && n < last) then [] else n :: steppedFrom k step (n + step) last

/-- A number with so many places behind its point. -/
def placed (places : Nat) (x : Rat) : Text :=
  if x < 0 then '-' :: withPlaces places (-x) else withPlaces places x

/-- A text filled up with zeros to a width, behind its sign. -/
def zeroFilled (width : Nat) (t : Text) : Text :=
  let zeros := List.replicate (width - t.length) '0'
  match t with
  | '-' :: t => '-' :: zeros ++ t
  | t => zeros ++ t

/-- A format with one directive in it: what stands before it, the directive, and what stands behind. -/
def readNumberFormat (format : Text) : Except Text (Text × Directive × Text) :=
  let named (complaint : Text) : Text := "format ".toList ++ '\'' :: format ++ '\'' :: complaint
  let rec split : Text → Option (Text × Text)
    | '%' :: '%' :: t => (split t).map fun (l, r) => ('%' :: l, r)
    | '%' :: t => some ([], t)
    | c :: t => (split t).map fun (l, r) => (c :: l, r)
    | [] => none
  let rec rest : Text → Option Text
    | '%' :: '%' :: t => (rest t).map ('%' :: ·)
    | '%' :: _ => none
    | c :: t => (rest t).map (c :: ·)
    | [] => some []
  match split format with
  | none => .error (named " has no % directive".toList)
  | some (before, t) =>
    let flags : Text := t.takeWhile "#-+ 0\'".toList.contains
    let t := t.drop flags.length
    let width := Text.numeralValue (t.takeWhile Char.isDigit)
    let t := t.dropWhile Char.isDigit
    let (precision, t) : Option Nat × Text := match t with
      | '.' :: t => (some (Text.numeralValue (t.takeWhile Char.isDigit)), t.dropWhile Char.isDigit)
      | t => (none, t)
    match t with
    | [] => .error (named " ends in %".toList)
    | letter :: after =>
      if (decimalForm? letter 0).isNone then .error (named (" has unknown %".toList ++ letter :: " directive".toList))
      else
        match rest after with
        | some after => .ok (before, ⟨flags, width, precision, letter⟩, after)
        | none => .error (named " has too many % directives".toList)

/-- A number in a directive. -/
def Directive.decimal (d : Directive) (x : Rat) : Text :=
  match decimalForm? d.letter (d.precision.getD 6) with
  | some form => { d with precision := none }.number (d.sign (x < 0)) (form (if x < 0 then -x else x))
  | none => []

/-- How `seq` shows its numbers. -/
structure SequenceStyle where
  even : Bool := false
  between : Text := ['\n']
  format : Option Text := none

/-- The options of `seq` and the other words. -/
def SequenceStyle.read : List Text → SequenceStyle → List Text → SequenceStyle × List Text
  | ['-', 'w'] :: rest, y, found => read rest { y with even := true } found
  | ['-', 's'] :: t :: rest, y, found => read rest { y with between := t } found
  | ('-' :: 's' :: t) :: rest, y, found => read rest { y with between := t } found
  | ['-', 'f'] :: t :: rest, y, found => read rest { y with format := some t } found
  | ('-' :: 'f' :: t) :: rest, y, found => read rest { y with format := some t } found
  | word :: rest, y, found => read rest y (found ++ [word])
  | [], y, found => (y, found)

/-- Show the numbers from one to another. -/
def seq : Tool := fun words s =>
  let misuse (complaint : Text) : State :=
    ((s.complain ("seq: ".toList ++ complaint)).complain "Try 'seq --help' for more information.").finish 1
  let (style, numbers) := SequenceStyle.read words {} []
  let one : Placed := ⟨1, 0⟩
  let shown (first step last : Placed) : State :=
    if step.value = 0 then misuse ("invalid Zero increment value: ".toList ++ quoted ((numbers.drop 1).headD []))
    else
      let size := ((last.value - first.value) / step.value).floor.toNat + 1
      let values := steppedFrom size step.value first.value last.value
      let places := max first.places step.places
      let finish (shown : List Text) : State :=
        (s.emit (if shown = [] then [] else Text.join style.between shown ++ ['\n'])).finish 0
      match style.format with
      | some format =>
        match readNumberFormat format with
        | .error complaint => (s.complain ("seq: ".toList ++ complaint)).finish 1
        | .ok (before, d, after) => finish (values.map fun x => before ++ d.decimal x ++ after)
      | none =>
        let width := max (placed places first.value).length (placed places last.value).length
        finish (values.map fun x => if style.even then zeroFilled width (placed places x) else placed places x)
  match numbers.find? fun t => (placedOf? t).isNone, numbers.filterMap placedOf? with
  | some t, _ => misuse ("invalid floating point argument: ".toList ++ quoted t)
  | none, [last] => shown one one last
  | none, [first, last] => shown first one last
  | none, [first, step, last] => shown first step last
  | none, [] => misuse "missing operand".toList
  | none, _ => misuse ("extra operand ".toList ++ quoted ((numbers.drop 3).headD []))

/-- The prime factors of a number from one on. The first argument bounds the steps. -/
def factorsFrom : Nat → (divisor n : Nat) → List Nat
  | 0, _, n => [n]
  | k + 1, divisor, n =>
    if n < 2 then []
    else if n < divisor * divisor then [n]
    else if n % divisor = 0 then divisor :: factorsFrom k divisor (n / divisor)
    else factorsFrom k (divisor + 1) n

/-- Show the prime factors of numbers. -/
def factor : Tool := fun words s =>
  let (t, s) : Text × State := if words = [] then s.takeInput else ([], s)
  let words := if words = [] then t.splitOnP (fun c => c = ' ' || c = '\n' || c = '\t') |>.filter (· ≠ []) else words
  words.foldl (fun s word =>
    match natOf? word with
    | some n =>
      s.emit (word ++ ':' :: (factorsFrom 10000000 2 n).flatMap (fun p => ' ' :: Text.ofNat p) ++ ['\n'])
    | none => (s.complain ("factor: ".toList ++ quoted word ++ " is not a valid positive integer".toList)).finish 1)
    (s.finish 0)

end Shell
end ExEditor
