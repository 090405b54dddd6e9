import ExEditor.Shell.Glob
import ExEditor.Shell.Printf
import ExEditor.Shell.Tool.Options

/-! Tools that work byte by byte: replacing bytes, and cutting parts out of lines. -/
namespace ExEditor
namespace Shell

/-- A byte of a set as written, and what follows it. A backslash quotes a character that it makes no
escape with. -/
def takeSetByte : Text → Option (Nat × Text)
  | [] => none
  | '\\' :: c :: t =>
    if "abfnrtv\\01234567".toList.contains c then
      let (byte, rest) := takeEscape (c :: t)
      some (byte.toNat, rest)
    else some (c.toNat, t)
  | c :: t => some (c.toNat, t)

/-- The bytes of a set as written: bytes, ranges of them, and classes between colons. The first argument
bounds the number of parts. -/
def setBytes : Nat → Text → List Nat
  | 0, _ => []
  | n + 1, t =>
    match t with
    | '[' :: ':' :: rest =>
      let name := rest.takeWhile (· ≠ ':')
      match rest.drop name.length with
      | ':' :: ']' :: rest =>
        ((namedClass name).flatMap fun (a, b) => List.range' a.toNat (b.toNat - a.toNat + 1)) ++
          setBytes n rest
      | _ => '['.toNat :: setBytes n (':' :: rest)
    | t =>
      match takeSetByte t with
      | none => []
      | some (a, '-' :: rest) =>
        match takeSetByte rest with
        | some (b, rest) => List.range' a (b + 1 - a) ++ setBytes n rest
        | none => a :: setBytes n ['-']
      | some (a, rest) => a :: setBytes n rest

/-- Leave out bytes of a set behind themselves. -/
def squeezeBytes (set : List Nat) : List Nat → List Nat
  | [] => []
  | [a] => [a]
  | a :: b :: rest =>
    if a = b && set.contains a then squeezeBytes set (b :: rest) else a :: squeezeBytes set (b :: rest)

/-- Replace, leave out or squeeze bytes. -/
def tr : Tool := fun words s =>
  let usage : Usage := { tool := "tr", flags := "dscCt", long :=
    [("delete", 'd'), ("squeeze-repeats", 's'), ("complement", 'c'), ("truncate-set1", 't')] }
  usage.apply words s fun g =>
    let misuse (complaint : Text) (more : List Text) : State :=
      let s := more.foldl State.complain (s.complain ("tr: ".toList ++ complaint))
      (s.complain "Try 'tr --help' for more information.").finish 1
    let named (t : Text) : Text := '\'' :: t ++ ['\'']
    let complement := g.has 'c' || g.has 'C'
    let set (t : Text) : List Nat := setBytes (t.length + 1) t
    let first (t : Text) : List Nat :=
      if complement then (List.range 256).filter fun b => !(set t).contains b else set t
    let run (f : List Nat → List Nat) : State :=
      let (t, s) := s.takeInput
      (s.emit ((f (t.map Char.toNat)).map Char.ofNat)).finish 0
    match g.operands with
    | [] => misuse "missing operand" []
    | [a] =>
      if g.has 'd' && !g.has 's' then run (·.filter fun b => !(first a).contains b)
      else if g.has 's' && !g.has 'd' then run (squeezeBytes (first a))
      else
        misuse ("missing operand after ".toList ++ named a)
          [if g.has 'd' then "Two strings must be given when both deleting and squeezing repeats."
            else "Two strings must be given when translating."]
    | [a, b] =>
      if g.has 'd' then
        if g.has 's' then run fun bytes => squeezeBytes (set b) (bytes.filter fun x => !(first a).contains x)
        else
          misuse ("extra operand ".toList ++ named b)
            ["Only one string may be given when deleting without squeezing repeats."]
      else if b = [] then misuse "when not truncating set1, string2 must be non-empty" []
      else
        let (old, new) := (first a, set b)
        let new := new ++ List.replicate (old.length - new.length) (new.getLast?.getD 0)
        let pairs := (old.zip new).reverse
        let run' := fun (bytes : List Nat) =>
          let bytes := bytes.map fun x => (pairs.lookup x).getD x
          if g.has 's' then squeezeBytes (set b) bytes else bytes
        run run'
    | _ :: _ :: c :: _ => misuse ("extra operand ".toList ++ named c) []

/-- The places that a list of numbers and ranges names, as a range each; one without an end has 0 for
it. -/
def readPlaces (t : Text) : Option (List (Nat × Nat)) :=
  (t.splitOn ',').mapM fun piece =>
    match Text.splitFirst? (· = '-') piece with
    | none => (natOf? piece).map fun n => (n, n)
    | some (a, b) =>
      match a, b with
      | [], b => (natOf? b).map fun n => (1, n)
      | a, [] => (natOf? a).map fun n => (n, 0)
      | a, b => do return (← natOf? a, ← natOf? b)

/-- Whether a place, counted from 1, is named. -/
def isPlace (places : List (Nat × Nat)) (n : Nat) : Bool :=
  places.any fun (a, b) => a ≤ n && (b = 0 || n ≤ b)

/-- The pieces at the named places. -/
def pick {α : Type} (places : List (Nat × Nat)) (pieces : List α) : List α :=
  (pieces.zipIdx.filter fun (_, i) => isPlace places (i + 1)).map (·.1)

/-- Cut bytes or fields out of lines. -/
def cut : Tool := fun words s =>
  let usage : Usage := { tool := "cut", flags := "sn", valued := "bcfdO", long :=
    [("delimiter", 'd'), ("fields", 'f'), ("characters", 'c'), ("bytes", 'b'), ("only-delimited", 's'),
     ("output-delimiter", 'O')] }
  usage.apply words s fun g =>
    let misuse (complaint : String) : State :=
      ((s.complain ("cut: ".toList ++ complaint.toList)).complain
        "Try 'cut --help' for more information.").finish 1
    match ((g.value? 'b').or (g.value? 'c')).or (g.value? 'f') with
    | none => misuse "you must specify a list of bytes, characters, or fields"
    | some written =>
      match readPlaces written with
      | none => misuse "invalid byte, character or field list"
      | some places =>
        if places.any fun (a, _) => a = 0 then misuse "fields are numbered from 1"
        else
          let (found, s) := s.sources "cut" g.operands
          let lines := found.flatMap fun (_, t) => bodiesOf t
          if g.has 'f' then
            let separator := ((g.value? 'd').bind List.head?).getD '\t'
            let between := (g.value? 'O').getD [separator]
            s.emit (ofBodies (lines.flatMap fun line =>
              if line.contains separator then [Text.join between (pick places (line.splitOn separator))]
              else if g.has 's' then [] else [line]))
          else
            s.emit (ofBodies (lines.map (pick places)))

end Shell
end ExEditor
