import ExEditor.Shell.Tool.Options

/-! Tools that look at the bytes of texts. -/
namespace ExEditor
namespace Shell

/-- A number in a base with at least so many digits. -/
def digitsIn (base width n : Nat) : Text :=
  let digits := Nat.toDigits base n
  List.replicate (width - digits.length) '0' ++ digits

/-- Pieces of a list of so many members each, the last of which may have fewer. The first argument bounds
their number. -/
def chunks {α : Type} : Nat → (size : Nat) → List α → List (List α)
  | 0, _, _ => []
  | _ + 1, _, [] => []
  | n + 1, size, xs => xs.take size :: chunks n size (xs.drop size)

/-- A byte as `od -c` shows it. -/
def byteSign (b : Char) : Text :=
  match b.toNat with
  | 0 => "\\0"
  | 7 => "\\a"
  | 8 => "\\b"
  | 9 => "\\t"
  | 10 => "\\n"
  | 11 => "\\v"
  | 12 => "\\f"
  | 13 => "\\r"
  | n => if 32 ≤ n && n < 127 then [b] else digitsIn 8 3 n

/-- Two bytes as one number, the lower one first. -/
def words16 : Text → List Nat
  | a :: b :: rest => (a.toNat + 256 * b.toNat) :: words16 rest
  | [a] => [a.toNat]
  | [] => []

/-- Bytes in one of the forms of `od`; none if there is no such form. -/
def bytesIn? (form : Text) (bytes : Text) : Option Text :=
  match String.ofList form with
  | "c" => some (bytes.flatMap fun b => Text.padStart 4 (byteSign b))
  | "x1" => some (bytes.flatMap fun b => ' ' :: digitsIn 16 2 b.toNat)
  | "o1" => some (bytes.flatMap fun b => ' ' :: digitsIn 8 3 b.toNat)
  | "u1" => some (bytes.flatMap fun b => Text.padStart 4 (Text.ofNat b.toNat))
  | "d1" => some (bytes.flatMap fun b => Text.padStart 5 (Text.ofInt (Int.bmod b.toNat 256)))
  | "x2" | "x" => some ((words16 bytes).flatMap fun n => ' ' :: digitsIn 16 4 n)
  | "o2" | "o" => some ((words16 bytes).flatMap fun n => ' ' :: digitsIn 8 6 n)
  | "u2" => some ((words16 bytes).flatMap fun n => Text.padStart 6 (Text.ofNat n))
  | _ => none

/-- Show bytes in rows of sixteen with their offsets; a row that is as the one before it is shown as a
star once. -/
def od : Tool := fun words s =>
  ({ tool := "od", flags := "cbxv", valued := "tA" } : Usage).apply words s fun g =>
    let (found, s) := s.sources "od" g.operands
    let bytes := found.flatMap (·.2)
    let form : Text :=
      if g.has 'c' then "c" else if g.has 'b' then "o1" else if g.has 'x' then "x2"
      else (g.value? 't').getD "o2"
    let offset (n : Nat) : Text :=
      match g.value? 'A' with
      | some ['n'] => []
      | some ['d'] => digitsIn 10 7 n
      | some ['x'] => digitsIn 16 6 n
      | _ => digitsIn 8 7 n
    let rows := chunks (bytes.length + 1) 16 bytes
    let rec shown (n : Nat) (before : Option Text) (starred : Bool) : List Text → Option Text
      | [] => some []
      | row :: rest =>
        if before = some row && !g.has 'v' && row.length = 16 then
          (shown (n + 16) (some row) true rest).map fun t => (if starred then [] else ['*', '\n']) ++ t
        else do
          let body ← bytesIn? form row
          return offset n ++ body ++ '\n' :: (← shown (n + 16) (some row) false rest)
    match shown 0 none false rows with
    | some t =>
      let last := offset bytes.length
      s.emit (t ++ if last = [] then [] else last ++ ['\n'])
    | none => (s.complain ("od: invalid type string '".toList ++ form ++ ['\''])).finish 1

/-- The signs that stand for six bits each. -/
def sixBitSigns : Text := "ABCDEFGHIJKLMNOPQRSTUVWXYZabcdefghijklmnopqrstuvwxyz0123456789+/".toList

/-- The sign of six bits. -/
def sixBitSign (n : Nat) : Char := sixBitSigns.getD (n % 64) 'A'

/-- Bytes as signs of six bits, filled up to groups of four. -/
def toSixBits : Text → Text
  | a :: b :: c :: rest =>
    let n := a.toNat * 65536 + b.toNat * 256 + c.toNat
    sixBitSign (n / 262144) :: sixBitSign (n / 4096) :: sixBitSign (n / 64) :: sixBitSign n :: toSixBits rest
  | [a, b] =>
    let n := a.toNat * 65536 + b.toNat * 256
    [sixBitSign (n / 262144), sixBitSign (n / 4096), sixBitSign (n / 64), '=']
  | [a] =>
    let n := a.toNat * 65536
    [sixBitSign (n / 262144), sixBitSign (n / 4096), '=', '=']
  | [] => []

/-- The character of the lowest byte of a number. -/
def byteOf (n : Nat) : Char := Char.ofNat (n % 256)

/-- The bytes that signs of six bits stand for; none where something else stands among them. -/
def ofSixBits : List (Option Nat) → Option Text
  | some a :: some b :: some c :: some d :: rest => do
    let n := a * 262144 + b * 4096 + c * 64 + d
    return byteOf (n / 65536) :: byteOf (n / 256) :: byteOf n :: (← ofSixBits rest)
  | [some a, some b, some c, none] =>
    let n := a * 262144 + b * 4096 + c * 64
    some [byteOf (n / 65536), byteOf (n / 256)]
  | [some a, some b, none, none] => some [byteOf ((a * 262144 + b * 4096) / 65536)]
  | [] => some []
  | _ => none

/-- Write bytes as signs of six bits, or read these. -/
def base64 : Tool := fun words s =>
  ({ tool := "base64", flags := "di", valued := "w", long := [("decode", 'd'), ("wrap", 'w')] } : Usage).apply words s
    fun g =>
      let (found, s) := s.sources "base64" g.operands
      let t := found.flatMap (·.2)
      if g.has 'd' then
        let signs := (t.filter (· ≠ '\n')).map fun c => sixBitSigns.findIdx? (· = c)
        match ofSixBits signs with
        | some bytes => s.emit bytes
        | none => (s.complain "base64: invalid input").finish 1
      else
        let signs := toSixBits t
        let width := ((g.value? 'w').bind natOf?).getD 76
        if width = 0 then s.emit signs else s.emit (ofBodies (chunks (signs.length + 1) width signs))

/-- How many members two lists have in common at their front. -/
def agreement : Text → Text → Nat
  | a :: as, b :: bs => if a = b then agreement as bs + 1 else 0
  | _, _ => 0

/-- Compare two files byte by byte. -/
def cmp : Tool := fun words s =>
  ({ tool := "cmp", flags := "slb", misuse := 2 } : Usage).apply words s fun g =>
    match g.operands with
    | [] =>
      ((s.complain "cmp: missing operand after 'cmp'").complain
        "cmp: Try 'cmp --help' for more information.").finish 2
    | first :: others =>
      let second := others.headD ['-']
      let (t, s) := s.source first
      let (u, s) := s.source second
      match t, u with
      | .error fault, _ => (s.complain ("cmp: ".toList ++ first ++ ": ".toList ++ fault.cause)).finish 2
      | _, .error fault => (s.complain ("cmp: ".toList ++ second ++ ": ".toList ++ fault.cause)).finish 2
      | .ok t, .ok u =>
        let (a, b) := (t, u)
        let same := agreement a b
        let lines := (a.take same).count '\n'
        let quiet (s : State) (write : State → State) : State := if g.has 's' then s else write s
        if same = a.length && same = b.length then s.finish 0
        else if same = a.length || same = b.length then
          let shorter := if same = a.length then first else second
          let place : Text :=
            if same = 0 then " which is empty"
            else
              " after byte " ++ Text.ofNat same ++ ", ".toList ++
                (if a[same - 1]? == some '\n' then "line " else "in line ").toList ++
                Text.ofNat (if a[same - 1]? == some '\n' then lines else lines + 1)
          (quiet s fun s => s.complain ("cmp: EOF on ".toList ++ shorter ++ place)).finish 1
        else
          (quiet s fun s =>
            s.emit (first ++ ' ' :: second ++ " differ: char ".toList ++ Text.ofNat (same + 1) ++
              ", line ".toList ++ Text.ofNat (lines + 1) ++ ['\n'])).finish 1

/-- Say by the status whether two files differ. -/
def diff : Tool := fun words s =>
  ({ tool := "diff", flags := "qsuwbiB", misuse := 2 } : Usage).apply words s fun g =>
    match g.operands with
    | [first, second] =>
      let (t, s) := s.source first
      let (u, s) := s.source second
      match t, u with
      | .ok t, .ok u =>
        if t = u then s.finish 0
        else
          (if g.has 'q' then s.emit ("Files ".toList ++ first ++ " and ".toList ++ second ++ " differ\n".toList)
            else s).finish 1
      | t, u =>
        let complain (s : State) (name : Text) : Except FileFault Text → State
          | .ok _ => s
          | .error fault => s.complain ("diff: ".toList ++ name ++ ": ".toList ++ fault.cause)
        (complain (complain s first t) second u).finish 2
    | operands =>
      let after : Text := operands.getLast?.getD "diff"
      ((s.complain ("diff: missing operand after '".toList ++ after ++ ['\''])).complain
        "diff: Try 'diff --help' for more information.").finish 2

end Shell
end ExEditor
