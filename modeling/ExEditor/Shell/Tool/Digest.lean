import ExEditor.Shell.Tool.Bytes
import ExEditor.Text.Decoding

/-! Checksums of texts. -/
namespace ExEditor
namespace Shell
namespace Digest

/-- A number as bytes, the lowest first. -/
def lowFirst : (count : Nat) → Nat → List UInt8
  | 0, _ => []
  | count + 1, n => UInt8.ofNat (n % 256) :: lowFirst count (n / 256)

/-- The number that bytes are, the highest first. -/
def number (bytes : List UInt8) : UInt32 := bytes.foldl (fun n b => n * 256 + b.toUInt32) 0

/-- Bytes filled up to blocks of sixty-four, with their number in bits at the end. -/
def filled (highFirst : Bool) (bytes : List UInt8) : List UInt8 :=
  let size := lowFirst 8 (8 * bytes.length)
  bytes ++ 0x80 :: List.replicate ((119 - bytes.length % 64) % 64) 0 ++ if highFirst then size.reverse else size

/-- The words of four bytes in a list of blocks, sixteen for each block. -/
def blocks (highFirst : Bool) (bytes : List UInt8) : List (Array UInt32) :=
  let all := filled highFirst bytes
  (chunks (all.length + 1) 64 all).map fun block =>
    ((chunks 17 4 block).map fun w => number (if highFirst then w else w.reverse)).toArray

/-- A word turned to the left. -/
def turn (w : UInt32) (count : UInt32) : UInt32 := (w <<< count) ||| (w >>> (32 - count))

/-- Words as digits, in the order of their bytes. -/
def digits (highFirst : Bool) (words : List UInt32) : Text :=
  words.flatMap fun w =>
    let bytes := lowFirst 4 w.toNat
    (if highFirst then bytes.reverse else bytes).flatMap fun b => digitsIn 16 2 b.toNat

/-- The numbers that are added in the rounds of `md5`. -/
def md5Numbers : Array UInt32 :=
  #[0xd76aa478, 0xe8c7b756, 0x242070db, 0xc1bdceee, 0xf57c0faf, 0x4787c62a, 0xa8304613, 0xfd469501,
    0x698098d8, 0x8b44f7af, 0xffff5bb1, 0x895cd7be, 0x6b901122, 0xfd987193, 0xa679438e, 0x49b40821,
    0xf61e2562, 0xc040b340, 0x265e5a51, 0xe9b6c7aa, 0xd62f105d, 0x02441453, 0xd8a1e681, 0xe7d3fbc8,
    0x21e1cde6, 0xc33707d6, 0xf4d50d87, 0x455a14ed, 0xa9e3e905, 0xfcefa3f8, 0x676f02d9, 0x8d2a4c8a,
    0xfffa3942, 0x8771f681, 0x6d9d6122, 0xfde5380c, 0xa4beea44, 0x4bdecfa9, 0xf6bb4b60, 0xbebfbc70,
    0x289b7ec6, 0xeaa127fa, 0xd4ef3085, 0x04881d05, 0xd9d4d039, 0xe6db99e5, 0x1fa27cf8, 0xc4ac5665,
    0xf4292244, 0x432aff97, 0xab9423a7, 0xfc93a039, 0x655b59c3, 0x8f0ccc92, 0xffeff47d, 0x85845dd1,
    0x6fa87e4f, 0xfe2ce6e0, 0xa3014314, 0x4e0811a1, 0xf7537e82, 0xbd3af235, 0x2ad7d2bb, 0xeb86d391]

/-- How far the rounds of `md5` turn, four for each quarter of them. -/
def md5Turns : Array UInt32 := #[7, 12, 17, 22, 5, 9, 14, 20, 4, 11, 16, 23, 6, 10, 15, 21]

/-- Four words that a block has been mixed into. -/
structure Four where
  a : UInt32
  b : UInt32
  c : UInt32
  d : UInt32

/-- One round of `md5`. -/
def md5Round (block : Array UInt32) (s : Four) (i : Nat) : Four :=
  let (mixed, place) : UInt32 × Nat :=
    if i < 16 then ((s.b &&& s.c) ||| (~~~s.b &&& s.d), i)
    else if i < 32 then ((s.d &&& s.b) ||| (~~~s.d &&& s.c), (5 * i + 1) % 16)
    else if i < 48 then (s.b ^^^ s.c ^^^ s.d, (3 * i + 5) % 16)
    else (s.c ^^^ (s.b ||| ~~~s.d), (7 * i) % 16)
  let sum := s.a + mixed + md5Numbers.getD i 0 + block.getD place 0
  ⟨s.d, s.b + turn sum (md5Turns.getD (4 * (i / 16) + i % 4) 0), s.b, s.c⟩

/-- The checksum of `md5sum`. -/
def md5 (bytes : List UInt8) : Text :=
  let last := (blocks false bytes).foldl (fun s block =>
    let t := (List.range 64).foldl (md5Round block) s
    ⟨s.a + t.a, s.b + t.b, s.c + t.c, s.d + t.d⟩)
    (⟨0x67452301, 0xefcdab89, 0x98badcfe, 0x10325476⟩ : Four)
  digits false [last.a, last.b, last.c, last.d]

/-- Words of a block with more behind them, each of which is made of those before it. -/
def grown (next : Array UInt32 → Nat → UInt32) (size : Nat) (block : Array UInt32) : Array UInt32 :=
  (List.range' 16 (size - 16)).foldl (fun words i => words.push (next words i)) block

/-- Five words that a block has been mixed into. -/
structure Five extends Four where
  e : UInt32

/-- One round of `sha1`. -/
def sha1Round (words : Array UInt32) (s : Five) (i : Nat) : Five :=
  let (mixed, k) : UInt32 × UInt32 :=
    if i < 20 then ((s.b &&& s.c) ||| (~~~s.b &&& s.d), 0x5a827999)
    else if i < 40 then (s.b ^^^ s.c ^^^ s.d, 0x6ed9eba1)
    else if i < 60 then ((s.b &&& s.c) ||| (s.b &&& s.d) ||| (s.c &&& s.d), 0x8f1bbcdc)
    else (s.b ^^^ s.c ^^^ s.d, 0xca62c1d6)
  ⟨⟨turn s.a 5 + mixed + s.e + k + words.getD i 0, s.a, turn s.b 30, s.c⟩, s.d⟩

/-- The checksum of `sha1sum`. -/
def sha1 (bytes : List UInt8) : Text :=
  let next (words : Array UInt32) (i : Nat) : UInt32 :=
    turn (words.getD (i - 3) 0 ^^^ words.getD (i - 8) 0 ^^^ words.getD (i - 14) 0 ^^^ words.getD (i - 16) 0) 1
  let last := (blocks true bytes).foldl (fun s block =>
    let t := (List.range 80).foldl (sha1Round (grown next 80 block)) s
    ⟨⟨s.a + t.a, s.b + t.b, s.c + t.c, s.d + t.d⟩, s.e + t.e⟩)
    (⟨⟨0x67452301, 0xefcdab89, 0x98badcfe, 0x10325476⟩, 0xc3d2e1f0⟩ : Five)
  digits true [last.a, last.b, last.c, last.d, last.e]

/-- The numbers that are added in the rounds of `sha256`. -/
def sha256Numbers : Array UInt32 :=
  #[0x428a2f98, 0x71374491, 0xb5c0fbcf, 0xe9b5dba5, 0x3956c25b, 0x59f111f1, 0x923f82a4, 0xab1c5ed5,
    0xd807aa98, 0x12835b01, 0x243185be, 0x550c7dc3, 0x72be5d74, 0x80deb1fe, 0x9bdc06a7, 0xc19bf174,
    0xe49b69c1, 0xefbe4786, 0x0fc19dc6, 0x240ca1cc, 0x2de92c6f, 0x4a7484aa, 0x5cb0a9dc, 0x76f988da,
    0x983e5152, 0xa831c66d, 0xb00327c8, 0xbf597fc7, 0xc6e00bf3, 0xd5a79147, 0x06ca6351, 0x14292967,
    0x27b70a85, 0x2e1b2138, 0x4d2c6dfc, 0x53380d13, 0x650a7354, 0x766a0abb, 0x81c2c92e, 0x92722c85,
    0xa2bfe8a1, 0xa81a664b, 0xc24b8b70, 0xc76c51a3, 0xd192e819, 0xd6990624, 0xf40e3585, 0x106aa070,
    0x19a4c116, 0x1e376c08, 0x2748774c, 0x34b0bcb5, 0x391c0cb3, 0x4ed8aa4a, 0x5b9cca4f, 0x682e6ff3,
    0x748f82ee, 0x78a5636f, 0x84c87814, 0x8cc70208, 0x90befffa, 0xa4506ceb, 0xbef9a3f7, 0xc67178f2]

/-- Eight words that a block has been mixed into. -/
structure Eight extends Five where
  f : UInt32
  g : UInt32
  h : UInt32

/-- The words in order. -/
def Eight.words (s : Eight) : List UInt32 := [s.a, s.b, s.c, s.d, s.e, s.f, s.g, s.h]

/-- A word turned to the right by two numbers, with what a third one gives. -/
def scattered (w x y z : UInt32) : UInt32 := turn w (32 - x) ^^^ turn w (32 - y) ^^^ z

/-- One round of `sha256`. -/
def sha256Round (words : Array UInt32) (s : Eight) (i : Nat) : Eight :=
  let first := s.h + scattered s.e 6 11 (turn s.e 7) + ((s.e &&& s.f) ^^^ (~~~s.e &&& s.g)) +
    sha256Numbers.getD i 0 + words.getD i 0
  let second := scattered s.a 2 13 (turn s.a 10) + ((s.a &&& s.b) ^^^ (s.a &&& s.c) ^^^ (s.b &&& s.c))
  ⟨⟨⟨first + second, s.a, s.b, s.c⟩, s.d + first⟩, s.e, s.f, s.g⟩

/-- The checksum of `sha256sum`. -/
def sha256 (bytes : List UInt8) : Text :=
  let next (words : Array UInt32) (i : Nat) : UInt32 :=
    let (v, w) := (words.getD (i - 15) 0, words.getD (i - 2) 0)
    words.getD (i - 16) 0 + scattered v 7 18 (v >>> 3) + words.getD (i - 7) 0 + scattered w 17 19 (w >>> 10)
  let start : Eight :=
    ⟨⟨⟨0x6a09e667, 0xbb67ae85, 0x3c6ef372, 0xa54ff53a⟩, 0x510e527f⟩, 0x9b05688c, 0x1f83d9ab, 0x5be0cd19⟩
  let last := (blocks true bytes).foldl (fun s block =>
    let t := (List.range 64).foldl (sha256Round (grown next 64 block)) s
    ⟨⟨⟨s.a + t.a, s.b + t.b, s.c + t.c, s.d + t.d⟩, s.e + t.e⟩, s.f + t.f, s.g + t.g, s.h + t.h⟩) start
  digits true last.words

/-- One byte taken into a checksum bit by bit. -/
def crcByte (n : UInt32) (byte : UInt8) : UInt32 :=
  (List.range 8).foldl (fun n _ => if n &&& 0x80000000 ≠ 0 then (n <<< 1) ^^^ 0x04c11db7 else n <<< 1)
    (n ^^^ (byte.toUInt32 <<< 24))

/-- The bytes of a number without zeros at the high end, the lowest first. The first argument bounds
them. -/
def sizeBytes : Nat → Nat → List UInt8
  | 0, _ => []
  | _ + 1, 0 => []
  | count + 1, n => UInt8.ofNat (n % 256) :: sizeBytes count (n / 256)

/-- The checksum of `cksum`, in which the number of bytes counts as well. -/
def crc (bytes : List UInt8) : Nat :=
  (~~~((bytes ++ sizeBytes 16 bytes.length).foldl crcByte 0)).toNat

end Digest

/-- Show a checksum of each text. -/
def showDigest (tool : String) (digest : List UInt8 → Text) : Tool := fun words s =>
  ({ tool := tool.toList, flags := "bt" } : Usage).apply words s fun g =>
    let (found, s) := s.sources tool.toList g.operands
    s.emit (ofBodies (found.map fun (name, t) => digest t.gathered ++ ' ' :: ' ' :: name))

/-- Show a checksum and the number of bytes of each text. -/
def cksum : Tool := fun words s =>
  ({ tool := "cksum" } : Usage).apply words s fun g =>
    let (found, s) := s.sources "cksum" g.operands
    s.emit (ofBodies (found.map fun (name, t) =>
      Text.ofNat (Digest.crc t.gathered) ++ ' ' :: Text.ofNat t.length ++
        if g.operands = [] then [] else ' ' :: name))

end Shell
end ExEditor
