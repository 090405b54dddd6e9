import ExEditor.Text.Basic

/-! Text as bytes in UTF-8, and back: bytes that are no text become replacement characters, one for
each longest beginning of a character that goes wrong. -/
namespace ExEditor
namespace Text

/-- The bytes of a text. -/
def toBytes (t : Text) : List UInt8 := (String.ofList t).toUTF8.toList

/-- How many bytes follow a first byte, and the least and the greatest that the next of them may be. No
byte follows one that is no first byte of several. -/
def following (first : Nat) : Nat × Nat × Nat :=
  if first < 0xC2 then (0, 0, 0)
  else if first < 0xE0 then (1, 0x80, 0xBF)
  else if first < 0xF0 then (2, if first = 0xE0 then 0xA0 else 0x80, if first = 0xED then 0x9F else 0xBF)
  else if first < 0xF5 then (3, if first = 0xF0 then 0x90 else 0x80, if first = 0xF4 then 0x8F else 0xBF)
  else (0, 0, 0)

/-- The character whose first byte has given `value`, if all its other bytes are there, and the bytes
behind those that belong to it. -/
def completed : (left value low high : Nat) → List UInt8 → Option Char × List UInt8
  | 0, value, _, _, bytes => (some (Char.ofNat value), bytes)
  | left + 1, value, low, high, byte :: bytes =>
    if low ≤ byte.toNat ∧ byte.toNat ≤ high then
      completed left (64 * value + byte.toNat % 64) 0x80 0xBF bytes
    else (none, byte :: bytes)
  | _ + 1, _, _, _, [] => (none, [])

/-- The text of some bytes. The first argument bounds their number. -/
def ofBytesFrom : Nat → List UInt8 → Text
  | 0, _ => []
  | _ + 1, [] => []
  | n + 1, byte :: bytes =>
    if byte.toNat < 0x80 then Char.ofNat byte.toNat :: ofBytesFrom n bytes
    else
      let (left, low, high) := following byte.toNat
      if left = 0 then '\uFFFD' :: ofBytesFrom n bytes
      else
        let (c, rest) := completed left (byte.toNat % Nat.pow 2 (6 - left)) low high bytes
        c.getD '\uFFFD' :: ofBytesFrom n rest

/-- The text of some bytes. -/
def ofBytes (bytes : List UInt8) : Text := ofBytesFrom bytes.length bytes

/-- A text with one character for each of its bytes. -/
def spread (t : Text) : Text := t.toBytes.map fun byte => Char.ofNat byte.toNat

/-- The bytes that the characters of a text stand for, one each. -/
def gathered (t : Text) : List UInt8 := t.map fun c => UInt8.ofNat c.toNat

/-- The text whose bytes the characters of a text stand for. -/
def gather (t : Text) : Text := ofBytes t.gathered

end Text
end ExEditor
