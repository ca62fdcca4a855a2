import Gemtext.Text.Basic

/-!
# UTF-8

Texts as bytes.  `Utf8.encode` writes every character in one to four bytes.  `Utf8.decode?` reads
bytes that are the encoding of a text, and `Utf8.decodeLossy` reads all others too: every part that
begins no character, as long as it could be the beginning of one, is read as one replacement
character.
-/

namespace Gemtext

namespace Utf8

/-- A byte that goes on with a character, with six bits of its number. -/
def tailByte (bits : Nat) : UInt8 :=
  .ofNat (0x80 + bits % 0x40)

/-- The bytes of a character. -/
def encodeChar (c : Char) : List UInt8 :=
  let n := c.toNat
  if n < 0x80 then [.ofNat n]
  else if n < 0x800 then [.ofNat (0xC0 + n / 0x40), tailByte n]
  else if n < 0x10000 then [.ofNat (0xE0 + n / 0x1000), tailByte (n / 0x40), tailByte n]
  else [.ofNat (0xF0 + n / 0x40000), tailByte (n / 0x1000), tailByte (n / 0x40), tailByte n]

/-- The bytes of a text. -/
def encode (s : Text) : List UInt8 :=
  s.flatMap encodeChar

/-- A character of which some bytes are read. -/
structure Begun where
  /-- The number that the bytes give so far. -/
  value : Nat
  /-- How many bytes are still to come. -/
  owed : Nat
  /-- The smallest and the greatest byte that may come next. -/
  low : Nat
  high : Nat
  deriving DecidableEq, Repr

/-- What the first byte of a character begins; a character of one byte owes none. -/
def begin? (b : Nat) : Option Begun :=
  if b < 0x80 then some ⟨b, 0, 0x80, 0xBF⟩
  else if b < 0xC2 then none
  else if b < 0xE0 then some ⟨b % 0x20, 1, 0x80, 0xBF⟩
  else if b < 0xF0 then
    some ⟨b % 0x10, 2, if b = 0xE0 then 0xA0 else 0x80, if b = 0xED then 0x9F else 0xBF⟩
  else if b < 0xF5 then
    some ⟨b % 8, 3, if b = 0xF0 then 0x90 else 0x80, if b = 0xF4 then 0x8F else 0xBF⟩
  else none

/-- Read the first byte of a character: what was read, where a byte that begins none stands for
itself, and the character that has begun. -/
def readFirst (b : Nat) : List (Option Char) × Option Begun :=
  match begin? b with
  | none => ([none], none)
  | some begun =>
    if begun.owed = 0 then ([some (Char.ofNat begun.value)], none) else ([], some begun)

/-- The characters of bytes, and nothing for every malformed part.  A character may have begun. -/
def decodeParts (begun : Option Begun) : List UInt8 → List (Option Char)
  | [] => if begun.isSome then [none] else []
  | byte :: bytes =>
    let b := byte.toNat
    match begun with
    | none =>
      let (read, begun) := readFirst b
      read ++ decodeParts begun bytes
    | some c =>
      if c.low ≤ b && b ≤ c.high then
        let value := 0x40 * c.value + b % 0x40
        if c.owed = 1 then some (Char.ofNat value) :: decodeParts none bytes
        else decodeParts (some ⟨value, c.owed - 1, 0x80, 0xBF⟩) bytes
      else
        let (read, begun) := readFirst b
        none :: read ++ decodeParts begun bytes

/-- The text that the bytes encode. -/
def decode? (bytes : List UInt8) : Option Text :=
  (decodeParts none bytes).mapM id

/-- The text of the bytes, with replacement characters for malformed parts. -/
def decodeLossy (bytes : List UInt8) : Text :=
  (decodeParts none bytes).map (·.getD '\ufffd')

end Utf8

end Gemtext
