import Multiplexer.Bytes

/-!
Reading bytes as text. A byte string that is not UTF-8 is still read: each longest run of bytes
that begins a character and is then broken off becomes one replacement character, and so does
each byte that begins no character.
-/

namespace Multiplexer

/-- A character that has begun: the bytes it still owes, the range of the next byte, and the
value read so far. -/
structure OpenCharacter where
  owed : Nat
  low : UInt8
  high : UInt8
  value : Nat
deriving DecidableEq

/-- The character that stands for bytes that are no text. -/
def replacementCharacter : Char := '\uFFFD'

/-- The characters that a byte outside any character yields, and the character it begins. -/
def beginCharacter (b : UInt8) : List Char × Option OpenCharacter :=
  let n := b.toNat
  if n < 0x80 then ([Char.ofNat n], none)
  else if n < 0xC2 then ([replacementCharacter], none)
  else if n < 0xE0 then ([], some ⟨1, 0x80, 0xBF, n - 0xC0⟩)
  else if n = 0xE0 then ([], some ⟨2, 0xA0, 0xBF, n - 0xE0⟩)
  else if n = 0xED then ([], some ⟨2, 0x80, 0x9F, n - 0xE0⟩)
  else if n < 0xF0 then ([], some ⟨2, 0x80, 0xBF, n - 0xE0⟩)
  else if n = 0xF0 then ([], some ⟨3, 0x90, 0xBF, n - 0xF0⟩)
  else if n < 0xF4 then ([], some ⟨3, 0x80, 0xBF, n - 0xF0⟩)
  else if n = 0xF4 then ([], some ⟨3, 0x80, 0x8F, n - 0xF0⟩)
  else ([replacementCharacter], none)

/-- One byte of a text: the characters it completes or breaks off, and the character that is
open after it. -/
def OpenCharacter.read : Option OpenCharacter → UInt8 → List Char × Option OpenCharacter
  | none, b => beginCharacter b
  | some c, b =>
    if c.low ≤ b ∧ b ≤ c.high then
      let value := c.value * 64 + (b.toNat - 0x80)
      if c.owed ≤ 1 then ([Char.ofNat value], none)
      else ([], some ⟨c.owed - 1, 0x80, 0xBF, value⟩)
    else
      let (chars, next) := beginCharacter b
      (replacementCharacter :: chars, next)

/-- The characters of a byte string, newest first, on top of those in `done`. -/
def readCharacters : Option OpenCharacter → Bytes → List Char → List Char
  | none, [], done => done
  | some _, [], done => replacementCharacter :: done
  | c, b :: bs, done =>
    let (chars, next) := OpenCharacter.read c b
    readCharacters next bs (chars.reverseAux done)

/-- The text that a byte string holds, with a replacement character for each broken part. -/
def Bytes.toText (bs : Bytes) : String :=
  String.ofList (readCharacters none bs []).reverse

end Multiplexer
