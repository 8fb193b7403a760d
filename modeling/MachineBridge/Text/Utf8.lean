/-!
# MachineBridge.Text.Utf8

Decoding of UTF-8 that never fails.  A character is decoded when its last byte
is read; each maximal invalid prefix of a character is replaced by one U+FFFD.
The decoder keeps what it knows of a character under way, so that decoding
distributes over concatenation wherever the left part ends a character.
-/

namespace MachineBridge.Text

/-- A character under way: the bytes still to come, the value of the bits read
so far, and the bounds of the next byte. -/
structure Pending where
  left : Nat
  value : Nat
  low : UInt8
  high : UInt8
deriving DecidableEq, Repr

/-- What replaces an invalid prefix. -/
def replacement : Char := '\uFFFD'

/-- Begin a character with its first byte: a whole character, a character under
way, or nothing that UTF-8 allows. -/
def beginChar (b : UInt8) : List Char × Option Pending :=
  let bits (mask : Nat) := b.toNat % mask
  if b < 0x80 then ([Char.ofNat b.toNat], none)
  else if b < 0xC2 then ([replacement], none)
  else if b < 0xE0 then ([], some ⟨1, bits 0x20, 0x80, 0xBF⟩)
  else if b = 0xE0 then ([], some ⟨2, bits 0x10, 0xA0, 0xBF⟩)
  else if b = 0xED then ([], some ⟨2, bits 0x10, 0x80, 0x9F⟩)
  else if b < 0xF0 then ([], some ⟨2, bits 0x10, 0x80, 0xBF⟩)
  else if b = 0xF0 then ([], some ⟨3, bits 0x08, 0x90, 0xBF⟩)
  else if b < 0xF4 then ([], some ⟨3, bits 0x08, 0x80, 0xBF⟩)
  else if b = 0xF4 then ([], some ⟨3, bits 0x08, 0x80, 0x8F⟩)
  else ([replacement], none)

/-- Read one byte.  A byte that cannot continue the character under way ends it
as invalid and begins the next one. -/
def readByte (pending : Option Pending) (b : UInt8) : List Char × Option Pending :=
  match pending with
  | none => beginChar b
  | some p =>
    if p.low ≤ b ∧ b ≤ p.high then
      let value := p.value * 0x40 + b.toNat % 0x40
      if p.left ≤ 1 then ([Char.ofNat value], none)
      else ([], some ⟨p.left - 1, value, 0x80, 0xBF⟩)
    else
      let (out, next) := beginChar b
      (replacement :: out, next)

/-- Decode the rest of a text, given the character under way. -/
def decodeFrom : Option Pending → List UInt8 → List Char
  | none, [] => []
  | some _, [] => [replacement]
  | pending, b :: rest =>
    (readByte pending b).1 ++ decodeFrom (readByte pending b).2 rest

def decodeLossy (bytes : List UInt8) : List Char := decodeFrom none bytes

/-- Decode the bytes of a string that ends at its first zero byte. -/
def decodeTerminated (bytes : List UInt8) : String :=
  String.ofList (decodeLossy (bytes.takeWhile (· ≠ 0)))

end MachineBridge.Text
