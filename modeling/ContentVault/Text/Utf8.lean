/-!
# UTF-8

Decoding of bytes that need not be valid text.

* each maximal piece that starts a character and breaks off, and each byte that
  starts none, becomes one replacement character;
* every step consumes at least one byte, so decoding ends.
-/

namespace ContentVault.Utf8

/-- What stands in for bytes that are no text. -/
def replacement : Char := Char.ofNat 0xFFFD

/-- The byte at a position if it lies between two bounds. -/
@[inline]
def byteBetween (bytes : ByteArray) (position : Nat) (low high : UInt8) : Bool :=
  if inside : position < bytes.size then
    low ≤ bytes[position] && bytes[position] ≤ high
  else
    false

/-- The payload bits of the continuation byte at a position. -/
@[inline]
def continuationBits (bytes : ByteArray) (position : Nat) : Nat :=
  if inside : position < bytes.size then bytes[position].toNat % 64 else 0

/-- The bounds of the second byte for each first byte of a longer sequence. -/
def secondByteBounds (lead : UInt8) : UInt8 × UInt8 :=
  if lead == 0xE0 then (0xA0, 0xBF)
  else if lead == 0xED then (0x80, 0x9F)
  else if lead == 0xF0 then (0x90, 0xBF)
  else if lead == 0xF4 then (0x80, 0x8F)
  else (0x80, 0xBF)

/-- The character that starts at a position, if it is well formed, and the
number of bytes that belong to it or to its broken start. -/
def characterAt (bytes : ByteArray) (position : Nat) : Option Char × Nat :=
  if inside : position < bytes.size then
    let lead := bytes[position]
    if lead < 0x80 then
      (some (Char.ofNat lead.toNat), 1)
    else if lead < 0xC2 || 0xF4 < lead then
      (none, 1)
    else
      let bounds := secondByteBounds lead
      if !byteBetween bytes (position + 1) bounds.1 bounds.2 then
        (none, 1)
      else
        let second := continuationBits bytes (position + 1)
        if lead < 0xE0 then
          (some (Char.ofNat (lead.toNat % 32 * 64 + second)), 2)
        else if !byteBetween bytes (position + 2) 0x80 0xBF then
          (none, 2)
        else
          let third := continuationBits bytes (position + 2)
          if lead < 0xF0 then
            (some (Char.ofNat ((lead.toNat % 16 * 64 + second) * 64 + third)), 3)
          else if !byteBetween bytes (position + 3) 0x80 0xBF then
            (none, 3)
          else
            let fourth := continuationBits bytes (position + 3)
            (some (Char.ofNat
              (((lead.toNat % 8 * 64 + second) * 64 + third) * 64 + fourth)), 4)
  else
    (none, 1)

/-- Decode from a position with at most `fuel` further characters. -/
def decodeFrom (bytes : ByteArray) : Nat → Nat → String → String
  | 0, _, text => text
  | fuel + 1, position, text =>
      if position < bytes.size then
        let (character, width) := characterAt bytes position
        decodeFrom bytes fuel (position + width) (text.push (character.getD replacement))
      else
        text

/-- Decode bytes to text, with replacement characters for what is no text. -/
def decodeLossy (bytes : ByteArray) : String :=
  decodeFrom bytes bytes.size 0 ""

/-- Decode a list of bytes in the same way. -/
def decodeBytesLossy (bytes : List UInt8) : String :=
  decodeLossy (ByteArray.mk bytes.toArray)

/-- Decode bytes that must be well formed. -/
def decode? (bytes : ByteArray) : Option String :=
  String.fromUTF8? bytes

/-- The bytes of a text. -/
def encode (text : String) : List UInt8 :=
  text.toUTF8.toList

end ContentVault.Utf8
