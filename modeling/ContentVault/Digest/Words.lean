/-!
# Words of a digest

Both hash functions of the vault work on 32-bit words.  This module holds what
they share: rotation, total byte access, and the two byte orders.
-/

namespace ContentVault.Digest

/-- Rotate a word to the right by a count between one and thirty-one. -/
@[inline]
def rotateRight (word count : UInt32) : UInt32 :=
  (word >>> count) ||| (word <<< (32 - count))

/-- The byte at a position, zero past the end. -/
@[inline]
def byteAt (bytes : ByteArray) (position : Nat) : UInt8 :=
  if inside : position < bytes.size then bytes[position] else 0

/-- The big-endian word that starts at a position. -/
def bigEndianWord (bytes : ByteArray) (start : Nat) : UInt32 :=
  ((byteAt bytes start).toUInt32 <<< 24) |||
    ((byteAt bytes (start + 1)).toUInt32 <<< 16) |||
    ((byteAt bytes (start + 2)).toUInt32 <<< 8) |||
    (byteAt bytes (start + 3)).toUInt32

/-- The little-endian word that starts at a position. -/
def littleEndianWord (bytes : ByteArray) (start : Nat) : UInt32 :=
  (byteAt bytes start).toUInt32 |||
    ((byteAt bytes (start + 1)).toUInt32 <<< 8) |||
    ((byteAt bytes (start + 2)).toUInt32 <<< 16) |||
    ((byteAt bytes (start + 3)).toUInt32 <<< 24)

/-- The four bytes of a word, most significant first. -/
def bigEndianBytes (word : UInt32) : List UInt8 :=
  [(word >>> 24).toUInt8, (word >>> 16).toUInt8, (word >>> 8).toUInt8, word.toUInt8]

/-- The four bytes of a word, least significant first. -/
def littleEndianBytes (word : UInt32) : List UInt8 :=
  [word.toUInt8, (word >>> 8).toUInt8, (word >>> 16).toUInt8, (word >>> 24).toUInt8]

/-- The first words of the fractional parts of the square roots of the first
eight primes, the initial state of both hash functions. -/
def initialWords : List UInt32 :=
  [0x6a09e667, 0xbb67ae85, 0x3c6ef372, 0xa54ff53a,
   0x510e527f, 0x9b05688c, 0x1f83d9ab, 0x5be0cd19]

end ContentVault.Digest
