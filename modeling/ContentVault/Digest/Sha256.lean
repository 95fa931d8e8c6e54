import ContentVault.Digest.Words

/-!
# SHA-256

The content address of a payload is its SHA-256 digest.

* the message is closed by one set bit, zeros and its length in bits;
* each block of sixty-four bytes is expanded to a schedule of sixty-four words;
* the digest is the final chaining state, eight words, thirty-two bytes.
-/

namespace ContentVault.Digest.Sha256

/-- The chaining state between two blocks. -/
structure State where
  a : UInt32
  b : UInt32
  c : UInt32
  d : UInt32
  e : UInt32
  f : UInt32
  g : UInt32
  h : UInt32
  deriving Repr, DecidableEq

/-- The state before the first block. -/
def State.initial : State where
  a := 0x6a09e667
  b := 0xbb67ae85
  c := 0x3c6ef372
  d := 0xa54ff53a
  e := 0x510e527f
  f := 0x9b05688c
  g := 0x1f83d9ab
  h := 0x5be0cd19

/-- The words of a state in output order. -/
def State.words (state : State) : List UInt32 :=
  [state.a, state.b, state.c, state.d, state.e, state.f, state.g, state.h]

/-- One constant for each round: the first words of the fractional parts of
the cube roots of the first sixty-four primes. -/
def roundConstants : Array UInt32 := #[
  0x428a2f98, 0x71374491, 0xb5c0fbcf, 0xe9b5dba5, 0x3956c25b, 0x59f111f1, 0x923f82a4, 0xab1c5ed5,
  0xd807aa98, 0x12835b01, 0x243185be, 0x550c7dc3, 0x72be5d74, 0x80deb1fe, 0x9bdc06a7, 0xc19bf174,
  0xe49b69c1, 0xefbe4786, 0x0fc19dc6, 0x240ca1cc, 0x2de92c6f, 0x4a7484aa, 0x5cb0a9dc, 0x76f988da,
  0x983e5152, 0xa831c66d, 0xb00327c8, 0xbf597fc7, 0xc6e00bf3, 0xd5a79147, 0x06ca6351, 0x14292967,
  0x27b70a85, 0x2e1b2138, 0x4d2c6dfc, 0x53380d13, 0x650a7354, 0x766a0abb, 0x81c2c92e, 0x92722c85,
  0xa2bfe8a1, 0xa81a664b, 0xc24b8b70, 0xc76c51a3, 0xd192e819, 0xd6990624, 0xf40e3585, 0x106aa070,
  0x19a4c116, 0x1e376c08, 0x2748774c, 0x34b0bcb5, 0x391c0cb3, 0x4ed8aa4a, 0x5b9cca4f, 0x682e6ff3,
  0x748f82ee, 0x78a5636f, 0x84c87814, 0x8cc70208, 0x90befffa, 0xa4506ceb, 0xbef9a3f7, 0xc67178f2]

/-- The word at a position of a schedule, zero past its end. -/
@[inline]
def wordAt (words : Array UInt32) (position : Nat) : UInt32 :=
  words.getD position 0

/-- The word that the recurrence puts behind the words found so far. -/
@[inline]
def nextWord (words : Array UInt32) : UInt32 :=
  let size := words.size
  let early := wordAt words (size - 15)
  let late := wordAt words (size - 2)
  wordAt words (size - 16) +
    (rotateRight early 7 ^^^ rotateRight early 18 ^^^ (early >>> 3)) +
    wordAt words (size - 7) +
    (rotateRight late 17 ^^^ rotateRight late 19 ^^^ (late >>> 10))

/-- Take the sixteen input words of a block. -/
def loadWords (message : ByteArray) (start : Nat) : Nat → Array UInt32 → Array UInt32
  | 0, words => words
  | remaining + 1, words =>
      loadWords message (start + 4) remaining (words.push (bigEndianWord message start))

/-- Append a number of words by the recurrence. -/
def extendWords : Nat → Array UInt32 → Array UInt32
  | 0, words => words
  | remaining + 1, words => extendWords remaining (words.push (nextWord words))

/-- The sixty-four words that the rounds consume for the block at `start`. -/
def schedule (message : ByteArray) (start : Nat) : Array UInt32 :=
  extendWords 48 (loadWords message start 16 (Array.mkEmpty 64))

/-- The last `remaining` rounds, on a state held in eight words. -/
def rounds
    (words : Array UInt32) (a b c d e f g h : UInt32) : Nat → State
  | 0 => { a, b, c, d, e, f, g, h }
  | remaining + 1 =>
      let position := 63 - remaining
      let high := rotateRight e 6 ^^^ rotateRight e 11 ^^^ rotateRight e 25
      let choice := (e &&& f) ^^^ ((~~~ e) &&& g)
      let first := h + high + choice + wordAt roundConstants position + wordAt words position
      let low := rotateRight a 2 ^^^ rotateRight a 13 ^^^ rotateRight a 22
      let majority := (a &&& b) ^^^ (a &&& c) ^^^ (b &&& c)
      rounds words (first + (low + majority)) a b c (d + first) e f g remaining

/-- Absorb one block into the state. -/
def absorbBlock (message : ByteArray) (start : Nat) (state : State) : State :=
  let mixed :=
    rounds (schedule message start)
      state.a state.b state.c state.d state.e state.f state.g state.h 64
  { a := state.a + mixed.a
    b := state.b + mixed.b
    c := state.c + mixed.c
    d := state.d + mixed.d
    e := state.e + mixed.e
    f := state.f + mixed.f
    g := state.g + mixed.g
    h := state.h + mixed.h }

/-- Absorb a number of consecutive blocks. -/
def absorbBlocks (message : ByteArray) : Nat → Nat → State → State
  | 0, _, state => state
  | remaining + 1, start, state =>
      absorbBlocks message remaining (start + 64) (absorbBlock message start state)

/-- How many zero bytes lie between the closing bit and the length. -/
def paddingZeros (size : Nat) : Nat :=
  (119 - size % 64) % 64

/-- The length in bits as eight bytes, most significant first. -/
def lengthBytes (size : Nat) : List UInt8 :=
  let bits := size * 8
  [(bits >>> 56).toUInt8, (bits >>> 48).toUInt8, (bits >>> 40).toUInt8,
   (bits >>> 32).toUInt8, (bits >>> 24).toUInt8, (bits >>> 16).toUInt8,
   (bits >>> 8).toUInt8, bits.toUInt8]

/-- The message followed by its closing bytes. -/
def pad (message : ByteArray) : ByteArray :=
  let closing :=
    (0x80 : UInt8) :: (List.replicate (paddingZeros message.size) 0 ++ lengthBytes message.size)
  closing.foldl ByteArray.push message

/-- The state after a whole message. -/
def finalState (message : ByteArray) : State :=
  let padded := pad message
  absorbBlocks padded (padded.size / 64) 0 State.initial

/-- The thirty-two bytes of the digest. -/
def digest (message : ByteArray) : List UInt8 :=
  (finalState message).words.flatMap bigEndianBytes

theorem length_digest (message : ByteArray) : (digest message).length = 32 := by
  simp [digest, State.words, bigEndianBytes]

end ContentVault.Digest.Sha256
