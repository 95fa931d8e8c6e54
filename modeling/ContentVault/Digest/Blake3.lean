import ContentVault.Digest.Words

/-!
# BLAKE3

Tag identifiers are taken from the BLAKE3 digest of the tag's name.

* a message is cut into chunks of 1024 bytes, a chunk into blocks of 64 bytes;
* the chaining values of the chunks are joined pairwise, an odd last one is
  carried up unchanged, until one parent is left;
* the last compression carries the root flag, and its first eight words are the
  digest.
-/

namespace ContentVault.Digest.Blake3

/-- Eight words that stand for a chunk or a subtree. -/
abbrev Chaining := Vector UInt32 8

/-- The sixteen words of a block or of the working state. -/
abbrev Block := Vector UInt32 16

/-- The chaining value that every chunk and every parent starts from. -/
def initialChaining : Chaining :=
  #v[0x6a09e667, 0xbb67ae85, 0x3c6ef372, 0xa54ff53a,
     0x510e527f, 0x9b05688c, 0x1f83d9ab, 0x5be0cd19]

/-- Marks the first block of a chunk. -/
def chunkStart : UInt32 := 1

/-- Marks the last block of a chunk. -/
def chunkEnd : UInt32 := 2

/-- Marks a block that joins two subtrees. -/
def parent : UInt32 := 4

/-- Marks the last compression of a message. -/
def root : UInt32 := 8

/-- Mix two message words into a column or diagonal of the state. -/
def quarterRound (state : Block) (i j k l : Fin 16) (x y : UInt32) : Block :=
  let a := state[i] + state[j] + x
  let d := rotateRight (state[l] ^^^ a) 16
  let c := state[k] + d
  let b := rotateRight (state[j] ^^^ c) 12
  let a := a + b + y
  let d := rotateRight (d ^^^ a) 8
  let c := c + d
  let b := rotateRight (b ^^^ c) 7
  (((state.set i a).set j b).set k c).set l d

/-- One round: the four columns, then the four diagonals. -/
def mixRound (state words : Block) : Block :=
  let state := quarterRound state 0 4 8 12 words[0] words[1]
  let state := quarterRound state 1 5 9 13 words[2] words[3]
  let state := quarterRound state 2 6 10 14 words[4] words[5]
  let state := quarterRound state 3 7 11 15 words[6] words[7]
  let state := quarterRound state 0 5 10 15 words[8] words[9]
  let state := quarterRound state 1 6 11 12 words[10] words[11]
  let state := quarterRound state 2 7 8 13 words[12] words[13]
  quarterRound state 3 4 9 14 words[14] words[15]

/-- Reorder the message words between two rounds. -/
def permuteWords (words : Block) : Block :=
  #v[words[2], words[6], words[3], words[10], words[7], words[0], words[4], words[13],
     words[1], words[11], words[12], words[5], words[9], words[14], words[15], words[8]]

/-- A number of rounds with the words reordered between them. -/
def mixRounds : Nat → Block → Block → Block
  | 0, state, _ => state
  | remaining + 1, state, words =>
      mixRounds remaining (mixRound state words) (permuteWords words)

/-- Compress one block under a chaining value to the next chaining value. -/
def compress
    (chaining : Chaining) (words : Block) (counter : Nat)
    (blockLength flags : UInt32) : Chaining :=
  let state : Block :=
    #v[chaining[0], chaining[1], chaining[2], chaining[3],
       chaining[4], chaining[5], chaining[6], chaining[7],
       0x6a09e667, 0xbb67ae85, 0x3c6ef372, 0xa54ff53a,
       counter.toUInt32, (counter >>> 32).toUInt32, blockLength, flags]
  let mixed := mixRounds 7 state words
  Vector.ofFn fun position : Fin 8 =>
    mixed[position.val] ^^^ mixed[position.val + 8]

/-- The words of the block at a position, zeros past the end. -/
def blockWords (message : ByteArray) (start : Nat) : Block :=
  Vector.ofFn fun position : Fin 16 =>
    littleEndianWord message (start + 4 * position.val)

/-- Absorb the blocks of one chunk; `closing` is added to the flags of the last
block. -/
def chunkBlocks
    (chunk : ByteArray) (counter : Nat) (closing : UInt32) :
    Nat → Nat → Chaining → Chaining
  | 0, _, chaining => chaining
  | remaining + 1, start, chaining =>
      let opening := if start = 0 then chunkStart else 0
      let ending := if remaining = 0 then chunkEnd ||| closing else 0
      let length := min 64 (chunk.size - start)
      let next :=
        compress chaining (blockWords chunk start) counter length.toUInt32
          (opening ||| ending)
      chunkBlocks chunk counter closing remaining (start + 64) next

/-- The chaining value of one chunk; an empty chunk has one empty block. -/
def chunkChaining (chunk : ByteArray) (counter : Nat) (closing : UInt32) : Chaining :=
  let blocks := max 1 ((chunk.size + 63) / 64)
  chunkBlocks chunk counter closing blocks 0 initialChaining

/-- Join two subtrees. -/
def parentChaining (left right : Chaining) (flags : UInt32) : Chaining :=
  compress initialChaining (left ++ right) 0 64 (parent ||| flags)

/-- Join neighbours and carry an odd last subtree up unchanged. -/
def joinNeighbours : List Chaining → List Chaining
  | left :: right :: rest => parentChaining left right 0 :: joinNeighbours rest
  | short => short

theorem length_joinNeighbours_le (subtrees : List Chaining) :
    (joinNeighbours subtrees).length ≤ subtrees.length := by
  fun_induction joinNeighbours subtrees with
  | case1 left right rest inductionHypothesis =>
      simp only [List.length_cons]
      omega
  | case2 short _ =>
      exact Nat.le_refl _

/-- The root over a first subtree, a second one and the rest. -/
def rootChaining (first second : Chaining) : List Chaining → Chaining
  | [] => parentChaining first second root
  | third :: rest =>
      match _joined : joinNeighbours (third :: rest) with
      | [] => parentChaining first second root
      | next :: others =>
          rootChaining (parentChaining first second 0) next others
  termination_by rest => rest.length
  decreasing_by
    have bound := length_joinNeighbours_le (third :: rest)
    rw [_joined] at bound
    simp only [List.length_cons] at bound ⊢
    omega

/-- The chunks of a message in order, each with at most 1024 bytes. -/
def chunks (message : ByteArray) : List ByteArray :=
  (List.range (max 1 ((message.size + 1023) / 1024))).map fun index =>
    message.extract (index * 1024) (index * 1024 + 1024)

/-- The thirty-two bytes of the digest. -/
def digest (message : ByteArray) : List UInt8 :=
  let chaining :=
    match chunks message with
    | [] => chunkChaining message 0 root
    | [only] => chunkChaining only 0 root
    | pieces =>
        match pieces.mapIdx fun counter piece => chunkChaining piece counter 0 with
        | first :: second :: rest => rootChaining first second rest
        | _ => chunkChaining message 0 root
  chaining.toList.flatMap littleEndianBytes

theorem length_digest (message : ByteArray) : (digest message).length = 32 := by
  simp only [digest]
  generalize (match chunks message with
    | [] => chunkChaining message 0 root
    | [only] => chunkChaining only 0 root
    | pieces =>
        match pieces.mapIdx fun counter piece => chunkChaining piece counter 0 with
        | first :: second :: rest => rootChaining first second rest
        | _ => chunkChaining message 0 root) = chaining
  have shape : ∀ words : List UInt32,
      (words.flatMap littleEndianBytes).length = 4 * words.length := by
    intro words
    induction words with
    | nil =>
        rfl
    | cons word rest inductionHypothesis =>
        simp only [List.flatMap_cons, List.length_append, inductionHypothesis,
          List.length_cons]
        simp only [littleEndianBytes, List.length_cons, List.length_nil]
        omega
  rw [shape, Vector.length_toList]

end ContentVault.Digest.Blake3
