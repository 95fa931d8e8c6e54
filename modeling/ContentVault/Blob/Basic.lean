import ContentVault.Blob.Error
import ContentVault.Calendar

/-!
# Blobs and streams of chunks

* a `BlobStat` describes a blob without its bytes;
* a stream is the list of its items: chunks of bytes, or the error that ends it;
* reading a whole blob joins the chunks and fails with the first error.
-/

namespace ContentVault

/-- What a store tells about a blob without reading it. -/
structure BlobStat where
  path : List UInt8
  size : Nat
  contentType : Option String
  /-- When the blob was stored, where the store keeps that. -/
  modified : Option Timestamp

/-- The items that a reader yields in order. -/
abbrev BlobStream := List (Except BlobError ByteArray)

/-- The size of all chunks but the last. -/
def chunkSize : Nat := 4096

/-- Cut bytes into chunks, given how many are needed from a position on. -/
def chunksFrom (content : ByteArray) : Nat → Nat → List ByteArray
  | 0, _ => []
  | remaining + 1, start =>
      content.extract start (start + chunkSize) ::
        chunksFrom content remaining (start + chunkSize)

/-- The chunks of a blob; an empty blob has none. -/
def chunksOf (content : ByteArray) : List ByteArray :=
  chunksFrom content ((content.size + (chunkSize - 1)) / chunkSize) 0

/-- Join the chunks of a stream behind what was read before. -/
def joinStream (before : ByteArray) : BlobStream → Except BlobError ByteArray
  | [] => .ok before
  | .ok chunk :: rest => joinStream (before ++ chunk) rest
  | .error failure :: _ => .error failure

end ContentVault
