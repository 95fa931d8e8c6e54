import ContentVault.Blob.Bucket
import ContentVault.Blob.Directory
import ContentVault.Blob.Memory

/-!
# Blob stores

One interface over the three places where blobs are kept.

* every operation takes a path, gives an answer and the store after it;
* whether a blob exists is asked by describing it: absence is an answer, and any
  other failure stays a failure.
-/

namespace ContentVault

/-- Where blobs are kept. -/
inductive BlobStore where
  | memory (store : MemoryStore)
  | directory (store : DirectoryStore)
  | bucket (store : BucketStore)

namespace BlobStore

/-- Milliseconds that each operation waits before it does anything. -/
def latency : BlobStore → Nat
  | .memory store => store.latency
  | .directory _ | .bucket _ => 0

/-- Describe a blob. -/
def stat (store : BlobStore) (path : List UInt8) (now : Timestamp) :
    Except BlobError BlobStat × BlobStore :=
  match store with
  | .memory blobs => (blobs.stat path, store)
  | .directory files => (files.stat path, store)
  | .bucket remote =>
      let (answer, after) := remote.stat path now
      (answer, .bucket after)

/-- Whether a blob exists. -/
def holds (store : BlobStore) (path : List UInt8) (now : Timestamp) :
    Except BlobError Bool × BlobStore :=
  match store.stat path now with
  | (.ok _, after) => (.ok true, after)
  | (.error failure, after) =>
      if failure.isNotFound then (.ok false, after) else (.error failure, after)

/-- Open a blob for reading. -/
def reader (store : BlobStore) (path : List UInt8) :
    Except BlobError BlobStream × BlobStore :=
  match store with
  | .memory blobs => (blobs.reader path, store)
  | .directory files => (files.reader path, store)
  | .bucket remote =>
      let (answer, after) := remote.reader path
      (answer, .bucket after)

/-- Read a whole blob. -/
def read (store : BlobStore) (path : List UInt8) :
    Except BlobError ByteArray × BlobStore :=
  let (stream, after) := store.reader path
  (stream.bind (joinStream ByteArray.empty), after)

/-- Store a blob, in the place of an older one. -/
def write
    (store : BlobStore) (path : List UInt8) (content : ByteArray)
    (contentType : Option String) (now : Timestamp) :
    Except BlobError Unit × BlobStore :=
  match store with
  | .memory blobs =>
      match blobs.write path content contentType now with
      | .ok after => (.ok (), .memory after)
      | .error failure => (.error failure, store)
  | .directory files =>
      let (answer, after) := files.write path content
      (answer, .directory after)
  | .bucket remote =>
      let (answer, after) := remote.write path content contentType now
      (answer, .bucket after)

/-- Delete a blob. -/
def delete (store : BlobStore) (path : List UInt8) :
    Except BlobError Unit × BlobStore :=
  match store with
  | .memory blobs =>
      match blobs.delete path with
      | .ok after => (.ok (), .memory after)
      | .error failure => (.error failure, store)
  | .directory files =>
      match files.delete path with
      | .ok after => (.ok (), .directory after)
      | .error failure => (.error failure, store)
  | .bucket remote =>
      let (answer, after) := remote.delete path
      (answer, .bucket after)

end BlobStore

end ContentVault
