import ContentVault.Blob.Basic

/-!
# Blobs in memory

A store that keeps its blobs in a table and can be told to misbehave.

* an operation waits for the store's latency, then fails if its kind was told to
  fail, and only then looks at its path;
* reads can be told to break off after a number of chunks.
-/

namespace ContentVault

/-- The kinds of operation that can be told to fail. -/
inductive BlobOperation where
  | stat
  | read
  | write
  | delete
  deriving DecidableEq, Repr

/-- The kind of operation with a name. -/
def BlobOperation.ofName? : String → Option BlobOperation
  | "stat" => some .stat
  | "read" => some .read
  | "write" => some .write
  | "delete" => some .delete
  | _ => none

/-- The name of a kind of operation in an error message. -/
def BlobOperation.name : BlobOperation → String
  | .stat => "Stat"
  | .read => "Read"
  | .write => "Write"
  | .delete => "Delete"

/-- A blob with what is recorded beside it. -/
structure StoredBlob where
  content : ByteArray
  contentType : Option String
  storedAt : Timestamp

/-- Blobs in memory and the ways in which the store misbehaves. -/
structure MemoryStore where
  blobs : Table (List PathName) StoredBlob
  /-- The kinds of operation that always fail. -/
  failing : List BlobOperation
  /-- Milliseconds that every operation waits before it does anything. -/
  latency : Nat
  /-- The number of chunks after which every read breaks off. -/
  interruptAfter : Option Nat

namespace MemoryStore

/-- The empty store that behaves well. -/
def empty : MemoryStore := ⟨[], [], 0, none⟩

/-- Fail if this kind of operation was told to. -/
def permit (store : MemoryStore) (operation : BlobOperation) : Except BlobError Unit :=
  if store.failing.contains operation then
    .error (.backend ("injected " ++ operation.name ++ " failure"))
  else
    .ok ()

/-- The blob under a key; its absence is reported with the normal form of the
path. -/
def require (store : MemoryStore) (names : List PathName) : Except BlobError StoredBlob :=
  match store.blobs.get? names with
  | some blob => .ok blob
  | none => .error (.notFound (Utf8.decodeBytesLossy (keyPath names)))

/-- Describe a blob. -/
def stat (store : MemoryStore) (path : List UInt8) : Except BlobError BlobStat := do
  store.permit .stat
  let names ← requireKey path
  let blob ← store.require names
  return {
    path := keyPath names
    size := blob.content.size
    contentType := blob.contentType
    modified := some blob.storedAt }

/-- The items of a read that may break off. -/
def streamOf (store : MemoryStore) (content : ByteArray) : BlobStream :=
  let chunks := (chunksOf content).map Except.ok
  match store.interruptAfter with
  | none => chunks
  | some count =>
      chunks.take count ++
        [.error (.backend ("injected interruption after " ++ toString count ++ " chunks"))]

/-- Open a blob for reading. -/
def reader (store : MemoryStore) (path : List UInt8) : Except BlobError BlobStream := do
  store.permit .read
  let names ← requireKey path
  let blob ← store.require names
  return store.streamOf blob.content

/-- Store a blob, in the place of an older one. -/
def write
    (store : MemoryStore) (path : List UInt8) (content : ByteArray)
    (contentType : Option String) (storedAt : Timestamp) :
    Except BlobError MemoryStore := do
  store.permit .write
  let names ← requireKey path
  return { store with blobs := store.blobs.put names ⟨content, contentType, storedAt⟩ }

/-- Delete a blob. -/
def delete (store : MemoryStore) (path : List UInt8) : Except BlobError MemoryStore := do
  store.permit .delete
  let names ← requireKey path
  let _ ← store.require names
  return { store with blobs := store.blobs.erase names }

/-- The store with these blobs, or the first path without a key. -/
def withBlobs? (storedAt : Timestamp) :
    List (List UInt8 × ByteArray) → MemoryStore → Except (List UInt8) MemoryStore
  | [], store => .ok store
  | (path, content) :: rest, store =>
      match blobKey? path with
      | none => .error path
      | some names =>
          withBlobs? storedAt rest
            { store with blobs := store.blobs.put names ⟨content, none, storedAt⟩ }

end MemoryStore

end ContentVault
