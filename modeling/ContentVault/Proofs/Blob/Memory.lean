import ContentVault.Blob.Memory
import Mathlib.Algebra.GroupWithZero.Nat

/-!
# Blobs in memory and their paths

* a blob is found under every path that spells its key;
* writing a blob where there was none and deleting it again leaves the store as it
  was;
* writing and deleting touch no other blob;
* the chunks of a read that does not break off hold as many bytes as the blob.
-/

namespace ContentVault

namespace Table

variable {κ ν : Type} [DecidableEq κ] {table : Table κ ν} {key : κ}

theorem put_of_absent (absent : table.get? key = none) (value : ν) :
    table.put key value = table ++ [(key, value)] := by
  induction table with
  | nil =>
      rfl
  | cons entry rest inductionHypothesis =>
      obtain ⟨first, old⟩ := entry
      by_cases same : first = key
      · simp [get?, same] at absent
      · rw [get?, if_neg same] at absent
        rw [put, if_neg same, inductionHypothesis absent]
        rfl

theorem erase_of_absent (absent : table.get? key = none) : table.erase key = table := by
  induction table with
  | nil =>
      rfl
  | cons entry rest inductionHypothesis =>
      obtain ⟨first, old⟩ := entry
      by_cases same : first = key
      · simp [get?, same] at absent
      · rw [get?, if_neg same] at absent
        have kept := inductionHypothesis absent
        rw [erase] at kept ⊢
        rw [List.filter_cons_of_pos (by simpa using same), kept]

theorem erase_append_self (absent : table.get? key = none) (value : ν) :
    (table ++ [(key, value)]).erase key = table := by
  have kept := erase_of_absent absent
  rw [erase] at kept ⊢
  rw [List.filter_append, kept]
  simp

end Table

namespace MemoryStore

/-- The blob that a path leads to. -/
def blobAt? (store : MemoryStore) (path : String) : Option StoredBlob :=
  (blobKey? (Utf8.encode path)).bind store.blobs.get?

/-- The store with a blob under a key. -/
def withBlob (store : MemoryStore) (names : List PathName) (blob : StoredBlob) :
    MemoryStore :=
  { store with blobs := store.blobs.put names blob }

/-- The store without the blob under a key. -/
def withoutBlob (store : MemoryStore) (names : List PathName) : MemoryStore :=
  { store with blobs := store.blobs.erase names }

/-- Taking back a blob that was put where there was none. -/
theorem withoutBlob_withBlob {store : MemoryStore} {names : List PathName}
    (absent : store.blobs.get? names = none) (blob : StoredBlob) :
    (store.withBlob names blob).withoutBlob names = store := by
  simp only [withBlob, withoutBlob, Table.put_of_absent absent, Table.erase_append_self absent]

section Keyed

variable {store after : MemoryStore} {path : List UInt8} {names : List PathName}

/-- A store that says that a blob is absent has no such blob. -/
theorem absent_of_stat {failure : BlobError}
    (keyed : blobKey? path = some names)
    (failed : store.stat path = .error failure) (notFound : failure.isNotFound = true) :
    store.blobs.get? names = none := by
  unfold stat permit requireKey at failed
  rw [keyed] at failed
  split at failed
  · cases failed
    cases notFound
  · simp only [bind, Except.bind, require] at failed
    rcases found : store.blobs.get? names with _ | blob
    · rfl
    · rw [found] at failed
      cases failed

theorem write_eq_ok {content : ByteArray} {contentType : Option String}
    {storedAt : Timestamp} (keyed : blobKey? path = some names) :
    store.write path content contentType storedAt = .ok after ↔
      .write ∉ store.failing ∧
        after = store.withBlob names ⟨content, contentType, storedAt⟩ := by
  unfold write permit requireKey
  rw [keyed]
  split
  · rename_i refused
    simp only [List.contains_iff_mem] at refused
    simp [refused, bind, Except.bind]
  · rename_i allowed
    simp only [List.contains_iff_mem] at allowed
    simp [allowed, bind, Except.bind, pure, Except.pure, withBlob, eq_comm]

theorem delete_eq_ok (keyed : blobKey? path = some names) :
    store.delete path = .ok after ↔
      .delete ∉ store.failing ∧ store.blobs.get? names ≠ none ∧
        after = store.withoutBlob names := by
  unfold delete permit requireKey require
  rw [keyed]
  split
  · rename_i refused
    simp only [List.contains_iff_mem] at refused
    simp [refused, bind, Except.bind]
  · rename_i allowed
    simp only [List.contains_iff_mem] at allowed
    simp only [bind, Except.bind]
    rcases found : store.blobs.get? names with _ | blob
    · simp
    · simp [allowed, pure, Except.pure, withoutBlob, eq_comm]

end Keyed

end MemoryStore

/-! ## Chunks -/

theorem sum_sizes_chunksFrom (content : ByteArray) (remaining start : Nat) :
    ((chunksFrom content remaining start).map ByteArray.size).sum =
      min (content.size - start) (remaining * chunkSize) := by
  induction remaining generalizing start with
  | zero =>
      simp [chunksFrom]
  | succ remaining inductionHypothesis =>
      rw [chunksFrom, List.map_cons, List.sum_cons, inductionHypothesis, ByteArray.size_extract,
        Nat.add_mul, Nat.one_mul]
      omega

/-- All bytes of a blob are in its chunks. -/
theorem sum_sizes_chunksOf (content : ByteArray) :
    ((chunksOf content).map ByteArray.size).sum = content.size := by
  rw [chunksOf, sum_sizes_chunksFrom, chunkSize]
  omega

namespace MemoryStore

variable {store : MemoryStore} {path : String} {blob : StoredBlob}

/-- A store that may read hands out the stream of a blob that it has. -/
theorem reader_of_blobAt (permitted : .read ∉ store.failing)
    (found : store.blobAt? path = some blob) :
    store.reader (Utf8.encode path) = .ok (store.streamOf blob.content) := by
  obtain ⟨names, keyed, isBlob⟩ := Option.bind_eq_some_iff.1 found
  unfold reader permit requireKey require
  rw [keyed, if_neg (by simpa using permitted)]
  simp only [bind, Except.bind, isBlob]
  rfl

theorem reader_of_failing (failing : .read ∈ store.failing) (path : List UInt8) :
    store.reader path = .error (.backend "injected Read failure") := by
  unfold reader permit
  rw [if_pos (by simpa using failing)]
  rfl

/-- A store that does not misbehave hands out the chunks of a blob that it has. -/
theorem reader_of_found (permitted : .read ∉ store.failing)
    (whole : store.interruptAfter = none) (found : store.blobAt? path = some blob) :
    store.reader (Utf8.encode path) = .ok ((chunksOf blob.content).map Except.ok) := by
  rw [reader_of_blobAt permitted found, streamOf, whole]

end MemoryStore

end ContentVault
