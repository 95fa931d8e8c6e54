import ContentVault.Blob.Store
import ContentVault.Proofs.Blob.Memory

/-!
# Streams of chunks

* the first chunks of a blob hold its first bytes, and all of them the whole blob;
* no chunk is empty, and all but the last are full;
* a whole read joins the chunks of a stream, and fails if the stream does.
-/

namespace ContentVault

/-- The bytes of some chunks, one after another. -/
def joinChunks : List ByteArray → ByteArray
  | [] => ByteArray.empty
  | chunk :: rest => chunk ++ joinChunks rest

section Chunks

variable {content chunk : ByteArray} {remaining start : Nat}

theorem joinChunks_chunksFrom (content : ByteArray) (remaining start : Nat) :
    joinChunks (chunksFrom content remaining start) =
      content.extract start (start + remaining * chunkSize) := by
  induction remaining generalizing start with
  | zero =>
      rw [Nat.zero_mul, Nat.add_zero, ByteArray.extract_same]
      rfl
  | succ remaining inductionHypothesis =>
      have between := ByteArray.extract_eq_extract_append_extract (a := content)
        (start + chunkSize) (Nat.le_add_right start chunkSize)
        (Nat.le_add_right _ (remaining * chunkSize))
      rw [chunksFrom, joinChunks, inductionHypothesis, ← between, Nat.succ_mul]
      congr 1
      omega

theorem take_chunksFrom (content : ByteArray) (count remaining start : Nat) :
    (chunksFrom content remaining start).take count =
      chunksFrom content (min count remaining) start := by
  induction remaining generalizing count start with
  | zero => simp [chunksFrom]
  | succ remaining inductionHypothesis =>
      cases count with
      | zero => simp [chunksFrom]
      | succ count =>
          rw [Nat.succ_min_succ, chunksFrom, chunksFrom, List.take_succ_cons, inductionHypothesis]

/-- Chunks that all begin inside the bytes are not empty, and the last alone may be short. -/
theorem sizes_chunksFrom (inside : start + remaining * chunkSize < content.size + chunkSize) :
    (∀ chunk ∈ chunksFrom content remaining start, chunk.size ≠ 0) ∧
      ∀ chunk ∈ (chunksFrom content remaining start).dropLast, chunk.size = chunkSize := by
  induction remaining generalizing start with
  | zero => simp [chunksFrom]
  | succ remaining inductionHypothesis =>
      rw [Nat.succ_mul] at inside
      have later : start + chunkSize + remaining * chunkSize < content.size + chunkSize := by
        omega
      obtain ⟨nonempty, full⟩ := inductionHypothesis later
      have size : (content.extract start (start + chunkSize)).size =
          min (start + chunkSize) content.size - start := ByteArray.size_extract
      constructor
      · intro chunk member
        rcases List.mem_cons.1 member with rfl | later
        · rw [size, chunkSize]
          rw [chunkSize] at inside
          omega
        · exact nonempty chunk later
      · intro chunk member
        cases remaining with
        | zero => simp [chunksFrom] at member
        | succ remaining =>
            rw [chunksFrom, List.dropLast_cons_of_ne_nil (by simp [chunksFrom])] at member
            rcases List.mem_cons.1 member with rfl | later
            · rw [size]
              rw [Nat.succ_mul] at inside
              omega
            · exact full chunk later

/-- The number of chunks that a blob has. -/
def chunkCount (content : ByteArray) : Nat :=
  (content.size + (chunkSize - 1)) / chunkSize

theorem chunkCount_bounds (content : ByteArray) :
    content.size ≤ chunkCount content * chunkSize ∧
      chunkCount content * chunkSize < content.size + chunkSize := by
  unfold chunkCount chunkSize
  omega

theorem extract_of_size_le {last : Nat} (beyond : content.size ≤ last) :
    content.extract 0 last = content := by
  rw [← Nat.max_eq_left beyond]
  exact ByteArray.extract_zero_max_size

theorem joinChunks_chunksOf (content : ByteArray) : joinChunks (chunksOf content) = content := by
  rw [chunksOf, joinChunks_chunksFrom, Nat.zero_add]
  exact extract_of_size_le (chunkCount_bounds content).1

/-- The first chunks of a blob hold its first bytes. -/
theorem joinChunks_take (content : ByteArray) (count : Nat) :
    joinChunks ((chunksOf content).take count) = content.extract 0 (count * chunkSize) := by
  rw [chunksOf, take_chunksFrom, joinChunks_chunksFrom, Nat.zero_add]
  rcases Nat.le_total count (chunkCount content) with within | beyond
  · rw [← chunkCount, Nat.min_eq_left within]
  · have enough := (chunkCount_bounds content).1
    have more := Nat.mul_le_mul_right chunkSize beyond
    rw [← chunkCount, Nat.min_eq_right beyond, extract_of_size_le enough,
      extract_of_size_le (Nat.le_trans enough more)]

/-- The first chunks of a blob are not empty, and the last of them alone may be short. -/
theorem sizes_take (content : ByteArray) (count : Nat) :
    (∀ chunk ∈ (chunksOf content).take count, chunk.size ≠ 0) ∧
      ∀ chunk ∈ ((chunksOf content).take count).dropLast, chunk.size = chunkSize := by
  rw [chunksOf, take_chunksFrom]
  refine sizes_chunksFrom ?_
  have notBeyond := (chunkCount_bounds content).2
  have fewer := Nat.mul_le_mul_right chunkSize (Nat.min_le_right count (chunkCount content))
  rw [← chunkCount]
  omega

end Chunks

/-! ## Streams -/

section Streams

variable {ε : Type}

/-- The chunks that a stream hands out. -/
def dataItems (stream : List (Except ε ByteArray)) : List ByteArray :=
  stream.filterMap Except.toOption

theorem dataItems_append (chunks : List ByteArray) (failures : List ε) :
    dataItems (chunks.map Except.ok ++ failures.map Except.error) = chunks := by
  unfold dataItems
  rw [List.filterMap_append, List.filterMap_map, List.filterMap_map]
  have kept : chunks.filterMap (Except.toOption ∘ Except.ok (ε := ε)) = chunks :=
    List.filterMap_some
  have dropped : failures.filterMap (Except.toOption ∘ Except.error (α := ByteArray)) = [] :=
    List.filterMap_eq_nil_iff.2 fun _ _ => rfl
  rw [kept, dropped, List.append_nil]

/-- A stream without an error item. -/
def IsUnbroken (stream : List (Except ε ByteArray)) : Prop :=
  ∀ item ∈ stream, item.isOk = true

theorem isUnbroken_append (chunks : List ByteArray) (failures : List ε) :
    IsUnbroken (chunks.map Except.ok ++ failures.map Except.error) ↔ failures = [] := by
  unfold IsUnbroken
  cases failures with
  | nil => simp [Except.isOk, Except.toBool]
  | cons failure rest =>
      refine iff_of_false (fun unbroken => ?_) (List.cons_ne_nil failure rest)
      exact Bool.false_ne_true (unbroken (.error failure) (by simp))

theorem joinStream_append (before : ByteArray) (chunks : List ByteArray) (rest : BlobStream) :
    joinStream before (chunks.map Except.ok ++ rest) =
      joinStream (before ++ joinChunks chunks) rest := by
  induction chunks generalizing before with
  | nil => rw [joinChunks, ByteArray.append_empty, List.map_nil, List.nil_append]
  | cons chunk chunks inductionHypothesis =>
      rw [joinChunks, ← ByteArray.append_assoc, List.map_cons, List.cons_append, joinStream,
        inductionHypothesis]

/-- What a blob is read as chunk by chunk is the blob. -/
theorem joinStream_chunksOf (content : ByteArray) :
    joinStream ByteArray.empty ((chunksOf content).map Except.ok) = .ok content := by
  have joined := joinStream_append ByteArray.empty (chunksOf content) []
  rw [List.append_nil, joinChunks_chunksOf, ByteArray.empty_append] at joined
  exact joined

end Streams

/-! ## Reads that break off -/

namespace MemoryStore

/-- The chunks that a store hands out before it breaks off, if it does. -/
def chunksBefore (interruptAfter : Option Nat) (content : ByteArray) : List ByteArray :=
  match interruptAfter with
  | none => chunksOf content
  | some count => (chunksOf content).take count

/-- The error with which a store breaks off. -/
def interruption (interruptAfter : Option Nat) : List BlobError :=
  interruptAfter.toList.map fun count =>
    .backend ("injected interruption after " ++ toString count ++ " chunks")

theorem streamOf_eq (store : MemoryStore) (content : ByteArray) :
    store.streamOf content =
      (chunksBefore store.interruptAfter content).map Except.ok ++
        (interruption store.interruptAfter).map Except.error := by
  unfold streamOf chunksBefore interruption
  rcases store.interruptAfter with _ | count
  · simp
  · simp

theorem interruption_eq_nil {interruptAfter : Option Nat} :
    interruption interruptAfter = [] ↔ interruptAfter = none := by
  cases interruptAfter <;> simp [interruption]

theorem exists_chunksBefore (interruptAfter : Option Nat) (content : ByteArray) :
    ∃ count, chunksBefore interruptAfter content = (chunksOf content).take count := by
  cases interruptAfter with
  | none => exact ⟨(chunksOf content).length, List.take_length.symm⟩
  | some count => exact ⟨count, rfl⟩

/-- A whole read of a blob succeeds if and only if nothing is to break it off. -/
theorem read_of_blobAt {store : MemoryStore} {path : String} {blob : StoredBlob}
    (permitted : .read ∉ store.failing) (found : store.blobAt? path = some blob) :
    ((BlobStore.memory store).read (Utf8.encode path)).1 =
      match interruption store.interruptAfter with
      | [] => .ok blob.content
      | failure :: _ => .error failure := by
  change (store.reader (Utf8.encode path)).bind (joinStream ByteArray.empty) = _
  rw [reader_of_blobAt permitted found, streamOf_eq]
  change joinStream _ _ = _
  rw [joinStream_append]
  rcases store.interruptAfter with _ | count
  · change Except.ok (ByteArray.empty ++ joinChunks (chunksOf blob.content)) = _
    rw [joinChunks_chunksOf, ByteArray.empty_append]
    rfl
  · rfl

end MemoryStore

end ContentVault
