import ContentVault.Proofs.Blob.Chunks
import ContentVault.Proofs.Vault.Upload

/-!
# What a download streams

A download of a version whose blob is in memory.

* its data are the first bytes of the blob, in full chunks but for the last;
* at most one error follows, a failed read, and nothing follows that;
* a stream without an error has all bytes, and exactly then a read of the whole blob succeeds.
-/

namespace ContentVault

open World StoreRequest

namespace Vault

variable {conditions : Conditions} {before between : World} {store : MemoryStore}
  {blob : StoredBlob} {fileId path : String} {selector : Option Int} {resolved : Resolved}

/-- A stream of some bytes from a store that may break off, beside a read of all of them. -/
structure StreamsStart (content : ByteArray) (interruptAfter : Option Nat)
    (stream : List (Except VaultError ByteArray)) (whole : Except BlobError ByteArray) : Prop where
  ended : ∃ failures : List StoreFailure,
    failures.length ≤ 1 ∧
      stream = (dataItems stream).map Except.ok ++
        (failures.map VaultError.storageRead).map Except.error
  start : ∃ rest, joinChunks (dataItems stream) ++ rest = content
  nonempty : ∀ chunk ∈ dataItems stream, chunk.size ≠ 0
  full : ∀ chunk ∈ (dataItems stream).dropLast, chunk.size = chunkSize
  interrupted : ∀ count, interruptAfter = some count →
    joinChunks (dataItems stream) = content.extract 0 (count * chunkSize)
  unbroken_iff : IsUnbroken stream ↔ interruptAfter = none
  unbroken : IsUnbroken stream → joinChunks (dataItems stream) = content ∧ whole = .ok content
  broken : ¬IsUnbroken stream → ∃ failure, whole = .error failure

/-- A download hands on the chunks, and the first error as a failed read. -/
theorem downloadStream_append (chunks : List ByteArray) (failures : List BlobError)
    (atMostOne : failures.length ≤ 1) :
    downloadStream (chunks.map Except.ok ++ failures.map Except.error) =
      chunks.map Except.ok ++
        ((failures.map StoreFailure.blob).map VaultError.storageRead).map Except.error := by
  induction chunks with
  | nil =>
      cases failures with
      | nil => rfl
      | cons failure rest =>
          have nothing : rest = [] := List.length_eq_zero_iff.1 (by simpa using atMostOne)
          rw [nothing]
          rfl
  | cons chunk rest inductionHypothesis =>
      rw [List.map_cons, List.cons_append, downloadStream, inductionHypothesis]
      rfl

theorem streamsStart_of_found (permitted : .read ∉ store.failing)
    (found : store.blobAt? path = some blob) :
    StreamsStart blob.content store.interruptAfter (downloadStream (store.streamOf blob.content))
      ((BlobStore.memory store).read (Utf8.encode path)).1 := by
  let chunks := MemoryStore.chunksBefore store.interruptAfter blob.content
  let failures := (MemoryStore.interruption store.interruptAfter).map StoreFailure.blob
  have atMostOne : (MemoryStore.interruption store.interruptAfter).length ≤ 1 := by
    unfold MemoryStore.interruption
    cases store.interruptAfter <;> simp
  have stream : downloadStream (store.streamOf blob.content) =
      chunks.map Except.ok ++ (failures.map VaultError.storageRead).map Except.error := by
    rw [MemoryStore.streamOf_eq]
    exact downloadStream_append _ _ atMostOne
  have data : dataItems (downloadStream (store.streamOf blob.content)) = chunks := by
    rw [stream, dataItems_append]
  have unbroken : IsUnbroken (downloadStream (store.streamOf blob.content)) ↔
      store.interruptAfter = none := by
    rw [stream, isUnbroken_append, List.map_eq_nil_iff, List.map_eq_nil_iff]
    exact MemoryStore.interruption_eq_nil
  obtain ⟨count, first⟩ := MemoryStore.exists_chunksBefore store.interruptAfter blob.content
  have isFirst : chunks = (chunksOf blob.content).take count := first
  have read := MemoryStore.read_of_blobAt permitted found
  constructor
  · rw [data]
    exact ⟨failures, by rw [List.length_map]; exact atMostOne, stream⟩
  · rw [data, isFirst, joinChunks_take]
    refine
      ⟨blob.content.extract (count * chunkSize) (max (count * chunkSize) blob.content.size), ?_⟩
    rw [← ByteArray.extract_eq_extract_append_extract (count * chunkSize) (Nat.zero_le _)
      (Nat.le_max_left _ _)]
    exact ByteArray.extract_zero_max_size
  · rw [data, isFirst]
    exact (sizes_take blob.content count).1
  · rw [data, isFirst]
    exact (sizes_take blob.content count).2
  · intro count interrupted
    have taken : chunks = (chunksOf blob.content).take count := by
      change MemoryStore.chunksBefore store.interruptAfter blob.content = _
      rw [interrupted]
      rfl
    rw [data, taken, joinChunks_take]
  · exact unbroken
  · intro isUnbroken
    have whole := unbroken.1 isUnbroken
    have all : chunks = chunksOf blob.content := by
      change MemoryStore.chunksBefore store.interruptAfter blob.content = _
      rw [whole]
      rfl
    rw [whole] at read
    rw [data, all]
    exact ⟨joinChunks_chunksOf blob.content, read⟩
  · intro broken
    rcases interruptAfter : store.interruptAfter with _ | count
    · exact absurd (unbroken.2 interruptAfter) broken
    · rw [interruptAfter] at read
      exact ⟨_, read⟩

/-- A download opens the blob of the version that its selector resolves to. -/
theorem download_of_resolveIn {file : FileRecord} {looked : World}
    (live : liveFile fileId conditions before = (.ok file, looked))
    (resolves : resolveIn file selector conditions looked = (.ok resolved, between)) :
    (download fileId selector conditions before).1 =
      (bounded .storageRead (openBlob resolved.path) conditions between).1.map fun stream =>
        ⟨file.fileName, resolved.contentType, resolved.size, resolved.version,
          downloadStream stream⟩ := by
  rw [download, VaultAction.bind_apply, live]
  dsimp only
  rw [VaultAction.bind_apply, resolves]
  dsimp only
  rw [VaultAction.bind_apply]
  rcases bounded .storageRead (openBlob resolved.path) conditions between with
    ⟨failure | stream, after⟩
  · rfl
  · rfl

/-- A blob that is in memory is opened if reads do not fail and there is time. -/
theorem openBlob_of_blobAt (kept : between.blobs = .memory store)
    (found : store.blobAt? path = some blob) :
    (bounded .storageRead (openBlob path) conditions between).1 =
      if store.latency ≤ timeLimit conditions between then
        if .read ∈ store.failing then
          .error (.storageRead (.blob (.backend "injected Read failure")))
        else
          .ok (store.streamOf blob.content)
      else
        .error (.storageRead .timedOut) := by
  have latency : between.blobs.latency = store.latency := by
    rw [kept]
    rfl
  by_cases inTime : store.latency ≤ timeLimit conditions between
  · obtain ⟨_, _, outcome⟩ := toBlobs_of_inTime conditions .read path
      (fun bytes _ blobs => blobs.reader bytes) (latency.symm ▸ inTime)
    unfold bounded openBlob
    rw [outcome, kept, if_pos inTime]
    dsimp only [BlobStore.reader]
    by_cases failing : .read ∈ store.failing
    · rw [if_pos failing, MemoryStore.reader_of_failing failing]
      rfl
    · rw [if_neg failing, MemoryStore.reader_of_blobAt failing found]
      rfl
  · obtain ⟨_, _, outcome⟩ := toBlobs_of_tooLate conditions .read path
      (fun bytes _ blobs => blobs.reader bytes) (latency.symm ▸ inTime)
    unfold bounded openBlob
    rw [outcome, if_neg inTime]
    rfl

/-- Whatever happens on the way to the version that is asked for: its blob is opened if and only
if the store can be read in time, and then it is streamed from its start, with an error at the
end of what is not the whole of it. -/
theorem download_streams_start (fileId : String) (selector : Option Int) (conditions : Conditions)
    (before between : World) (store : MemoryStore) (resolved : Resolved) (blob : StoredBlob)
    (kept : before.blobs = .memory store)
    (resolves : resolve fileId selector conditions before = (.ok resolved, between))
    (found : store.blobAt? resolved.path = some blob) :
    ((∃ opened, (download fileId selector conditions before).1 = .ok opened) ↔
        store.latency ≤ timeLimit conditions between ∧ .read ∉ store.failing) ∧
      ∀ opened, (download fileId selector conditions before).1 = .ok opened →
        StreamsStart blob.content store.interruptAfter opened.stream
          ((BlobStore.memory store).read (Utf8.encode resolved.path)).1 := by
  have onlyRead := within_resolve (onlyRead_allowsLookups conditions).queries fileId selector before
  rw [resolves] at onlyRead
  rw [resolve, VaultAction.bind_eq_ok] at resolves
  obtain ⟨file, looked, live, resolvesIn⟩ := resolves
  rw [download_of_resolveIn live resolvesIn, openBlob_of_blobAt (onlyRead.blobs kept) found]
  by_cases inTime : store.latency ≤ timeLimit conditions between
  · rw [if_pos inTime]
    by_cases failing : .read ∈ store.failing
    · rw [if_pos failing]
      exact ⟨⟨nofun, fun able => absurd failing able.2⟩, nofun⟩
    · rw [if_neg failing]
      refine ⟨⟨fun _ => ⟨inTime, failing⟩, fun _ => ⟨_, rfl⟩⟩, ?_⟩
      intro opened isOpened
      cases isOpened
      exact streamsStart_of_found failing found
  · rw [if_neg inTime]
    exact ⟨⟨nofun, fun able => absurd able.1 inTime⟩, nofun⟩

/-- A vault with a short text, of which every read breaks off behind the only chunk. -/
def interruptedVault : World :=
  (upload firstUpload (conditionsWith noFaults)
    (emptyVault { MemoryStore.empty with interruptAfter := some 1 })).2

/-- Whether a version is found in memory, in a store that breaks off behind its first chunk. -/
def isInterrupted : BlobStore → Except VaultError Resolved → Bool
  | .memory store, .ok resolved =>
      (store.blobAt? resolved.path).isSome && store.interruptAfter == some 1 &&
        decide (.read ∉ store.failing ∧ store.latency = 0)
  | _, _ => false

/-- All bytes of the short text arrive, but not as a whole. -/
theorem short_text_is_streamed_with_error :
    ∃ store resolved between blob opened,
      interruptedVault.blobs = .memory store ∧
        resolve (fileIdOf firstUpload.payload) none (conditionsWith noFaults) interruptedVault =
          (.ok resolved, between) ∧
        store.blobAt? resolved.path = some blob ∧
        (download (fileIdOf firstUpload.payload) none (conditionsWith noFaults)
          interruptedVault).1 = .ok opened ∧
        StreamsStart blob.content (some 1) opened.stream
          ((BlobStore.memory store).read (Utf8.encode resolved.path)).1 ∧
        ¬IsUnbroken opened.stream := by
  have interrupted : isInterrupted interruptedVault.blobs
      (resolve (fileIdOf firstUpload.payload) none (conditionsWith noFaults)
        interruptedVault).1 = true := by
    decide +kernel
  rcases kept : interruptedVault.blobs with store | directory | bucket
  · rcases resolves : resolve (fileIdOf firstUpload.payload) none (conditionsWith noFaults)
      interruptedVault with ⟨failure | resolved, between⟩
    · rw [kept, resolves] at interrupted
      cases interrupted
    · rw [kept, resolves] at interrupted
      simp only [isInterrupted, Bool.and_eq_true, beq_iff_eq, decide_eq_true_eq] at interrupted
      obtain ⟨⟨isFound, breaksOff⟩, able, latency⟩ := interrupted
      obtain ⟨blob, found⟩ := Option.isSome_iff_exists.1 isFound
      obtain ⟨opens, streams⟩ := download_streams_start (fileIdOf firstUpload.payload) none
        (conditionsWith noFaults) interruptedVault between store resolved blob kept resolves found
      obtain ⟨opened, isOpened⟩ := opens.2 ⟨latency ▸ Nat.zero_le _, able⟩
      have told := streams opened isOpened
      rw [breaksOff] at told
      refine ⟨store, resolved, between, blob, opened, rfl, rfl, found, isOpened, told, ?_⟩
      rw [told.unbroken_iff]
      exact Option.some_ne_none 1
  · rw [kept] at interrupted
    cases interrupted
  · rw [kept] at interrupted
    cases interrupted

end Vault

end ContentVault
