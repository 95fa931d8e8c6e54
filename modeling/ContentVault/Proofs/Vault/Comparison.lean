import ContentVault.Proofs.Vault.LineChanges
import ContentVault.Proofs.Vault.Reads

/-!
# Comparing versions

A comparison of two versions tells what reading both of their blobs tells, although it reads
them only where it must.

* reading a blob changes no answer of a later read, whichever store keeps the blobs;
* versions under one path have the same bytes, and versions of different sizes have not;
* a comparison the other way round tells the same with its two ends exchanged.
-/

namespace ContentVault

open World StoreRequest

/-! ## Reading twice -/

namespace BucketStore

/-- A bucket whose service has answered other requests before. -/
def noting (store : BucketStore) (requests : List BucketRequest) : BucketStore :=
  { store with service := { store.service with requests } }

/-- A bucket answers alike whatever it was asked before, and only notes that it was asked. -/
theorem reader_noting (store : BucketStore) (requests : List BucketRequest)
    (path : List UInt8) :
    ((store.noting requests).reader path).1 = (store.reader path).1 ∧
      ∃ noted, (store.reader path).2 = store.noting noted := by
  obtain ⟨⟨reachable, _, objects, denied, _, truncateAfter, _, before⟩, _, keyPrefix⟩ := store
  unfold reader noting BucketService.receive
  dsimp only
  rcases fullKey keyPrefix path with failure | key
  · exact ⟨rfl, before, rfl⟩
  dsimp only
  cases reachable with
  | false =>
      exact ⟨rfl, before, rfl⟩
  | true =>
      rw [if_pos rfl, if_pos rfl]
      cases denied.contains
          ((BucketRequest.getObject key).method, (BucketRequest.getObject key).isAboutBucket) with
      | true =>
          exact ⟨rfl, _, rfl⟩
      | false =>
          simp only [Bool.not_false]
          rcases objects.get? key with _ | object
          · exact ⟨rfl, _, rfl⟩
          rcases truncateAfter with _ | kept
          · exact ⟨rfl, _, rfl⟩
          · dsimp only
            split <;> exact ⟨rfl, _, rfl⟩

end BucketStore

namespace BlobStore

/-- Two stores that answer alike to whoever reads, and wait alike before they do. -/
structure ReadsAlike (store other : BlobStore) : Prop where
  read : ∀ path, (other.read path).1 = (store.read path).1
  latency : other.latency = store.latency

theorem readsAlike_read (store : BlobStore) (path : List UInt8) :
    store.ReadsAlike (store.read path).2 := by
  cases store with
  | memory store =>
      exact ⟨fun _ => rfl, rfl⟩
  | directory store =>
      exact ⟨fun _ => rfl, rfl⟩
  | bucket store =>
      obtain ⟨_, requests, noted⟩ := store.reader_noting [] path
      have after : ((BlobStore.bucket store).read path).2 = .bucket (store.noting requests) :=
        congrArg BlobStore.bucket noted
      rw [after]
      refine ⟨fun other => ?_, rfl⟩
      exact congrArg (fun stream => stream.bind (joinStream ByteArray.empty))
        (store.reader_noting requests other).1

end BlobStore

namespace Vault

variable {conditions : Conditions} {world : World} {fileId path : String}

/-- Whether a vault has the time to read so many blobs one after the other. -/
structure HasTimeToRead (conditions : Conditions) (world : World) (count : Nat) : Prop where
  within : world.blobs.latency ≤ conditions.settings.operationTimeout
  before : ∀ deadline, conditions.deadline = some deadline →
    world.clock + count * world.blobs.latency ≤ deadline

theorem HasTimeToRead.latency_le {count : Nat}
    (hasTime : HasTimeToRead conditions world (count + 1)) :
    world.blobs.latency ≤ timeLimit conditions world := by
  have within := hasTime.within
  unfold timeLimit
  cases ends : conditions.deadline with
  | none =>
      exact within
  | some deadline =>
      have before := hasTime.before deadline ends
      rw [Nat.succ_mul] at before
      dsimp only
      omega

/-- A blob that can be read is read in time, and leaves the time for the others. -/
theorem blobContent_eq {count : Nat} {content : ByteArray}
    (hasTime : HasTimeToRead conditions world (count + 1))
    (readable : (world.blobs.read (Utf8.encode path)).1 = .ok content) :
    ∃ after,
      blobContent path conditions world = (.ok content, after) ∧
        world.blobs.ReadsAlike after.blobs ∧ HasTimeToRead conditions after count := by
  have inTime : (world.record (.blob .read path)).blobs.latency ≤ timeLimit conditions world :=
    hasTime.latency_le
  refine ⟨{ ((world.record (.blob .read path)).advance world.blobs.latency) with
    blobs := (world.blobs.read (Utf8.encode path)).2 }, ?_, ?_, ?_⟩
  · unfold blobContent bounded readBlob
    simp only [toBlobs, afterWaiting_some]
    rw [if_pos inTime]
    change (raiseAs _ ((world.blobs.read (Utf8.encode path)).1.mapError StoreFailure.blob), _) = _
    rw [readable]
    rfl
  · exact world.blobs.readsAlike_read (Utf8.encode path)
  · have alike := world.blobs.readsAlike_read (Utf8.encode path)
    constructor
    · exact alike.latency ▸ hasTime.within
    · intro deadline ends
      have before := hasTime.before deadline ends
      change world.clock + world.blobs.latency + count * (world.blobs.read _).2.latency ≤ deadline
      rw [alike.latency]
      rw [Nat.succ_mul] at before
      omega

/-! ## One comparison -/

theorem bytes_beq_iff {old new : ByteArray} : (old == new) = true ↔ old = new := by
  rw [ByteArray.ext_iff]
  change (old.data == new.data) = true ↔ old.data = new.data
  exact beq_iff_eq

/-- What is counted of the lines of two versions with given contents. -/
def linesBetween (first second : VersionRecord) (old new : ByteArray) : Option LineChanges :=
  if MediaType.isTextual first.contentType && MediaType.isTextual second.contentType then
    some (lineChanges (Utf8.decodeLossy old) (Utf8.decodeLossy new))
  else
    none

/-- A version whose blob can be read and is as long as its row says. -/
structure Holds (blobs : BlobStore) (version : VersionRecord) (content : ByteArray) : Prop where
  readable : (blobs.read (Utf8.encode version.path)).1 = .ok content
  size : content.size = version.size.toNat

theorem Holds.of_readsAlike {blobs other : BlobStore} {version : VersionRecord}
    {content : ByteArray} (holds : Holds blobs version content)
    (alike : blobs.ReadsAlike other) : Holds other version content :=
  ⟨(alike.read _).trans holds.readable, holds.size⟩

/-- Comparing two versions tells what reading both of their blobs tells. -/
theorem compareContent_eq {first second : VersionRecord} {old new : ByteArray}
    (hasTime : HasTimeToRead conditions world 2) (holdsOld : Holds world.blobs first old)
    (holdsNew : Holds world.blobs second new) :
    (compareContent first second conditions world).1 =
      .ok (old == new, linesBetween first second old new) := by
  -- Both blobs are read where no shortcut is taken.
  obtain ⟨between, readOld, alike, stillTime⟩ := blobContent_eq hasTime holdsOld.readable
  obtain ⟨after, readNew, _, _⟩ :=
    blobContent_eq stillTime (holdsNew.of_readsAlike alike).readable
  unfold compareContent linesBetween
  by_cases samePath : first.path = second.path
  · have sameBytes : old = new := by
      have readAgain := holdsNew.readable
      rw [← samePath, holdsOld.readable] at readAgain
      exact Except.ok.inj readAgain
    rw [if_pos samePath, bytes_beq_iff.2 sameBytes, sameBytes, lineChanges_self]
    rfl
  rw [if_neg samePath]
  by_cases textual :
    (MediaType.isTextual first.contentType && MediaType.isTextual second.contentType) = true
  · rw [if_pos textual, if_pos textual, VaultAction.bind_apply, readOld]
    dsimp only
    rw [VaultAction.bind_apply, readNew]
    rfl
  rw [if_neg textual, if_neg textual]
  by_cases sameSize : first.size = second.size
  · rw [if_pos sameSize, VaultAction.bind_apply, readOld]
    dsimp only
    rw [VaultAction.bind_apply, readNew]
    rfl
  · have different : (old == new) = false := by
      rw [Bool.eq_false_iff, ne_eq, bytes_beq_iff]
      rintro rfl
      exact sameSize (UInt64.toNat_inj.1 (holdsOld.size.symm.trans holdsNew.size))
    rw [if_neg sameSize, different]
    rfl

/-! ## Both ways round -/

theorem toInt_sizeDelta {first second : UInt64} (firstFits : first.toNat < 0x8000000000000000)
    (secondFits : second.toNat < 0x8000000000000000) :
    (second.toInt64 - first.toInt64).toInt = (second.toNat : Int) - first.toNat := by
  rw [Int64.toInt_sub, toInt_toInt64 firstFits, toInt_toInt64 secondFits]
  exact Int.bmod_eq_of_le (by omega) (by omega)

theorem linesBetween_swapped (first second : VersionRecord) (old new : ByteArray) :
    linesBetween second first new old =
      (linesBetween first second old new).map LineChanges.swapped := by
  unfold linesBetween
  rw [Bool.and_comm]
  split
  · exact congrArg some (swapped_lineChanges (Utf8.decodeLossy old) (Utf8.decodeLossy new)).symm
  · rfl

end Vault

/-- The same difference looked at from its other end. -/
def VersionDiff.swapped (difference : VersionDiff) : VersionDiff where
  fromVersion := difference.toVersion
  toVersion := difference.fromVersion
  sameContent := difference.sameContent
  sizeDelta := -difference.sizeDelta
  contentTypeChanged := difference.contentTypeChanged
  lines := difference.lines.map LineChanges.swapped

/-- What a difference of two versions with given contents tells. -/
structure VersionDiff.Tells (difference : VersionDiff) (first second : VersionRecord)
    (old new : ByteArray) : Prop where
  fromVersion : difference.fromVersion = first.number
  toVersion : difference.toVersion = second.number
  sameContent : difference.sameContent = true ↔ old = new
  sizeDelta : difference.sizeDelta.toInt = (new.size : Int) - old.size
  contentTypeChanged :
    difference.contentTypeChanged = true ↔ first.contentType ≠ second.contentType
  lines : difference.lines = Vault.linesBetween first second old new

/-- The blob of every version can be read and is as long as its row says. -/
def World.KeepsContents (world : World) : Prop :=
  ∀ row ∈ world.tables.versions, ∃ content : ByteArray,
    (world.blobs.read (Utf8.encode row.path)).1 = .ok content ∧
      (content.size : Int) = row.size.toInt

namespace Vault

variable {conditions : Conditions} {world : World} {fileId : String}

/-- What the catalog tells of a stored version, and the blob that it has. -/
theorem exists_holds (kept : world.KeepsContents) {number : UInt32} {version : VersionRecord}
    (found : world.tables.getVersion fileId number = .ok (some version)) :
    version.number = number ∧ version.size.toNat < 0x8000000000000000 ∧
      ∃ content, Holds world.blobs version content := by
  obtain ⟨row, isRow, decoded⟩ := Tables.getVersion_eq_some.1 found
  have satisfies := List.find?_some isRow
  rw [Bool.and_eq_true, decide_eq_true_eq, decide_eq_true_eq] at satisfies
  have isNumber := (Tables.number_of_toRecord decoded).symm.trans satisfies.2
  obtain ⟨content, readable, size⟩ := kept row (List.mem_of_find?_eq_some isRow)
  obtain ⟨fits, rfl⟩ := VersionRecord.toRow_eq_ok.1 (VersionRow.toRow_of_toRecord decoded)
  change (content.size : Int) = version.size.toInt64.toInt at size
  rw [toInt_toInt64 fits] at size
  exact ⟨encodeNumber_injective isNumber, fits, content, readable, Int.ofNat.inj size⟩

theorem yields_version {version : VersionRecord} {number : UInt32}
    (faultless : conditions.faults = noFaults) (positive : 0 < number)
    (found : world.tables.getVersion fileId number = .ok (some version)) :
    (Vault.version fileId number.toNat).Yields conditions world (.ok version) := by
  have isPositive : ¬ (number.toNat : Int) ≤ 0 := by
    have := UInt32.lt_iff_toNat_lt.1 positive
    rw [UInt32.toNat_zero] at this
    omega
  unfold Vault.version
  rw [if_neg isPositive, versionNumber?_toNat]
  exact .bind (.query .catalogRead .getVersion faultless found) (.pure _)

/-- The difference of two versions, by the contents of their blobs. -/
def differenceOf (first second : VersionRecord) (old new : ByteArray) : VersionDiff where
  fromVersion := first.number
  toVersion := second.number
  sameContent := old == new
  sizeDelta := second.size.toInt64 - first.size.toInt64
  contentTypeChanged := first.contentType ≠ second.contentType
  lines := linesBetween first second old new

theorem diff_eq {file : FileRecord} {a b : UInt32} {first second : VersionRecord}
    {old new : ByteArray} (faultless : conditions.faults = noFaults)
    (hasTime : HasTimeToRead conditions world 2)
    (live : world.tables.getFile fileId = .ok (some file)) (aPositive : 0 < a)
    (bPositive : 0 < b) (isFirst : world.tables.getVersion fileId a = .ok (some first))
    (isSecond : world.tables.getVersion fileId b = .ok (some second))
    (holdsOld : Holds world.blobs first old) (holdsNew : Holds world.blobs second new) :
    (diff fileId a.toNat b.toNat).answer conditions world =
      .ok (differenceOf first second old new) := by
  have isLive : (liveFile fileId).Yields conditions world (.ok file) :=
    .bind (.query .catalogRead .getFile faultless live) (.pure file)
  obtain ⟨looked, lookedUp, sameLooked⟩ := isLive world ⟨rfl, rfl, rfl⟩
  obtain ⟨asked, foundFirst, sameAsked⟩ :=
    yields_version faultless aPositive isFirst looked sameLooked
  obtain ⟨between, foundSecond, same⟩ :=
    yields_version faultless bPositive isSecond asked sameAsked
  have stillTime : HasTimeToRead conditions between 2 := by
    refine ⟨?_, ?_⟩
    · rw [same.blobs]
      exact hasTime.within
    · rw [same.blobs, same.clock]
      exact hasTime.before
  have compared := compareContent_eq stillTime (same.blobs.symm ▸ holdsOld)
    (same.blobs.symm ▸ holdsNew)
  unfold VaultAction.answer diff
  rw [VaultAction.bind_apply, lookedUp]
  dsimp only
  rw [VaultAction.bind_apply, foundFirst]
  dsimp only
  rw [VaultAction.bind_apply, foundSecond]
  dsimp only
  rw [VaultAction.bind_apply]
  rcases outcome : compareContent first second conditions between with ⟨answer, after⟩
  rw [outcome] at compared
  dsimp only at compared
  subst compared
  rw [differenceOf]
  dsimp only
  exact (VaultAction.Yields.pure _).answer_eq

theorem tells_differenceOf {first second : VersionRecord} {old new : ByteArray}
    (firstFits : first.size.toNat < 0x8000000000000000)
    (secondFits : second.size.toNat < 0x8000000000000000)
    (oldSize : old.size = first.size.toNat) (newSize : new.size = second.size.toNat) :
    (differenceOf first second old new).Tells first second old new where
  fromVersion := rfl
  toVersion := rfl
  sameContent := by
    rw [differenceOf, bytes_beq_iff]
  sizeDelta := by
    rw [differenceOf, oldSize, newSize]
    exact toInt_sizeDelta firstFits secondFits
  contentTypeChanged := by
    rw [differenceOf, decide_eq_true_iff]
  lines := by
    rw [differenceOf]

theorem swapped_differenceOf (first second : VersionRecord) (old new : ByteArray) :
    differenceOf second first new old = (differenceOf first second old new).swapped := by
  have sameBytes : (new == old) = (old == new) := by
    rw [Bool.eq_iff_iff, bytes_beq_iff, bytes_beq_iff, eq_comm]
  unfold differenceOf VersionDiff.swapped
  rw [Int64.neg_sub, linesBetween_swapped first second old new, sameBytes]
  simp only [eq_comm, ne_eq]

end Vault

/-- Where the blob of every version can be read and is as long as recorded, and nothing fails
or takes too long, a comparison of two versions of a live file tells what their blobs are, and
the comparison the other way round tells the same with its ends exchanged. Versions count from
one. -/
theorem comparison_tells_contents (world : World) (kept : world.KeepsContents)
    (conditions : Conditions) (faultless : conditions.faults = noFaults)
    (hasTime : Vault.HasTimeToRead conditions world 2) (fileId : String) (file : FileRecord)
    (live : world.tables.getFile fileId = .ok (some file)) (a b : UInt32) (aPositive : 0 < a)
    (bPositive : 0 < b) (first second : VersionRecord)
    (isFirst : world.tables.getVersion fileId a = .ok (some first))
    (isSecond : world.tables.getVersion fileId b = .ok (some second)) :
    ∃ old new difference,
      (world.blobs.read (Utf8.encode first.path)).1 = .ok old ∧
        (world.blobs.read (Utf8.encode second.path)).1 = .ok new ∧
          first.number = a ∧ second.number = b ∧
            (Vault.diff fileId a.toNat b.toNat).answer conditions world = .ok difference ∧
              difference.Tells first second old new ∧
                (Vault.diff fileId b.toNat a.toNat).answer conditions world =
                  .ok difference.swapped := by
  obtain ⟨isA, firstFits, old, holdsOld⟩ := Vault.exists_holds kept isFirst
  obtain ⟨isB, secondFits, new, holdsNew⟩ := Vault.exists_holds kept isSecond
  have forth := Vault.diff_eq faultless hasTime live aPositive bPositive isFirst isSecond
    holdsOld holdsNew
  have back := Vault.diff_eq faultless hasTime live bPositive aPositive isSecond isFirst
    holdsNew holdsOld
  have tells := Vault.tells_differenceOf firstFits secondFits holdsOld.size holdsNew.size
  rw [Vault.swapped_differenceOf] at back
  exact ⟨old, new, _, holdsOld.readable, holdsNew.readable, isA, isB, forth, tells, back⟩

/-- The first version of a note. -/
def earlierNote : VersionRecord :=
  .make "note" 1 4 "alice/202401/note" "text/plain" .epoch ""

/-- The second version of the note, which has a blob of its own. -/
def laterNote : VersionRecord :=
  .make "note" 2 6 "alice/202401/later" "text/plain" .epoch ""

/-- The file of the note when a version is current. -/
def noteAt (version : VersionRecord) : FileRecord where
  fileId := version.fileId
  owner := "alice"
  fileName := "note.txt"
  fileType := "txt"
  contentType := version.contentType
  size := version.size
  path := version.path
  createdAt := .epoch
  updatedAt := .epoch
  currentVersion := version.number
  description := ""
  status := .active
  trashedAt := none

/-- A vault with both versions of the note. -/
def revisedNote : World where
  tables := ((Tables.empty.createFile (noteAt earlierNote) earlierNote).2.appendVersion
    laterNote 1).2
  blobs := [(earlierNote, "a\nb\n"), (laterNote, "a\nc\nd\n")].foldl
    (fun blobs entry => (blobs.write (Utf8.encode entry.1.path) entry.2.toUTF8 none .epoch).2)
    (.memory .empty)
  clock := 0
  calls := []

theorem revised_note_is_compared :
    revisedNote.KeepsContents ∧
      (Vault.conditionsWith noFaults).faults = noFaults ∧
      Vault.HasTimeToRead (Vault.conditionsWith noFaults) revisedNote 2 ∧
      revisedNote.tables.getFile "note" = .ok (some (noteAt laterNote)) ∧
      revisedNote.tables.getVersion "note" 1 = .ok (some earlierNote) ∧
      revisedNote.tables.getVersion "note" 2 = .ok (some laterNote) ∧
      ∃ difference,
        (Vault.diff "note" 1 2).answer (Vault.conditionsWith noFaults) revisedNote =
            .ok difference ∧
          difference.sameContent = false ∧ difference.sizeDelta.toInt = 2 ∧
            difference.lines = some ⟨2, 1⟩ ∧
              (Vault.diff "note" 2 1).answer (Vault.conditionsWith noFaults) revisedNote =
                .ok difference.swapped := by
  have readEarlier : (revisedNote.blobs.read (Utf8.encode earlierNote.path)).1 =
      .ok "a\nb\n".toUTF8 := by
    decide +kernel
  have readLater : (revisedNote.blobs.read (Utf8.encode laterNote.path)).1 =
      .ok "a\nc\nd\n".toUTF8 := by
    decide +kernel
  have kept : revisedNote.KeepsContents := by
    have bothRows : revisedNote.tables.versions.map
        (fun row => (row.path, row.size.toInt)) = [(earlierNote.path, 4), (laterNote.path, 6)] := by
      decide +kernel
    intro row member
    have isOne := bothRows ▸ List.mem_map_of_mem member
    rcases List.mem_pair.1 isOne with isEarlier | isLater
    · obtain ⟨path, size⟩ := Prod.mk.inj isEarlier
      exact ⟨_, path ▸ readEarlier, by rw [size]; decide +kernel⟩
    · obtain ⟨path, size⟩ := Prod.mk.inj isLater
      exact ⟨_, path ▸ readLater, by rw [size]; decide +kernel⟩
  have hasTime : Vault.HasTimeToRead (Vault.conditionsWith noFaults) revisedNote 2 :=
    ⟨by decide +kernel, fun deadline absent => by cases absent⟩
  obtain ⟨live, isFirst, isSecond⟩ :
      revisedNote.tables.getFile "note" = .ok (some (noteAt laterNote)) ∧
        revisedNote.tables.getVersion "note" 1 = .ok (some earlierNote) ∧
          revisedNote.tables.getVersion "note" 2 = .ok (some laterNote) := by
    decide +kernel
  obtain ⟨old, new, difference, isOld, isNew, _, _, forth, tells, back⟩ :=
    comparison_tells_contents revisedNote kept (Vault.conditionsWith noFaults) rfl hasTime "note"
      (noteAt laterNote) live 1 2 (by decide) (by decide) earlierNote laterNote isFirst isSecond
  rw [readEarlier] at isOld
  rw [readLater] at isNew
  cases isOld
  cases isNew
  refine ⟨kept, rfl, hasTime, live, isFirst, isSecond, difference, forth, ?_, ?_, ?_, back⟩
  · rw [Bool.eq_false_iff, ne_eq, tells.sameContent]
    decide +kernel
  · rw [tells.sizeDelta]
    decide +kernel
  · rw [tells.lines, Vault.linesBetween, lineChanges_eq]
    decide +kernel

end ContentVault
