import ContentVault.Proofs.Vault.Upload

/-!
# Uploads that lose a race

Somebody else registers the same content while an upload is under way.

* the upload fails, and the tables gain the winner's file and version only;
* the loser's blob stays exactly if the winner's file has the same path and the
  upload, when it cleans up, gets to see that file;
* so a lookup that fails at that moment costs the winner its blob.
-/

namespace ContentVault.Vault

open World StoreRequest

/-! ## The tables after a race -/

section Tables

variable {tables after : Tables} {file : FileRecord} {version : VersionRecord}
  {owner : String} {path : Option String}

/-- Nobody can register a file that a rival has just tried to register. -/
theorem createFile_after_rival :
    (tables.createFile (rivalFile file owner path)
        (rivalVersion file version path)).2.createFile file version ≠ (.ok (), after) := by
  intro created
  obtain ⟨sameFile, sameNumber, fileRow, versionRow, fileEncoded, versionEncoded, new, fresh,
    _⟩ := Tables.createFile_eq_ok.1 created
  obtain ⟨fileFits, rfl⟩ := FileRecord.toRow_eq_ok.1 fileEncoded
  obtain ⟨versionFits, rfl⟩ := VersionRecord.toRow_eq_ok.1 versionEncoded
  rcases raced : tables.createFile (rivalFile file owner path)
    (rivalVersion file version path) with ⟨failure | _, changed⟩
  · -- What kept the rival from registering the file is still in the way.
    rw [raced] at new fresh
    have unchanged : changed = tables := Work.transaction_of_error raced
    subst unchanged
    have succeeds :
        changed.createFile (rivalFile file owner path) (rivalVersion file version path) =
          (.ok (), _) :=
      Tables.createFile_eq_ok.2
        ⟨sameFile, sameNumber, _, _, FileRecord.toRow_eq_ok.2 ⟨fileFits, rfl⟩,
          VersionRecord.toRow_eq_ok.2 ⟨versionFits, rfl⟩, new, fresh, rfl⟩
    rw [raced] at succeeds
    cases succeeds
  · rw [raced] at new
    obtain ⟨_, _, winnerRow, _, winnerEncoded, _, _, _, rfl⟩ := Tables.createFile_eq_ok.1 raced
    obtain ⟨_, rfl⟩ := FileRecord.toRow_eq_ok.1 winnerEncoded
    have absent := Tables.hasFile_eq_false_iff.1 new
    exact absent _ (List.mem_append_right _ (List.mem_singleton.2 rfl)) rfl

/-- A file that was just registered is the one that is looked up. -/
theorem fileRecord_of_registered {row : FileRow}
    (encoded : file.toRow = .ok row) (new : tables.hasFile file.fileId = false)
    (files : after.files = tables.files ++ [row]) :
    after.fileRecord file.fileId = .ok (some file.inWholeSeconds) := by
  refine Tables.fileRecord_eq_some.2 ⟨row, ?_, FileRow.toRecord_of_toRow encoded⟩
  have sameFile : row.fileId = file.fileId := by
    obtain ⟨_, rfl⟩ := FileRecord.toRow_eq_ok.1 encoded
    rfl
  rw [Tables.file?, files, List.find?_append]
  have notBefore := Tables.file?_eq_none_iff.2 new
  rw [Tables.file?] at notBefore
  rw [notBefore]
  simp [sameFile]

end Tables

/-! ## The outcome of a lost race -/

/-- Whether a failed upload gets an answer when it looks up the file before it
removes its blob. -/
def LookupAnswered (conditions : Conditions) (before : World) : Prop :=
  Fault.letsThrough conditions.settings.operationTimeout
    (conditions.faults .fileRecord (before.callCount .fileRecord + 1)) = true

/-- Where the two stores are after a lost race: the tables have gained the winner's
file and its version, and the loser's blob is there exactly if the winner's file has the
same path and the loser got to see it. -/
structure AfterLostRace (conditions : Conditions) (before after : World)
    (store : MemoryStore) (file : FileRecord) (names : List PathName) (blob : StoredBlob)
    (winner : FileRow) (version : VersionRow) : Prop where
  tables :
    after.tables =
      { before.tables with
        files := before.tables.files ++ [winner]
        versions := before.tables.versions ++ [version] }
  kept :
    winner.path = file.path → LookupAnswered conditions before →
      after.blobs = .memory { store with blobs := store.blobs ++ [(names, blob)] }
  removed :
    ¬ (winner.path = file.path ∧ LookupAnswered conditions before) →
      after.blobs = .memory store

/-- A lost race fails the upload and leaves the winner's file and version.  The blob
of the loser stays exactly if the winner's file has the same path and the loser gets to
see it, and otherwise the blobs are as before.  If the winner could not be registered
either, nothing changes. -/
theorem lost_race_outcome
    (conditions : Conditions) (request : UploadRequest) (before : World)
    (store : MemoryStore) (owner : String) (path : Option String)
    (kept : before.blobs = .memory store) (deletable : .delete ∉ store.failing)
    (raced : before.nextFault conditions .createFile = some (.loseRace owner path))
    (reached :
      before.callCount .createFile <
        (upload request conditions before).2.callCount .createFile) :
    ∃ fileName file failure after,
      checkUpload conditions.settings request = .ok fileName ∧
        file = uploadedFile request fileName conditions.now ∧
        upload request conditions before = (.error failure, after) ∧
        blobKey? (Utf8.encode file.path) = some (uploadKey request conditions.now) ∧
        store.blobs.get? (uploadKey request conditions.now) = none ∧
        ((∃ winner version,
            (rivalFile file owner path).toRow = .ok winner ∧
              (rivalVersion file (firstVersionOf file) path).toRow = .ok version ∧
              AfterLostRace conditions before after store file
                (uploadKey request conditions.now)
                ⟨request.payload, some file.contentType, conditions.now⟩ winner version) ∨
          ((before.tables.createFile (rivalFile file owner path)
                (rivalVersion file (firstVersionOf file) path)).1 ≠ .ok () ∧
            after.tables = before.tables ∧ after.blobs = .memory store)) := by
  rcases done : upload request conditions before with ⟨outcome, after⟩
  rw [done] at reached
  cases uploadOutcome_of_upload kept done with
  | refused untouched =>
      rw [untouched.registrations] at reached
      exact absurd reached (Nat.lt_irrefl _)
  | committed fresh created blobs tagged =>
      rw [tablesForUpload, raced] at created
      exact absurd created createFile_after_rival
  | @undone fileName failure _ fresh counted tables spared notSpared =>
      rw [if_neg deletable] at notSpared
      rw [MemoryStore.withBlob, Table.put_of_absent fresh.absent] at spared
      refine ⟨fileName, _, failure, after, fresh.checked, rfl, rfl,
        blobKey?_uploadedFile fresh.checked conditions.now, fresh.absent, ?_⟩
      rw [tablesForUpload, raced] at tables
      change after.tables = (before.tables.createFile _ _).2 at tables
      rcases registered : before.tables.createFile
        (rivalFile (uploadedFile request fileName conditions.now) owner path)
        (rivalVersion (uploadedFile request fileName conditions.now)
          (firstVersionOf (uploadedFile request fileName conditions.now)) path) with
        ⟨reason | _, changed⟩
      · rw [registered] at tables
        have unchanged : after.tables = before.tables :=
          tables.trans (Work.transaction_of_error registered)
        refine Or.inr ⟨by simp, unchanged, notSpared ?_⟩
        rintro ⟨_, winner, found, _⟩
        rw [unchanged, Tables.fileRecord_eq_none.2 fresh.new] at found
        cases found
      · rw [registered] at tables
        obtain ⟨_, _, winner, version, winnerEncoded, versionEncoded, _, _, rfl⟩ :=
          Tables.createFile_eq_ok.1 registered
        have found : after.tables.fileRecord (fileIdOf request.payload) = .ok (some _) :=
          fileRecord_of_registered winnerEncoded fresh.new (by rw [tables])
        have winnerPath :
            winner.path =
              (rivalFile (uploadedFile request fileName conditions.now) owner path).path := by
          obtain ⟨_, rfl⟩ := FileRecord.toRow_eq_ok.1 winnerEncoded
          rfl
        refine Or.inl ⟨winner, version, winnerEncoded, versionEncoded, tables, ?_, ?_⟩
        · intro samePath answered
          exact spared ⟨answered, _, found, winnerPath.symm.trans samePath⟩
        · intro missing
          refine notSpared ?_
          rintro ⟨answered, seen, isSeen, samePath⟩
          refine missing ⟨?_, answered⟩
          have same := found.symm.trans isSeen
          cases same
          exact winnerPath.trans samePath

/-- A race lost to somebody else, and what becomes of the lookup that follows. -/
def racedFaults (lookup : Option Fault) : CatalogCall → Nat → Option Fault
  | .createFile, _ => some (.loseRace "someone-else" none)
  | .fileRecord, 1 => lookup
  | _, _ => none

/-- The first upload to an empty vault loses a race and leaves the winner its blob. -/
theorem first_upload_loses_race :
    let conditions := conditionsWith (racedFaults none)
    let before := emptyVault .empty
    before.blobs = .memory .empty ∧ .delete ∉ MemoryStore.empty.failing ∧
      before.nextFault conditions .createFile = some (.loseRace "someone-else" none) ∧
      before.callCount .createFile <
        (upload firstUpload conditions before).2.callCount .createFile ∧
      ∃ failure after winner version,
        upload firstUpload conditions before = (.error failure, after) ∧
          AfterLostRace conditions before after .empty
            (uploadedFile firstUpload "notes.md" conditions.now)
            (uploadKey firstUpload conditions.now)
            (uploadedBlob firstUpload "notes.md" conditions.now) winner version := by
  intro conditions before
  have deletable : .delete ∉ MemoryStore.empty.failing := by
    simp [MemoryStore.empty]
  have reached : before.callCount .createFile <
      (upload firstUpload conditions before).2.callCount .createFile := by
    decide +kernel
  refine ⟨rfl, deletable, rfl, reached, ?_⟩
  obtain ⟨fileName, file, failure, after, checked, rfl, done, _, _, outcome⟩ :=
    lost_race_outcome conditions firstUpload before .empty "someone-else" none rfl deletable rfl
      reached
  have isName : (checkUpload conditions.settings firstUpload).toOption = some "notes.md" := by
    decide +kernel
  rw [checked] at isName
  cases isName
  rcases outcome with ⟨winner, version, _, _, settled⟩ | ⟨unregistered, _⟩
  · exact ⟨failure, after, winner, version, done, settled⟩
  · have registered :
        (before.tables.createFile
          (rivalFile (uploadedFile firstUpload "notes.md" conditions.now) "someone-else" none)
          (rivalVersion (uploadedFile firstUpload "notes.md" conditions.now)
            (firstVersionOf (uploadedFile firstUpload "notes.md" conditions.now))
            none)).1.isOk = true := by
      decide +kernel
    rcases attempted : (before.tables.createFile _ _).1 with reason | _
    · rw [attempted] at registered
      cases registered
    · exact absurd attempted unregistered

/-- If the lookup fails after a lost race, the winner's file is left without its blob. -/
theorem failed_lookup_costs_winner_its_blob :
    let conditions := conditionsWith (racedFaults (some (.fail .database)))
    let after := (upload firstUpload conditions (emptyVault .empty)).2
    let lost := storagePath "alice" conditions.now (fileIdOf firstUpload.payload)
    after.tables.files.map FileRow.path = [lost] ∧
      after.tables.versions.map VersionRow.path = [lost] ∧
      (match after.blobs with
        | .memory store => (store.blobAt? lost).isNone
        | _ => false) = true := by
  decide +kernel

end ContentVault.Vault
