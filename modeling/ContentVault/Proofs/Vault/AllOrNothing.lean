import ContentVault.Proofs.Catalog.Tagging
import ContentVault.Proofs.Vault.Upload

/-!
# Uploads are all or nothing

Without a rival, an upload that succeeds adds one file, one version and one blob,
and one that fails leaves both stores as they were.  Only where deleting fails can a
blob stay behind.
-/

namespace ContentVault.Vault

open World StoreRequest

/-- What an upload adds to the two stores, and that it adds nothing else. -/
structure CommittedUpload (conditions : Conditions) (request : UploadRequest)
    (before after : World) (store : MemoryStore) (warnings : List UploadWarning)
    (fileName : String) (fileRow : FileRow) (versionRow : VersionRow) : Prop where
  accepted : checkUpload conditions.settings request = .ok fileName
  fileEncoded : (uploadedFile request fileName conditions.now).toRow = .ok fileRow
  versionEncoded :
    (firstVersionOf (uploadedFile request fileName conditions.now)).toRow = .ok versionRow
  fileId : fileRow.fileId = fileIdOf request.payload
  versionFileId : versionRow.fileId = fileIdOf request.payload
  number : versionRow.number = 1
  new : before.tables.hasFile (fileIdOf request.payload) = false
  files : after.tables.files = before.tables.files ++ [fileRow]
  versions : after.tables.versions = before.tables.versions ++ [versionRow]
  keyed : blobKey? (Utf8.encode fileRow.path) = some (uploadKey request conditions.now)
  absent : store.blobs.get? (uploadKey request conditions.now) = none
  blobs :
    after.blobs =
      .memory
        { store with
          blobs :=
            store.blobs ++
              [(uploadKey request conditions.now,
                ⟨request.payload, some fileRow.contentType, conditions.now⟩)] }
  tagged :
    warnings = [] →
      Tables.Tagged (fileIdOf request.payload) (parseTags request.tags) before.tables
        after.tables
  carried :
    warnings = [] →
      ∀ links, before.tables.TagsKeyed links →
        ∃ names,
          after.tables.tagNames (fileIdOf request.payload) = .ok names ∧
            names.Perm (parseTags request.tags)
  untagged :
    warnings ≠ [] →
      after.tables.tags = before.tables.tags ∧ after.tables.links = before.tables.links

variable {conditions : Conditions} {request : UploadRequest} {before registered after : World}
  {store : MemoryStore} {fileName : String}

theorem tablesForUpload_of_no_race
    (noRace : ∀ index owner path,
      conditions.faults .createFile index ≠ some (.loseRace owner path)) :
    tablesForUpload conditions request before fileName = before.tables :=
  afterRival_of_no_race (noRace _) before.tables

/-- Attaching tags adds no file and no version, and its warning says whether it added
the tags. -/
theorem tagged_of_attachUploadTags {fileId text : String} {warnings : List UploadWarning}
    (done :
      attachUploadTags fileId (parseTags text) conditions registered = (.ok warnings, after)) :
    after.tables.files = registered.tables.files ∧
      after.tables.versions = registered.tables.versions ∧
      (warnings = [] → Tables.Tagged fileId (parseTags text) registered.tables after.tables) ∧
      (warnings ≠ [] →
        after.tables.tags = registered.tables.tags ∧
          after.tables.links = registered.tables.links) := by
  rcases (attachUploadTags_cases done).2 with ⟨noWarning, linked, attached⟩ | ⟨warned, same⟩
  · obtain ⟨sameFiles, sameVersions, tagged⟩ :=
      tagged_of_attachTags (nodup_parseTags text) attached
    exact ⟨sameFiles, sameVersions, fun _ => tagged, fun warned => absurd noWarning warned⟩
  · rw [same]
    exact ⟨rfl, rfl, fun noWarning => absurd noWarning warned, fun _ => ⟨rfl, rfl⟩⟩

/-- What a commit adds, and what attaching the tags then adds. -/
theorem committedUpload_of_created {warnings : List UploadWarning}
    (fresh : FreshUpload conditions request before store fileName)
    (created :
      before.tables.createFile (uploadedFile request fileName conditions.now)
          (firstVersionOf (uploadedFile request fileName conditions.now)) =
        (.ok (), registered.tables))
    (blobs :
      registered.blobs =
        .memory
          (store.withBlob (uploadKey request conditions.now)
            (uploadedBlob request fileName conditions.now)))
    (attached :
      attachUploadTags (fileIdOf request.payload) (parseTags request.tags) conditions
          registered = (.ok warnings, after)) :
    ∃ fileRow versionRow,
      CommittedUpload conditions request before after store warnings fileName fileRow
        versionRow := by
  obtain ⟨_, _, fileRow, versionRow, fileEncoded, versionEncoded, _, _, tables⟩ :=
    Tables.createFile_eq_ok.1 created
  obtain ⟨_, isFile⟩ := FileRecord.toRow_eq_ok.1 fileEncoded
  obtain ⟨_, isVersion⟩ := VersionRecord.toRow_eq_ok.1 versionEncoded
  obtain ⟨sameFiles, sameVersions, whenTagged, whenWarned⟩ :=
    tagged_of_attachUploadTags attached
  rw [tables] at sameFiles sameVersions whenTagged whenWarned
  -- Registering a file touches neither tags nor links.
  have tagged (noWarning : warnings = []) :
      Tables.Tagged (fileIdOf request.payload) (parseTags request.tags) before.tables
        after.tables := by
    obtain ⟨tags, tagIds, links, linked⟩ := whenTagged noWarning
    exact ⟨tags, tagIds, links, linked⟩
  refine ⟨fileRow, versionRow, fresh.checked, fileEncoded, versionEncoded, ?_, ?_, ?_,
    fresh.new, sameFiles, sameVersions, ?_, fresh.absent, ?_, tagged, ?_, whenWarned⟩
  · rw [isFile]
    rfl
  · rw [isVersion]
    rfl
  · rw [isVersion]
    rfl
  · rw [isFile]
    exact blobKey?_uploadedFile fresh.checked conditions.now
  · rw [(attachUploadTags_cases attached).1, blobs, MemoryStore.withBlob,
      Table.put_of_absent fresh.absent, isFile]
    rfl
  · intro noWarning links keyed
    exact (tagged noWarning).tagNames (nodup_parseTags request.tags) keyed fresh.new

/-- A failed upload that had no rival leaves nothing behind unless deleting fails. -/
theorem notSparesUpload_of_no_race
    (new : before.tables.hasFile (fileIdOf request.payload) = false)
    (sameTables : after.tables = before.tables) :
    ¬ SparesUpload conditions request before after := by
  rintro ⟨_, winner, registered, _⟩
  rw [sameTables, Tables.fileRecord_eq_none.2 new] at registered
  cases registered

/-- An upload is all or nothing: without a rival it either adds one file, one
version and one blob with the given tags or none of them, or it fails and leaves the
tables and the blobs as they were.  Only where deleting fails can the blob that it
wrote stay behind. -/
theorem upload_all_or_nothing
    (conditions : Conditions) (request : UploadRequest) (before : World)
    (store : MemoryStore) (kept : before.blobs = .memory store)
    (noRace : ∀ index owner path,
      conditions.faults .createFile index ≠ some (.loseRace owner path)) :
    match upload request conditions before with
    | (.ok receipt, after) =>
        ∃ fileName fileRow versionRow,
          CommittedUpload conditions request before after store receipt.warnings fileName
            fileRow versionRow
    | (.error _, after) =>
        after.tables = before.tables ∧
          (after.blobs = .memory store ∨
            .delete ∈ store.failing ∧
              blobKey?
                  (Utf8.encode
                    (storagePath request.owner conditions.now (fileIdOf request.payload))) =
                some (uploadKey request conditions.now) ∧
                store.blobs.get? (uploadKey request conditions.now) = none ∧
                ∃ contentType,
                  after.blobs =
                    .memory
                      { store with
                        blobs :=
                          store.blobs ++
                            [(uploadKey request conditions.now,
                              ⟨request.payload, some contentType, conditions.now⟩)] }) := by
  rcases done : upload request conditions before with ⟨failure | receipt, after⟩
  · rcases uploadOutcome_of_upload kept done with
      untouched | ⟨fresh, _, tables, _, notSpared⟩
    · exact ⟨untouched.tables, Or.inl (untouched.blobs kept)⟩
    · rw [tablesForUpload_of_no_race noRace] at tables
      have blobs := notSpared (notSparesUpload_of_no_race fresh.new tables)
      refine ⟨tables, ?_⟩
      by_cases failing : .delete ∈ store.failing
      · rw [if_pos failing, MemoryStore.withBlob, Table.put_of_absent fresh.absent] at blobs
        exact Or.inr ⟨failing, blobKey?_uploadedFile fresh.checked conditions.now,
          fresh.absent, _, blobs⟩
      · rw [if_neg failing] at blobs
        exact Or.inl blobs
  · rcases uploadOutcome_of_upload kept done with _ | _ | ⟨fresh, created, blobs, tagged⟩
    rw [tablesForUpload_of_no_race noRace] at created
    obtain ⟨fileRow, versionRow, committed⟩ :=
      committedUpload_of_created fresh created blobs tagged
    exact ⟨_, fileRow, versionRow, committed⟩

/-- The first upload to an empty vault adds its file, its version and its blob. -/
theorem first_upload_all_or_nothing :
    (emptyVault .empty).blobs = .memory .empty ∧
      (∀ index owner path,
        (conditionsWith noFaults).faults .createFile index ≠ some (.loseRace owner path)) ∧
      ∃ receipt after fileName fileRow versionRow,
        upload firstUpload (conditionsWith noFaults) (emptyVault .empty) =
            (.ok receipt, after) ∧
          CommittedUpload (conditionsWith noFaults) firstUpload (emptyVault .empty) after .empty
            receipt.warnings fileName fileRow versionRow := by
  have noRace : ∀ index owner path,
      (conditionsWith noFaults).faults .createFile index ≠ some (.loseRace owner path) := by
    intro index owner path
    simp [conditionsWith, noFaults]
  have result := upload_all_or_nothing (conditionsWith noFaults) firstUpload
    (emptyVault .empty) .empty rfl noRace
  have succeeds :
      (upload firstUpload (conditionsWith noFaults) (emptyVault .empty)).1.isOk = true := by
    decide +kernel
  refine ⟨rfl, noRace, ?_⟩
  rcases done : upload firstUpload (conditionsWith noFaults) (emptyVault .empty) with
    ⟨failure | receipt, after⟩
  · rw [done] at succeeds
    cases succeeds
  · rw [done] at result
    obtain ⟨fileName, fileRow, versionRow, committed⟩ := result
    exact ⟨receipt, after, fileName, fileRow, versionRow, rfl, committed⟩

end ContentVault.Vault
