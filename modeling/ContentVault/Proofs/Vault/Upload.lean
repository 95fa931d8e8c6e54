import ContentVault.Proofs.BlobKey
import ContentVault.Proofs.Catalog.Work
import ContentVault.Proofs.Vault.Lookups
import ContentVault.Vault.Upload

/-!
# What an upload can do to the stores

* nothing is written before the catalog and the blob store have both denied that
  they know the content;
* after that, the file is registered and its blob is there, or the tables are as a
  rival left them and the blob is gone again, unless deleting fails or the rival's
  file refers to the blob.
-/

namespace ContentVault.Vault

open World StoreRequest

variable {conditions : Conditions} {before after : World} {store : MemoryStore}
  {fileId path : String} {names : List PathName}

/-! ## Checking that content is new -/

theorem within_ensureUnique {relation : World → World → Prop} [IsPreorder World relation]
    (allows : AllowsLookups relation conditions) :
    VaultAction.Within relation conditions (ensureUnique fileId path) := by
  refine VaultAction.Within.bind
    (VaultAction.Within.bounded (allows.queries _ rfl)) fun existing => ?_
  split
  · exact VaultAction.Within.throw_bind _ _
  · refine VaultAction.Within.bind
      (VaultAction.Within.attempt (allows.stat path)) fun answer => ?_
    split
    · exact VaultAction.Within.throw _
    · split
      · exact VaultAction.Within.pure _
      · exact VaultAction.Within.throw _
    · exact VaultAction.Within.throw _

/-- Content passes the check only if no file has its identifier. -/
theorem unknown_of_ensureUnique {fileId path : String}
    (passed : ensureUnique fileId path conditions before = (.ok (), after)) :
    before.tables.hasFile fileId = false := by
  unfold ensureUnique at passed
  rw [VaultAction.bind_eq_ok] at passed
  obtain ⟨existing, between, looked, passed⟩ := passed
  have known := read_eq_ok (bounded_eq_ok.1 looked)
  rcases existing with _ | file
  · exact Tables.fileRecord_eq_none.1 known
  · cases passed

/-- Only content that neither store knows passes the check. -/
theorem new_of_ensureUnique
    (kept : before.blobs = .memory store)
    (keyed : blobKey? (Utf8.encode path) = some names)
    (passed : ensureUnique fileId path conditions before = (.ok (), after)) :
    before.tables.hasFile fileId = false ∧ store.blobs.get? names = none ∧
      after.callCount .fileRecord = before.callCount .fileRecord + 1 := by
  refine ⟨unknown_of_ensureUnique passed, ?_⟩
  unfold ensureUnique at passed
  rw [VaultAction.bind_eq_ok] at passed
  obtain ⟨existing, between, looked, passed⟩ := passed
  have noted := read_noted (bounded_eq_ok.1 looked)
  split at passed
  · cases passed
  rw [VaultAction.bind_eq_ok] at passed
  obtain ⟨answer, last, described, passed⟩ := passed
  rw [attempt_eq_ok] at described
  split at passed
  · cases passed
  · rename_i failure
    split at passed
    · rename_i isNotFound
      cases passed
      refine ⟨absent_of_statBlob (noted.blobs.trans kept) keyed described isNotFound, ?_⟩
      rw [callCount_of_calls (toBlobs_frame described).2, callCount_of_calls noted.calls]
      simp
    · cases passed
  · cases passed

/-! ## Removing the blob of a file that was not registered -/

/-- Whether a blob is spared because a registered file refers to it, given the fault
that the lookup of the file meets. -/
def SparesBlob (conditions : Conditions) (fault : Option Fault) (tables : Tables)
    (fileId path : String) : Prop :=
  Fault.letsThrough conditions.settings.operationTimeout fault = true ∧
    ∃ winner, tables.fileRecord fileId = .ok (some winner) ∧ winner.path = path

/-- The lookup finds the file that spares the blob, or the deletion follows. -/
theorem removeOrphan_eq :
    removeOrphan fileId path conditions before =
      match fileRecord fileId conditions conditions.settings.operationTimeout before with
      | (.ok (some winner), between) =>
          if winner.path = path then (.ok (), between)
          else detached .storageWrite (deleteBlob path) conditions between
      | (_, between) => detached .storageWrite (deleteBlob path) conditions between := by
  unfold removeOrphan
  rw [detached]
  rcases fileRecord fileId conditions conditions.settings.operationTimeout before with
    ⟨failure | _ | winner, between⟩ <;> rfl

theorem onlyRead_of_spared {answer : Except VaultError Unit}
    (spared : SparesBlob conditions (before.nextFault conditions .fileRecord) before.tables
      fileId path)
    (undone : removeOrphan fileId path conditions before = (answer, after)) :
    before.OnlyRead after := by
  obtain ⟨through, winner, registered, samePath⟩ := spared
  rcases looked : fileRecord fileId conditions conditions.settings.operationTimeout before with
    ⟨found, between⟩
  have noted := read_noted looked
  have answered := read_of_letsThrough (fun tables => tables.fileRecord fileId) through
  rw [← fileRecord, looked, registered] at answered
  cases answered
  rw [removeOrphan_eq, looked] at undone
  simp only [samePath, if_true] at undone
  cases undone
  exact noted.onlyRead (by decide)

/-- A blob that is not spared is deleted by the next call. -/
theorem deletes_of_not_spared
    (notSpared : ¬ SparesBlob conditions (before.nextFault conditions .fileRecord)
      before.tables fileId path) :
    ∃ between,
      before.Noted (.catalog .fileRecord) between ∧
        removeOrphan fileId path conditions before =
          detached .storageWrite (deleteBlob path) conditions between := by
  rcases looked : fileRecord fileId conditions conditions.settings.operationTimeout before with
    ⟨found, between⟩
  refine ⟨between, read_noted looked, ?_⟩
  rw [removeOrphan_eq, looked]
  rcases found with failure | _ | winner
  · rfl
  · rfl
  · by_cases samePath : winner.path = path
    · exfalso
      refine notSpared ⟨?_, winner, read_eq_ok looked, samePath⟩
      apply Classical.byContradiction
      intro lost
      obtain ⟨failure, failed⟩ :=
        read_of_not_letsThrough (fun tables => tables.fileRecord fileId)
          (Bool.eq_false_iff.2 lost)
      rw [← fileRecord, looked] at failed
      cases failed
    · simp only [if_neg samePath]

/-- Undoing a write puts the blobs back unless a registered file needs the new one. -/
theorem undone_of_removeOrphan {blob : StoredBlob} {answer : Except VaultError Unit}
    (kept : before.blobs = .memory (store.withBlob names blob))
    (keyed : blobKey? (Utf8.encode path) = some names)
    (absent : store.blobs.get? names = none)
    (inTime : store.latency ≤ conditions.settings.operationTimeout)
    (undone : removeOrphan fileId path conditions before = (answer, after)) :
    after.tables = before.tables ∧
      after.callCount .createFile = before.callCount .createFile ∧
      (SparesBlob conditions (before.nextFault conditions .fileRecord) before.tables
          fileId path →
        after.blobs = .memory (store.withBlob names blob)) ∧
      (¬ SparesBlob conditions (before.nextFault conditions .fileRecord) before.tables
          fileId path →
        after.blobs =
          .memory (if .delete ∈ store.failing then store.withBlob names blob else store)) := by
  by_cases spared : SparesBlob conditions (before.nextFault conditions .fileRecord)
      before.tables fileId path
  · have untouched := onlyRead_of_spared spared undone
    exact ⟨untouched.tables, untouched.registrations, fun _ => untouched.blobs kept,
      fun notSpared => absurd spared notSpared⟩
  · obtain ⟨between, noted, deletes⟩ := deletes_of_not_spared spared
    rcases deleted :
        deleteBlob path conditions conditions.settings.operationTimeout between with
      ⟨outcome, last⟩
    rw [deletes, detached, deleted] at undone
    cases undone
    have present : (store.withBlob names blob).blobs.get? names ≠ none := by
      simp [MemoryStore.withBlob, Table.get?_put]
    have blobs := deleteBlob_blobs (noted.blobs.trans kept) keyed inTime present deleted
    rw [MemoryStore.withoutBlob_withBlob absent] at blobs
    obtain ⟨sameTables, calls⟩ := toBlobs_frame deleted
    refine ⟨sameTables.trans noted.tables, ?_, fun found => absurd found spared,
      fun _ => blobs⟩
    rw [callCount_of_calls calls, callCount_of_calls noted.calls]
    simp

/-! ## Writing the blob and registering the file -/

section StoreContent

variable {file : FileRecord} {payload : ByteArray}

theorem registerFile_cases {answer : Except VaultError Unit}
    (done : registerFile file (firstVersionOf file) conditions before = (answer, after)) :
    after.blobs = before.blobs ∧ after.calls = .catalog .createFile :: before.calls ∧
      ((answer = .ok () ∧
          (afterRival file (firstVersionOf file) (before.nextFault conditions .createFile)
            before.tables).createFile file (firstVersionOf file) = (.ok (), after.tables)) ∨
        (∃ failure, answer = .error failure) ∧
          after.tables =
            afterRival file (firstVersionOf file) (before.nextFault conditions .createFile)
              before.tables) := by
  rcases called : createFile file (firstVersionOf file) conditions
    (timeLimit conditions before) before with ⟨outcome, last⟩
  obtain ⟨sameBlobs, calls, outcomes⟩ := createFile_cases called
  rw [registerFile, VaultAction.bind_apply, attempt_eq_ok.2 called] at done
  rcases outcomes with ⟨rfl, created⟩ | ⟨⟨failure, rfl⟩, changed⟩
  · cases done
    exact ⟨sameBlobs, calls, Or.inl ⟨rfl, created⟩⟩
  · have refused : last = after ∧ ∃ raised, answer = .error raised := by
      rcases failure with _ | error | error
      · cases done
        exact ⟨rfl, _, rfl⟩
      · cases error <;> cases done <;> exact ⟨rfl, _, rfl⟩
      · cases done
        exact ⟨rfl, _, rfl⟩
    obtain ⟨rfl, raised⟩ := refused
    exact ⟨sameBlobs, calls, Or.inr ⟨raised, changed⟩⟩

/-- The steps of storing content: each error undoes the write before it. -/
theorem storeContent_eq :
    storeContent file payload conditions before =
      match writeBlob file.path payload file.contentType conditions
          (timeLimit conditions before) before with
      | (.error failure, between) => (.error (.storageWrite failure), between)
      | (.ok (), between) =>
          match registerFile file (firstVersionOf file) conditions between with
          | (.ok (), after) => (.ok (), after)
          | (.error failure, last) =>
              (.error failure, (removeOrphan file.fileId file.path conditions last).2) := by
  unfold storeContent Saga.runCompensable Saga.run bounded
  rcases written : writeBlob file.path payload file.contentType conditions
    (timeLimit conditions before) before with ⟨failure | _, between⟩
  · simp only [written, raiseAs]
    rfl
  · simp only [written, raiseAs]
    rcases registerFile file (firstVersionOf file) conditions between with ⟨failure | _, last⟩
    · rfl
    · rfl

/-- What storing new content comes to. -/
inductive Stored (conditions : Conditions) (file : FileRecord) (payload : ByteArray)
    (before : World) (store : MemoryStore) (names : List PathName) :
    Except VaultError Unit → World → Prop
  | refused {failure : VaultError} {after : World} (untouched : before.OnlyRead after) :
      Stored conditions file payload before store names (.error failure) after
  | undone {failure : VaultError} {after : World}
      (counted : after.callCount .createFile = before.callCount .createFile + 1)
      (tables :
        after.tables =
          afterRival file (firstVersionOf file) (before.nextFault conditions .createFile)
            before.tables)
      (spared :
        SparesBlob conditions (before.nextFault conditions .fileRecord) after.tables
            file.fileId file.path →
          after.blobs =
            .memory
              (store.withBlob names ⟨payload, some file.contentType, conditions.now⟩))
      (notSpared :
        ¬ SparesBlob conditions (before.nextFault conditions .fileRecord) after.tables
            file.fileId file.path →
          after.blobs =
            .memory
              (if .delete ∈ store.failing then
                store.withBlob names ⟨payload, some file.contentType, conditions.now⟩
              else store)) :
      Stored conditions file payload before store names (.error failure) after
  | registered {after : World}
      (created :
        (afterRival file (firstVersionOf file) (before.nextFault conditions .createFile)
            before.tables).createFile file (firstVersionOf file) = (.ok (), after.tables))
      (blobs :
        after.blobs =
          .memory (store.withBlob names ⟨payload, some file.contentType, conditions.now⟩)) :
      Stored conditions file payload before store names (.ok ()) after

/-- Storing new content has one of three outcomes. -/
theorem stored_of_storeContent {outcome : Except VaultError Unit}
    (kept : before.blobs = .memory store)
    (keyed : blobKey? (Utf8.encode file.path) = some names)
    (absent : store.blobs.get? names = none)
    (done : storeContent file payload conditions before = (outcome, after)) :
    Stored conditions file payload before store names outcome after := by
  rw [storeContent_eq] at done
  rcases wrote : writeBlob file.path payload file.contentType conditions
    (timeLimit conditions before) before with ⟨answer, between⟩
  rw [wrote] at done
  obtain ⟨sameTables, writeCalls⟩ := toBlobs_frame wrote
  rcases writeBlob_cases kept keyed wrote with
    ⟨rfl, inTime, written⟩ | ⟨⟨failure, rfl⟩, unwritten⟩
  · have inFull : store.latency ≤ conditions.settings.operationTimeout := by
      refine Nat.le_trans inTime ?_
      unfold timeLimit
      split
      · exact Nat.le_refl _
      · exact Nat.min_le_left _ _
    rcases registered : registerFile file (firstVersionOf file) conditions between with
      ⟨answer, last⟩
    simp only [registered] at done
    obtain ⟨sameBlobs, registerCalls, outcomes⟩ := registerFile_cases registered
    rw [nextFault_of_calls writeCalls (by simp), sameTables] at outcomes
    rcases outcomes with ⟨rfl, created⟩ | ⟨⟨failure, rfl⟩, changed⟩
    · cases done
      exact Stored.registered created (sameBlobs.trans written)
    · rcases undone : removeOrphan file.fileId file.path conditions last with ⟨answer, final⟩
      simp only [undone] at done
      cases done
      obtain ⟨finalTables, finalCount, spared, notSpared⟩ :=
        undone_of_removeOrphan (sameBlobs.trans written) keyed absent inFull undone
      rw [nextFault_of_calls registerCalls (by simp), nextFault_of_calls writeCalls (by simp),
        ← finalTables] at spared notSpared
      refine Stored.undone ?_ (finalTables.trans changed) spared notSpared
      rw [finalCount, callCount_of_calls registerCalls, callCount_of_calls writeCalls]
      simp
  · cases done
    refine Stored.refused ⟨sameTables, ?_, ?_⟩
    · intro other inMemory
      rw [kept] at inMemory
      cases inMemory
      exact unwritten
    · rw [callCount_of_calls writeCalls]
      simp

end StoreContent

/-! ## Attaching tags -/

/-- Tags are attached as a whole, or else a warning says that none were. -/
theorem attachUploadTags_cases {tags : List String} {warnings : List UploadWarning}
    (done : attachUploadTags fileId tags conditions before = (.ok warnings, after)) :
    after.blobs = before.blobs ∧
      ((warnings = [] ∧
          ∃ linked, before.tables.attachTags fileId tags = (.ok linked, after.tables)) ∨
        (warnings ≠ [] ∧ after.tables = before.tables)) := by
  unfold attachUploadTags at done
  split at done
  · rename_i noTags
    subst noTags
    cases done
    exact ⟨rfl, Or.inl ⟨rfl, [], rfl⟩⟩
  rw [VaultAction.bind_eq_ok] at done
  obtain ⟨answer, between, called, done⟩ := done
  rw [attempt_eq_ok] at called
  obtain ⟨sameBlobs, _, ⟨linked, isAnswer, committed⟩ | ⟨⟨failure, isAnswer⟩, same⟩⟩ :=
    change_outcome Work.transaction_of_error called
  · rw [isAnswer] at done
    cases done
    exact ⟨sameBlobs, Or.inl ⟨rfl, linked, committed⟩⟩
  · rw [isAnswer] at done
    cases done
    exact ⟨sameBlobs, Or.inr ⟨by simp, same⟩⟩

theorem attachUploadTags_ne_error {tags : List String} {failure : VaultError} :
    attachUploadTags fileId tags conditions before ≠ (.error failure, after) := by
  intro done
  unfold attachUploadTags at done
  split at done
  · cases done
  · rw [VaultAction.bind_apply] at done
    rcases called : attempt (attachTags fileId tags) conditions before with
      ⟨reason | answer | linked, between⟩
    · cases called
    · rw [called] at done
      cases done
    · rw [called] at done
      cases done

/-! ## Whole uploads -/

section Upload

variable {request : UploadRequest} {fileName : String}

/-- The key under which an upload stores its payload. -/
def uploadKey (request : UploadRequest) (now : Timestamp) : List PathName :=
  storageKey request.owner now (fileIdOf request.payload)

/-- The blob that an upload stores. -/
def uploadedBlob (request : UploadRequest) (fileName : String) (now : Timestamp) :
    StoredBlob :=
  ⟨request.payload, some (uploadedFile request fileName now).contentType, now⟩

theorem safeOwner_of_checkUpload {settings : VaultSettings}
    (checked : checkUpload settings request = .ok fileName) :
    isSafeOwner request.owner = true := by
  unfold checkUpload at checked
  split at checked
  · cases checked
  · rename_i safe
    simpa using safe

theorem blobKey?_uploadedFile {settings : VaultSettings}
    (checked : checkUpload settings request = .ok fileName) (now : Timestamp) :
    blobKey? (Utf8.encode (uploadedFile request fileName now).path) =
      some (uploadKey request now) :=
  blobKey?_storagePath now (safeOwner_of_checkUpload checked)
    (fileIdOf_isContentAddress request.payload)

/-- An upload that passed all checks. -/
structure FreshUpload (conditions : Conditions) (request : UploadRequest) (before : World)
    (store : MemoryStore) (fileName : String) : Prop where
  checked : checkUpload conditions.settings request = .ok fileName
  new : before.tables.hasFile (fileIdOf request.payload) = false
  absent : store.blobs.get? (uploadKey request conditions.now) = none

/-- The tables in which an upload registers its file. -/
def tablesForUpload (conditions : Conditions) (request : UploadRequest) (before : World)
    (fileName : String) : Tables :=
  afterRival (uploadedFile request fileName conditions.now)
    (firstVersionOf (uploadedFile request fileName conditions.now))
    (before.nextFault conditions .createFile) before.tables

/-- Whether a failed upload leaves its blob because a registered file refers to it.
The lookup of the file is the second one of the upload. -/
def SparesUpload (conditions : Conditions) (request : UploadRequest) (before after : World) :
    Prop :=
  SparesBlob conditions (conditions.faults .fileRecord (before.callCount .fileRecord + 1))
    after.tables (fileIdOf request.payload)
    (storagePath request.owner conditions.now (fileIdOf request.payload))

/-- What an upload comes to. -/
inductive UploadOutcome (conditions : Conditions) (request : UploadRequest)
    (before : World) (store : MemoryStore) : Except VaultError UploadReceipt → World → Prop
  | refused {failure : VaultError} {after : World} (untouched : before.OnlyRead after) :
      UploadOutcome conditions request before store (.error failure) after
  | undone {fileName : String} {failure : VaultError} {after : World}
      (fresh : FreshUpload conditions request before store fileName)
      (counted : after.callCount .createFile = before.callCount .createFile + 1)
      (tables : after.tables = tablesForUpload conditions request before fileName)
      (spared : SparesUpload conditions request before after →
        after.blobs =
          .memory
            (store.withBlob (uploadKey request conditions.now)
              (uploadedBlob request fileName conditions.now)))
      (notSpared : ¬ SparesUpload conditions request before after →
        after.blobs =
          .memory
            (if .delete ∈ store.failing then
              store.withBlob (uploadKey request conditions.now)
                (uploadedBlob request fileName conditions.now)
            else store)) :
      UploadOutcome conditions request before store (.error failure) after
  | committed {fileName : String} {receipt : UploadReceipt} {registered after : World}
      (fresh : FreshUpload conditions request before store fileName)
      (created :
        (tablesForUpload conditions request before fileName).createFile
            (uploadedFile request fileName conditions.now)
            (firstVersionOf (uploadedFile request fileName conditions.now)) =
          (.ok (), registered.tables))
      (blobs :
        registered.blobs =
          .memory
            (store.withBlob (uploadKey request conditions.now)
              (uploadedBlob request fileName conditions.now)))
      (tagged :
        attachUploadTags (fileIdOf request.payload) (parseTags request.tags) conditions
            registered = (.ok receipt.warnings, after)) :
      UploadOutcome conditions request before store (.ok receipt) after

/-- The steps of an upload after its request was accepted. -/
def uploadAccepted (request : UploadRequest) (file : FileRecord) : VaultAction UploadReceipt := do
  ensureUnique file.fileId file.path
  storeContent file request.payload
  let warnings ← attachUploadTags file.fileId (parseTags request.tags)
  return {
    fileId := file.fileId
    fileName := file.fileName
    contentType := file.contentType
    size := file.size
    version := 1
    warnings }

theorem upload_eq :
    upload request conditions before =
      match checkUpload conditions.settings request with
      | .ok fileName =>
          uploadAccepted request (uploadedFile request fileName conditions.now) conditions before
      | .error failure => (.error failure, before) := by
  unfold upload upload.liftExcept
  rw [VaultAction.bind_apply]
  change (_ >>= _ : VaultAction UploadReceipt) conditions before = _
  rw [VaultAction.bind_apply]
  rcases checkUpload conditions.settings request with failure | fileName
  · rfl
  · rfl

/-- Every upload has one of three outcomes. -/
theorem uploadOutcome_of_upload {outcome : Except VaultError UploadReceipt}
    (kept : before.blobs = .memory store)
    (done : upload request conditions before = (outcome, after)) :
    UploadOutcome conditions request before store outcome after := by
  rw [upload_eq] at done
  rcases checked : checkUpload conditions.settings request with failure | fileName
  · rw [checked] at done
    cases done
    exact UploadOutcome.refused (refl_of OnlyRead before)
  rw [checked] at done
  change uploadAccepted request _ conditions before = _ at done
  have keyed := blobKey?_uploadedFile checked conditions.now
  have looked : before.OnlyRead
      (ensureUnique (uploadedFile request fileName conditions.now).fileId
        (uploadedFile request fileName conditions.now).path conditions before).2 :=
    within_ensureUnique (onlyRead_allowsLookups conditions) before
  rw [uploadAccepted, VaultAction.bind_apply] at done
  rcases passed : ensureUnique (uploadedFile request fileName conditions.now).fileId
    (uploadedFile request fileName conditions.now).path conditions before with
    ⟨failure | _, between⟩
  · rw [passed] at done looked
    cases done
    exact UploadOutcome.refused looked
  rw [passed] at done looked
  obtain ⟨new, absent, lookups⟩ := new_of_ensureUnique kept keyed passed
  have fresh : FreshUpload conditions request before store fileName := ⟨checked, new, absent⟩
  have registerFault :
      between.nextFault conditions .createFile = before.nextFault conditions .createFile := by
    rw [nextFault, nextFault, looked.registrations]
  have lookupFault :
      between.nextFault conditions .fileRecord =
        conditions.faults .fileRecord (before.callCount .fileRecord + 1) := by
    rw [nextFault, lookups]
  simp only [VaultAction.bind_apply] at done
  rcases stored : storeContent (uploadedFile request fileName conditions.now) request.payload
    conditions between with ⟨failure | _, last⟩
  · rw [stored] at done
    cases done
    rcases stored_of_storeContent (looked.blobs kept) keyed absent stored with
      untouched | ⟨counted, tables, spared, notSpared⟩
    · exact UploadOutcome.refused (trans_of OnlyRead looked untouched)
    · rw [registerFault, looked.tables] at tables
      rw [lookupFault] at spared notSpared
      rw [looked.registrations] at counted
      exact UploadOutcome.undone fresh counted tables spared notSpared
  · rw [stored] at done
    rcases stored_of_storeContent (looked.blobs kept) keyed absent stored with
      _ | _ | ⟨created, blobs⟩
    rw [registerFault, looked.tables] at created
    rcases tagged : attachUploadTags (uploadedFile request fileName conditions.now).fileId
      (parseTags request.tags) conditions last with ⟨failure | warnings, final⟩
    · exact absurd tagged attachUploadTags_ne_error
    · simp only [tagged] at done
      cases done
      exact UploadOutcome.committed fresh created blobs tagged

end Upload

/-! ## A first upload -/

/-- A vault in which nothing has been stored, over a given blob store. -/
def emptyVault (store : MemoryStore) : World := ⟨.empty, .memory store, 0, []⟩

/-- A moment in May 2024. -/
def firstMoment : Timestamp :=
  { Timestamp.epoch with seconds := 1715000000, seconds_inRange := by decide }

/-- Conditions without a deadline, in which the catalog shows given faults. -/
def conditionsWith (faults : CatalogCall → Nat → Option Fault) : Conditions :=
  ⟨.default, none, firstMoment, faults⟩

/-- A short text with two tags. -/
def firstUpload : UploadRequest :=
  ⟨"alice", "notes.md", none, none, "work, home", "", "hello".toUTF8⟩

end ContentVault.Vault
