import ContentVault.Proofs.Vault.Integrity

/-!
# Content is registered once

Over every run of operations from empty tables, whatever faults and rivals it meets,

* of all uploads of the same bytes at most one is accepted;
* every later one is refused as a duplicate as soon as the catalog is heard, whoever
  sends it and whatever has become of the file since.
-/

namespace ContentVault

open World StoreRequest

namespace Vault

variable {conditions : Conditions} {before after : World} {request : UploadRequest}

/-- An upload that succeeds registers a file that was unknown before. -/
theorem hasFile_of_upload {receipt : UploadReceipt}
    (done : upload request conditions before = (.ok receipt, after)) :
    before.tables.hasFile (fileIdOf request.payload) = false ∧
      after.tables.hasFile (fileIdOf request.payload) = true := by
  rw [upload_eq] at done
  rcases accepted : checkUpload conditions.settings request with failure | fileName
  · rw [accepted] at done
    cases done
  rw [accepted] at done
  change uploadAccepted request _ conditions before = _ at done
  rw [uploadAccepted, VaultAction.bind_eq_ok] at done
  obtain ⟨_, between, passed, done⟩ := done
  rw [VaultAction.bind_eq_ok] at done
  obtain ⟨_, registered, stored, done⟩ := done
  rw [VaultAction.bind_eq_ok] at done
  obtain ⟨warnings, last, tagged, done⟩ := done
  cases done
  refine ⟨unknown_of_ensureUnique passed, ?_⟩
  rcases tables_of_storeContent stored with ⟨_, created⟩ | ⟨⟨failure, failed⟩, _⟩
  · have live := liveFile?_of_registered rfl created
    have evolves := related_attachUploadTags (evolves_respectsCommits conditions) live
      request.tags
    rw [tagged] at evolves
    obtain ⟨row, member, sameFile, _⟩ := Tables.liveFile?_ne_none_iff.1 live
    exact evolves.hasFile (Tables.hasFile_eq_true_iff.2 ⟨row, member, sameFile⟩)
  · cases failed

/-- Content that is registered already is refused by the first call, if the catalog is
heard. -/
theorem upload_of_known (conditions : Conditions) {fileName : String}
    (accepted : checkUpload conditions.settings request = .ok fileName)
    (sound : before.tables.Sound)
    (known : before.tables.hasFile (fileIdOf request.payload) = true)
    (heard : Fault.letsThrough (timeLimit conditions before)
      (before.nextFault conditions .fileRecord) = true) :
    ∃ after,
      before.Noted (.catalog .fileRecord) after ∧
        upload request conditions before =
          (.error (.duplicateContent (fileIdOf request.payload) none), after) := by
  obtain ⟨row, isFile⟩ : ∃ row, before.tables.file? (fileIdOf request.payload) = some row := by
    refine Option.ne_none_iff_exists'.1 fun unknown => ?_
    rw [Tables.file?_eq_none_iff, known] at unknown
    cases unknown
  obtain ⟨file, decoded⟩ := (sound.files row (Tables.mem_of_file?_eq_some isFile).1).toRecord_eq_ok
  have answered := read_of_letsThrough
    (fun tables => tables.fileRecord (fileIdOf request.payload)) heard
  rw [Tables.fileRecord_eq_some.2 ⟨row, isFile, decoded⟩] at answered
  rcases looked : fileRecord (fileIdOf request.payload) conditions (timeLimit conditions before)
    before with ⟨outcome, after⟩
  rw [← fileRecord, looked] at answered
  cases answered
  refine ⟨after, read_noted looked, ?_⟩
  have refused : ensureUnique (uploadedFile request fileName conditions.now).fileId
      (uploadedFile request fileName conditions.now).path conditions before =
        (.error (.duplicateContent (fileIdOf request.payload) none), after) := by
    change ensureUnique (fileIdOf request.payload) _ conditions before = _
    rw [ensureUnique, VaultAction.bind_apply, bounded_eq_ok.2 looked]
    rfl
  rw [upload_eq, accepted]
  dsimp only
  rw [uploadAccepted, VaultAction.bind_apply, refused]

end Vault

/-- Whether an operation is an upload of given bytes that succeeds. -/
def ScheduledOperation.accepts (scheduled : ScheduledOperation) (payload : ByteArray)
    (world : World) : Bool :=
  match scheduled.operation, (scheduled.perform world).1 with
  | .upload request, .ok _ => request.payload.data = payload.data
  | _, _ => false

/-- How many uploads of given bytes succeed in a run. -/
def acceptedUploads (payload : ByteArray) : List ScheduledOperation → World → Nat
  | [], _ => 0
  | scheduled :: rest, world =>
      (scheduled.accepts payload world).toNat +
        acceptedUploads payload rest (scheduled.perform world).2

namespace ScheduledOperation

variable {scheduled : ScheduledOperation} {request : UploadRequest}

theorem perform_upload (isUpload : scheduled.operation = .upload request) (world : World) :
    scheduled.perform world =
      ((Vault.upload request (scheduled.conditionsAt world) world).1.map .upload,
        (Vault.upload request (scheduled.conditionsAt world) world).2) := by
  change scheduled.operation.perform (scheduled.conditionsAt world) world = _
  rw [isUpload, Operation.perform, VaultAction.map_apply]

/-- An upload that succeeds makes unknown content known. -/
theorem hasFile_of_accepts {payload : ByteArray} {world : World}
    (accepted : scheduled.accepts payload world = true) :
    world.tables.hasFile (fileIdOf payload) = false ∧
      (scheduled.perform world).2.tables.hasFile (fileIdOf payload) = true := by
  unfold accepts at accepted
  split at accepted
  · rename_i request answer isUpload succeeded
    obtain rfl : request.payload = payload := ByteArray.ext (of_decide_eq_true accepted)
    rw [perform_upload isUpload] at succeeded ⊢
    rcases done : Vault.upload request (scheduled.conditionsAt world) world with
      ⟨failure | receipt, after⟩
    · rw [done] at succeeded
      cases succeeded
    · exact Vault.hasFile_of_upload done
  · cases accepted

end ScheduledOperation

/-- An accepted upload makes the content known, and known it stays. -/
theorem acceptedUploads_add_le (payload : ByteArray) (schedule : List ScheduledOperation)
    (start : World) :
    acceptedUploads payload schedule start +
        (start.tables.hasFile (fileIdOf payload)).toNat ≤
      ((runOperations schedule start).tables.hasFile (fileIdOf payload)).toNat := by
  -- Whether the content is known counts as a number: it grows with the first accepted
  -- upload, and no operation lowers it.
  induction schedule generalizing start with
  | nil =>
      exact Nat.le_of_eq (Nat.zero_add _)
  | cons scheduled rest inductionHypothesis =>
      have onward := inductionHypothesis (scheduled.perform start).2
      rw [acceptedUploads, runOperations]
      rcases accepted : scheduled.accepts payload start
      · have evolves : start.tables.Evolves (scheduled.perform start).2.tables :=
          Operation.tablesRelated (evolves_respectsCommits (scheduled.conditionsAt start))
            scheduled.operation start
        rcases known : start.tables.hasFile (fileIdOf payload)
        · simp only [Bool.toNat_false]
          omega
        · rw [evolves.hasFile known] at onward
          simpa using onward
      · obtain ⟨unknown, known⟩ := ScheduledOperation.hasFile_of_accepts accepted
        rw [known] at onward
        rw [unknown]
        simpa [Nat.add_comm] using onward

/-- Content is registered once: of all uploads of the same bytes at most one is ever
accepted, and after it every upload of these bytes that is valid and whose lookup is
answered is refused as a duplicate and changes neither store. -/
theorem content_registered_once (payload : ByteArray) (schedule : List ScheduledOperation)
    (start : World) (emptyTables : start.tables = Tables.empty) :
    acceptedUploads payload schedule start ≤ 1 ∧
      (acceptedUploads payload schedule start = 1 →
        ∀ (next : ScheduledOperation) (request : UploadRequest) (fileName : String),
          next.operation = .upload request → request.payload = payload →
          Vault.checkUpload next.settings request = .ok fileName →
          Fault.letsThrough
              (Vault.timeLimit (next.conditionsAt (runOperations schedule start))
                (runOperations schedule start))
              (next.faults .fileRecord
                ((runOperations schedule start).callCount .fileRecord)) = true →
            ∃ after,
              next.perform (runOperations schedule start) =
                  (.error (.duplicateContent (fileIdOf payload) none), after) ∧
                after.tables = (runOperations schedule start).tables ∧
                after.blobs = (runOperations schedule start).blobs) := by
  have counted := acceptedUploads_add_le payload schedule start
  have atMost := Bool.toNat_le ((runOperations schedule start).tables.hasFile (fileIdOf payload))
  refine ⟨by omega, ?_⟩
  rintro once next request fileName isUpload rfl accepted heard
  have known : (runOperations schedule start).tables.hasFile (fileIdOf request.payload) = true := by
    by_contra unknown
    rw [Bool.not_eq_true] at unknown
    rw [unknown, Bool.toNat_false] at counted
    omega
  have sound := sound_runOperations schedule start (emptyTables ▸ Tables.sound_empty)
  obtain ⟨after, noted, refused⟩ :=
    Vault.upload_of_known (next.conditionsAt _) accepted sound known heard
  refine ⟨after, ?_, noted.tables, noted.blobs⟩
  rw [ScheduledOperation.perform_upload isUpload, refused]
  rfl

/-- An upload whose file is deleted afterwards. -/
def discardedUpload : List ScheduledOperation :=
  [undisturbed (.upload Vault.firstUpload),
    undisturbed (.delete (fileIdOf Vault.firstUpload.payload))]

/-- Somebody else's upload of content that was deleted is a duplicate. -/
theorem discarded_content_stays_registered :
    (Vault.emptyVault .empty).tables = Tables.empty ∧
      acceptedUploads Vault.firstUpload.payload discardedUpload (Vault.emptyVault .empty) = 1 ∧
      ∃ after,
        (undisturbed (.upload { Vault.firstUpload with owner := "bob" })).perform
            (runOperations discardedUpload (Vault.emptyVault .empty)) =
          (.error (.duplicateContent (fileIdOf Vault.firstUpload.payload) none), after) := by
  have once : acceptedUploads Vault.firstUpload.payload discardedUpload
      (Vault.emptyVault .empty) = 1 := by
    decide +kernel
  have isName : (Vault.checkUpload VaultSettings.default
      { Vault.firstUpload with owner := "bob" }).toOption = some "notes.md" := by
    decide +kernel
  refine ⟨rfl, once, ?_⟩
  rcases accepted : Vault.checkUpload VaultSettings.default
    { Vault.firstUpload with owner := "bob" } with failure | fileName
  · rw [accepted] at isName
    cases isName
  · have refused := (content_registered_once Vault.firstUpload.payload discardedUpload
      (Vault.emptyVault .empty) rfl).2 once
      (undisturbed (.upload { Vault.firstUpload with owner := "bob" }))
      { Vault.firstUpload with owner := "bob" } fileName rfl rfl accepted rfl
    exact refused.imp fun _ found => found.1

end ContentVault
