import ContentVault.Proofs.Vault.Operations
import ContentVault.Proofs.Vault.Timing

/-!
# Deadlines

What a deadline changes for operations, and what it does not.

* an operation that succeeds without a warning has had every call answered, so that it
  does the same if it is given more time;
* no call waits longer than the settings allow, and none that starts before the deadline
  waits beyond it, but for those that clean up after an upload that failed.
-/

namespace ContentVault

open StoreRequest

/-! ## Lookups -/

namespace Vault

open VaultAction

variable {early late : Conditions} (more : early.LeavesTime late)
  {excused : World → World → Prop}

section Operations

variable {α : Type} {expects : α → Prop}

include more

/-- A query of the catalog. -/
theorem keepsTime_read {call : CatalogCall} {run : Tables → Except CatalogError α}
    {raise : StoreFailure → VaultError} :
    KeepsTime early late excused expects (bounded raise (read call run)) :=
  KeepsTime.bounded more (.read call run)

theorem keepsTime_change {call : CatalogCall} {run : Tables → Except CatalogError α × Tables}
    {raise : StoreFailure → VaultError} :
    KeepsTime early late excused expects (bounded raise (change call run)) :=
  KeepsTime.bounded more (.change call run)

theorem keepsTime_toBlobs {operation : BlobOperation} {path : String}
    {run : List UInt8 → Timestamp → BlobStore → Except BlobError α × BlobStore}
    {raise : StoreFailure → VaultError} :
    KeepsTime early late excused expects (bounded raise (toBlobs operation path run)) :=
  KeepsTime.bounded more (.toBlobs operation path run)

end Operations

section Lookups

include more

theorem keepsTime_liveFile {expects : FileRecord → Prop} (fileId : String) :
    KeepsTime early late excused expects (liveFile fileId) := by
  refine KeepsTime.bind (keepsTime_read more) fun found => ?_
  split
  · exact .pure _
  · exact .throw _

theorem keepsTime_resolveCurrent {expects : Resolved → Prop} (file : FileRecord) :
    KeepsTime early late excused expects (resolveCurrent file) :=
  KeepsTime.bind (keepsTime_read more) fun _ => .pure _

theorem keepsTime_resolveNumber {expects : Resolved → Prop} (file : FileRecord)
    (number : Int) : KeepsTime early late excused expects (resolveNumber file number) := by
  unfold resolveNumber
  split
  · exact .throw _
  · refine KeepsTime.bind (keepsTime_read more) fun found => ?_
    split
    · exact .throw _
    · exact .pure _

theorem keepsTime_resolveIn {expects : Resolved → Prop} (file : FileRecord)
    (selector : Option Int) :
    KeepsTime early late excused expects (resolveIn file selector) := by
  unfold resolveIn
  split
  · exact keepsTime_resolveCurrent more file
  · split
    · exact keepsTime_resolveNumber more file _
    · exact keepsTime_resolveCurrent more file

theorem keepsTime_resolve {expects : Resolved → Prop} (fileId : String)
    (selector : Option Int) :
    KeepsTime early late excused expects (resolve fileId selector) :=
  KeepsTime.bind (keepsTime_liveFile more fileId) fun file =>
    keepsTime_resolveIn more file selector

theorem keepsTime_download {expects : Download → Prop} (fileId : String)
    (selector : Option Int) :
    KeepsTime early late excused expects (download fileId selector) :=
  KeepsTime.bind (keepsTime_liveFile more fileId) fun file =>
    KeepsTime.bind (keepsTime_resolveIn more file selector) fun _ =>
      KeepsTime.bind (keepsTime_toBlobs more) fun _ => .pure _

theorem keepsTime_metadata {expects : FileMetadata → Prop} (fileId : String)
    (selector : Option Int) :
    KeepsTime early late excused expects (metadata fileId selector) :=
  KeepsTime.bind (keepsTime_liveFile more fileId) fun file =>
    KeepsTime.bind (keepsTime_resolveIn more file selector) fun _ =>
      KeepsTime.bind (keepsTime_read more) fun _ => .pure _

theorem keepsTime_versions {expects : List VersionInfo → Prop} (fileId : String) :
    KeepsTime early late excused expects (versions fileId) :=
  KeepsTime.bind (keepsTime_liveFile more fileId) fun _ =>
    KeepsTime.bind (keepsTime_read more) fun _ => .pure _

theorem keepsTime_version {expects : VersionRecord → Prop} (fileId : String) (number : Int) :
    KeepsTime early late excused expects (version fileId number) := by
  by_cases positive : number ≤ 0
  · rw [version_of_not_positive positive]
    exact .throw _
  · unfold version
    rw [if_neg positive]
    split
    · exact .throw _
    · refine KeepsTime.bind (keepsTime_read more) fun found => ?_
      split
      · exact .pure _
      · exact .throw _

theorem keepsTime_compareContent {expects : Bool × Option LineChanges → Prop}
    (old new : VersionRecord) :
    KeepsTime early late excused expects (compareContent old new) := by
  have both : ∀ convert : ByteArray → ByteArray → Bool × Option LineChanges,
      KeepsTime early late excused expects (do
        let old ← blobContent old.path
        let new ← blobContent new.path
        return convert old new) := fun convert =>
    KeepsTime.bind (keepsTime_toBlobs more) fun _ =>
      KeepsTime.bind (keepsTime_toBlobs more) fun _ => .pure _
  unfold compareContent
  dsimp only
  split
  · exact .pure _
  · split
    · exact both _
    · split
      · exact both _
      · exact .pure _

theorem keepsTime_diff {expects : VersionDiff → Prop} (fileId : String)
    (fromNumber toNumber : Int) :
    KeepsTime early late excused expects (diff fileId fromNumber toNumber) :=
  KeepsTime.bind (keepsTime_liveFile more fileId) fun _ =>
    KeepsTime.bind (keepsTime_version more fileId fromNumber) fun old =>
      KeepsTime.bind (keepsTime_version more fileId toNumber) fun new =>
        KeepsTime.bind (keepsTime_compareContent more old new) fun _ => .pure _

theorem keepsTime_listMatching {expects : Listing → Prop} (request : ListRequest)
    (tagId : Option String) :
    KeepsTime early late excused expects (listMatching request tagId) := by
  refine KeepsTime.bind (keepsTime_read more) fun found => ?_
  split
  · exact .pure _
  · exact KeepsTime.bind (keepsTime_read more) fun _ => .pure _

theorem keepsTime_list {expects : Listing → Prop} (request : ListRequest) :
    KeepsTime early late excused expects (list request) := by
  unfold list
  split
  · exact keepsTime_listMatching more request none
  · refine KeepsTime.bind (keepsTime_read more) fun found => ?_
    split
    · exact keepsTime_listMatching more request _
    · exact .pure _

end Lookups

/-! ## Changes -/

section Changes

include more

theorem keepsTime_delete {expects : Unit → Prop} (fileId : String) :
    KeepsTime early late excused expects (delete fileId) := by
  unfold delete
  refine KeepsTime.bind (KeepsTime.wallClock more) fun now => ?_
  refine KeepsTime.bind (keepsTime_change more) fun trashed => ?_
  split
  · exact .throw _
  · exact .pure _

theorem keepsTime_batchDelete {expects : BatchDeletion → Prop} (fileIds : List String) :
    KeepsTime early late excused expects (batchDelete fileIds) := by
  unfold batchDelete
  dsimp only
  split
  · exact .throw_bind _ _
  · refine KeepsTime.bind (KeepsTime.wallClock more) fun now => ?_
    exact KeepsTime.bind (keepsTime_change more) fun _ => .pure _

theorem keepsTime_updateMetadata {expects : FileMetadata → Prop} (fileId : String)
    (update : MetadataUpdate) :
    KeepsTime early late excused expects (updateMetadata fileId update) := by
  unfold updateMetadata
  split
  · exact .throw _
  · refine KeepsTime.bind (KeepsTime.wallClock more) fun now => ?_
    refine KeepsTime.bind (keepsTime_change more) fun updated => ?_
    split
    · exact .throw_bind _ _
    · exact keepsTime_metadata more fileId none

omit more in
theorem keepsTime_nextNumber {expects : UInt32 → Prop} (number : UInt32) :
    KeepsTime early late excused expects (nextNumber number) := by
  unfold nextNumber
  split
  · exact .pure _
  · exact .throw _

/-- An attempt at a revert hands on how the last call was answered, if it was. -/
theorem keepsTime_revertOnce (fileId : String) (target : UInt32) :
    KeepsTime early late excused (· ≠ .error .timedOut) (revertOnce fileId target) := by
  refine KeepsTime.bind (keepsTime_liveFile more fileId) fun file => ?_
  refine KeepsTime.bind (keepsTime_read more) fun found => ?_
  split
  · exact .throw _
  · refine KeepsTime.bind (keepsTime_nextNumber file.currentVersion) fun number => ?_
    refine KeepsTime.bind (KeepsTime.wallClock more) fun now => ?_
    exact (KeepsTime.attempt more (.change _ _)).bind_of_answered
      (.pure fun answered => answered rfl) fun outcome => .pure _

theorem keepsTime_revertWithin {expects : RevertReceipt → Prop} (fileId : String)
    (target : UInt32) (again : Nat) :
    KeepsTime early late excused expects (revertWithin fileId target again) := by
  induction again with
  | zero =>
      refine (keepsTime_revertOnce more fileId target).bind_of_answered (.throw _)
        fun outcome => ?_
      split
      · exact .pure _
      · exact .throw _
  | succ again inductionHypothesis =>
      refine (keepsTime_revertOnce more fileId target).bind_of_answered (.throw _)
        fun outcome => ?_
      split
      · exact .pure _
      · exact inductionHypothesis
      · exact .throw _

theorem keepsTime_revert {expects : RevertReceipt → Prop} (fileId : String) (target : Int) :
    KeepsTime early late excused expects (revert fileId target) := by
  unfold revert
  split
  · exact .throw _
  · split
    · exact .throw _
    · exact keepsTime_revertWithin more fileId _ _

end Changes

/-! ## Uploads -/

section Uploads

include more

theorem keepsTime_ensureUnique {expects : Unit → Prop} (fileId path : String) :
    KeepsTime early late excused expects (ensureUnique fileId path) := by
  refine KeepsTime.bind (keepsTime_read more) fun existing => ?_
  split
  · exact .throw_bind _ _
  refine (KeepsTime.attempt more (.toBlobs _ _ _)).bind_of_answered (.throw _)
    fun outcome => ?_
  split
  · exact .throw _
  · split
    · exact .pure _
    · exact .throw _
  · exact .throw _

theorem keepsTime_registerFile {expects : Unit → Prop} (file : FileRecord)
    (version : VersionRecord) :
    KeepsTime early late excused expects (registerFile file version) := by
  refine (KeepsTime.attempt more (.toCatalog _ _ _)).bind_of_answered (.throw _)
    fun outcome => ?_
  split
  · exact .pure _
  · exact .throw _
  · exact .throw _

/-- Only cleaning up after a registration that failed takes no notice of the deadline. -/
theorem keepsTime_storeContent {expects : Unit → Prop} {file : FileRecord}
    (cleansUp : ∀ between,
      excused between (removeOrphan file.fileId file.path early between).2)
    (payload : ByteArray) :
    KeepsTime early late excused expects (storeContent file payload) where
  onTime := by
    intro before
    have isCall : (writeBlob file.path payload file.contentType).IsCall := .toBlobs _ _ _
    have wrote := World.punctual_of_isCall isCall early before
    rw [storeContent_eq]
    rcases written : writeBlob file.path payload file.contentType early
      (timeLimit early before) before with ⟨failure | _, between⟩
    · rw [written] at wrote
      exact .throughout (.single wrote)
    rw [written] at wrote
    -- Registering has no excuse of its own, so that cleaning up comes straight after it.
    have registers : KeepsTime early late (fun _ _ => False) (fun _ => True)
        (registerFile file (firstVersionOf file)) := keepsTime_registerFile more _ _
    have registered := registers.onTime between
    dsimp only
    generalize registerFile file (firstVersionOf file) early between = result at registered ⊢
    cases registered with
    | untilFailure _ excuse =>
        exact excuse.elim
    | @throughout outcome last run =>
        cases outcome with
        | error failure =>
            exact .untilFailure (.head wrote run) (cleansUp last)
        | ok _ =>
            exact .throughout (.head wrote run)
  unchanged := by
    intro before after _ done _
    rw [storeContent_eq] at done ⊢
    rcases written : writeBlob file.path payload file.contentType early
      (timeLimit early before) before with ⟨failure | _, between⟩
    · rw [written] at done
      cases done
    rw [written] at done
    rcases registered : registerFile file (firstVersionOf file) early between with
      ⟨failure | _, last⟩
    · simp only [registered] at done
      cases done
    simp only [registered] at done
    cases done
    -- Both steps succeeded, so nothing was cleaned up and more time changes neither.
    have writes : KeepsTime early late excused (fun _ => True)
        (bounded .storageWrite (writeBlob file.path payload file.contentType)) :=
      keepsTime_toBlobs more
    have registers : KeepsTime early late excused (fun _ => True)
        (registerFile file (firstVersionOf file)) := keepsTime_registerFile more _ _
    have writtenLate := bounded_eq_ok.1 (writes.unchanged (bounded_eq_ok.2 written) trivial)
    rw [writtenLate]
    simp only [registers.unchanged registered trivial]

/-- Tags that could not be attached in time are a warning. -/
theorem keepsTime_attachUploadTags (fileId : String) (names : List String) :
    KeepsTime early late excused (· = []) (attachUploadTags fileId names) := by
  unfold attachUploadTags
  split
  · exact .pure _
  refine (KeepsTime.attempt more (.change _ _)).bind_of_answered
    (.pure (List.cons_ne_nil _ _)) fun outcome => ?_
  split
  · exact .pure _
  · exact .pure _

theorem keepsTime_uploadAccepted {file : FileRecord}
    (cleansUp : ∀ between,
      excused between (removeOrphan file.fileId file.path early between).2)
    (request : UploadRequest) :
    KeepsTime early late excused (fun receipt => receipt.warnings = [])
      (uploadAccepted request file) :=
  KeepsTime.bind (keepsTime_ensureUnique more _ _) fun _ =>
    KeepsTime.bind (keepsTime_storeContent more cleansUp _) fun _ =>
      KeepsTime.bind_of_spoilt (keepsTime_attachUploadTags more _ _) (fun _ => .pure _)
        fun _ warned => Spoilt.pure warned

theorem keepsTime_upload {request : UploadRequest}
    (cleansUp : ∀ between,
      excused between
        (removeOrphan (fileIdOf request.payload)
          (storagePath request.owner early.now (fileIdOf request.payload)) early between).2) :
    KeepsTime early late excused (fun receipt => receipt.warnings = []) (upload request) := by
  have accepted : ∀ fileName, KeepsTime early late excused (fun receipt => receipt.warnings = [])
      (uploadAccepted request (uploadedFile request fileName early.now)) := by
    intro fileName
    refine keepsTime_uploadAccepted more (fun between => ?_) request
    exact cleansUp between
  refine ⟨fun before => ?_, fun {before after receipt} done clean => ?_⟩
  · rw [upload_eq]
    rcases checkUpload early.settings request with failure | fileName
    · exact .throughout .refl
    · exact (accepted fileName).onTime before
  · rw [upload_eq] at done ⊢
    rw [more.settings, more.now]
    rcases checked : checkUpload early.settings request with failure | fileName
    · rw [checked] at done
      cases done
    · rw [checked] at done
      exact (accepted fileName).unchanged done clean

end Uploads

end Vault

/-! ## All operations -/

/-- An answer that reports no trouble. -/
def Answer.IsClean : Answer → Prop
  | .upload receipt => receipt.warnings = []
  | _ => True

instance : DecidablePred Answer.IsClean
  | .upload receipt => inferInstanceAs (Decidable (receipt.warnings = []))
  | .download _ | .metadata _ | .resolve _ | .versions _ | .diff _ | .revert _ | .delete
  | .batchDelete _ | .list _ => isTrue trivial

/-- What an operation may do after an error without notice of the deadline: remove the blob of
a file that could not be registered. -/
def Operation.CleansUp (conditions : Conditions) : Operation → World → World → Prop
  | .upload request, between, after =>
      after = (Vault.removeOrphan (fileIdOf request.payload)
        (storagePath request.owner conditions.now (fileIdOf request.payload))
        conditions between).2
  | _, _, _ => False

theorem Operation.keepsTime {early late : Conditions} (more : early.LeavesTime late)
    (operation : Operation) :
    VaultAction.KeepsTime early late (operation.CleansUp early) Answer.IsClean
      operation.perform := by
  cases operation with
  | upload request =>
      refine VaultAction.KeepsTime.map (Vault.keepsTime_upload more fun _ => rfl) ?_
      exact fun _ clean => clean
  | download fileId selector =>
      exact (Vault.keepsTime_download more fileId selector).map fun _ clean => clean
  | metadata fileId selector =>
      exact (Vault.keepsTime_metadata more fileId selector).map fun _ clean => clean
  | resolve fileId selector =>
      exact (Vault.keepsTime_resolve more fileId selector).map fun _ clean => clean
  | versions fileId =>
      exact (Vault.keepsTime_versions more fileId).map fun _ clean => clean
  | diff fileId fromNumber toNumber =>
      exact (Vault.keepsTime_diff more fileId fromNumber toNumber).map fun _ clean => clean
  | revert fileId target =>
      exact (Vault.keepsTime_revert more fileId target).map fun _ clean => clean
  | delete fileId =>
      exact (Vault.keepsTime_delete more fileId).map fun _ clean => clean
  | batchDelete fileIds =>
      exact (Vault.keepsTime_batchDelete more fileIds).map fun _ clean => clean
  | update fileId changes =>
      exact (Vault.keepsTime_updateMetadata more fileId changes).map fun _ clean => clean
  | list request =>
      exact (Vault.keepsTime_list more request).map fun _ clean => clean

/-- More time never changes a success without a warning: answer, calls, stores and clock stay
the same.  And whatever time there is, no call waits longer than the settings allow or beyond
the deadline, but for those that clean up after an upload that failed. -/
theorem more_time_keeps_clean_successes (early : Conditions) (operation : Operation)
    (before : World) :
    (∀ late, early.LeavesTime late → ∀ answer after,
      operation.perform early before = (.ok answer, after) → answer.IsClean →
        operation.perform late before = (.ok answer, after)) ∧
      before.RunsOnTime early (operation.CleansUp early) (operation.perform early before) :=
  ⟨fun _ more _ _ done clean => (operation.keepsTime more).unchanged done clean,
    (operation.keepsTime (.refl early)).onTime before⟩

/-- An empty vault whose blobs take five milliseconds to reach. -/
def slowVault : World := Vault.emptyVault { MemoryStore.empty with latency := 5 }

/-- Conditions without faults under which calls are given up at a reading of the clock. -/
def conditionsUntil (deadline : Option Nat) : Conditions :=
  { Vault.conditionsWith noFaults with deadline }

/-- A first upload looks for the blob and writes it, which is over in time before the deadline
and succeeds alike without one. -/
theorem slow_upload_keeps_success :
    ∃ answer after,
      (Operation.upload Vault.firstUpload).perform (conditionsUntil (some 12)) slowVault =
          (.ok answer, after) ∧
        answer.IsClean ∧ after.clock = 10 ∧
        (Operation.upload Vault.firstUpload).perform (conditionsUntil none) slowVault =
          (.ok answer, after) := by
  have succeeds :
      let result :=
        (Operation.upload Vault.firstUpload).perform (conditionsUntil (some 12)) slowVault
      result.1.toOption.any (decide <| Answer.IsClean ·) = true ∧ result.2.clock = 10 := by
    decide +kernel
  have more : (conditionsUntil (some 12)).LeavesTime (conditionsUntil none) :=
    ⟨rfl, rfl, rfl, fun _ isLast => absurd isLast.symm (Option.some_ne_none _)⟩
  rcases done : (Operation.upload Vault.firstUpload).perform (conditionsUntil (some 12))
    slowVault with ⟨failure | answer, after⟩
  · rw [done] at succeeds
    cases succeeds.1
  · rw [done] at succeeds
    have clean : answer.IsClean := of_decide_eq_true succeeds.1
    have kept := (more_time_keeps_clean_successes (conditionsUntil (some 12))
      (.upload Vault.firstUpload) slowVault).1 (conditionsUntil none) more answer after done clean
    exact ⟨answer, after, rfl, clean, succeeds.2, kept⟩

end ContentVault
