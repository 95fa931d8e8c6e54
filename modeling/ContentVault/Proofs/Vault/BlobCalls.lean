import ContentVault.Proofs.Vault.Integrity

/-!
# Calls that change blobs

Whatever blob store a vault uses,

* only uploads write or delete blobs, and only under the address of content that the
  catalog has just denied to know;
* so once a file is registered, no operation writes or deletes a blob under its address
  again;
* every version of a run without rivals lies under its file's address.
-/

namespace ContentVault

open World StoreRequest

/-! ## Calls that leave a blob alone -/

/-- Between two states no call was made that writes or deletes the blob at a path. -/
def World.LeavesBlob (path : String) (before after : World) : Prop :=
  ∃ made,
    after.calls = made ++ before.calls ∧
      .blob .write path ∉ made ∧ .blob .delete path ∉ made

namespace World.LeavesBlob

variable {path : String} {before after : World}

instance : IsPreorder World (LeavesBlob path) where
  refl := fun _ => ⟨[], rfl, List.not_mem_nil, List.not_mem_nil⟩
  trans := by
    rintro first second third ⟨left, leftCalls, leftWrite, leftDelete⟩
      ⟨right, rightCalls, rightWrite, rightDelete⟩
    refine ⟨right ++ left, ?_, ?_, ?_⟩
    · rw [rightCalls, leftCalls, List.append_assoc]
    · rw [List.mem_append]
      exact not_or_intro rightWrite leftWrite
    · rw [List.mem_append]
      exact not_or_intro rightDelete leftDelete

theorem of_call {call : StoreCall} (called : after.calls = call :: before.calls)
    (noWrite : call ≠ .blob .write path) (noDelete : call ≠ .blob .delete path) :
    before.LeavesBlob path after := by
  refine ⟨[call], called, ?_, ?_⟩
  · rw [List.mem_singleton]
    exact noWrite.symm
  · rw [List.mem_singleton]
    exact noDelete.symm

theorem of_catalog {call : CatalogCall} (called : after.calls = .catalog call :: before.calls) :
    before.LeavesBlob path after :=
  of_call called (by simp) (by simp)

end World.LeavesBlob

variable {conditions : Conditions} {path : String}

theorem leavesBlob_toBlobs {α : Type} {operation : BlobOperation} {other : String}
    {run : List UInt8 → Timestamp → BlobStore → Except BlobError α × BlobStore}
    (harmless : other = path → operation ≠ .write ∧ operation ≠ .delete) :
    (toBlobs operation other run).Within (LeavesBlob path) conditions := by
  intro limit before
  rcases called : toBlobs operation other run conditions limit before with ⟨answer, after⟩
  refine LeavesBlob.of_call (toBlobs_frame called).2 ?_ ?_
  · rintro ⟨⟩
    exact (harmless rfl).1 rfl
  · rintro ⟨⟩
    exact (harmless rfl).2 rfl

theorem leavesBlob_allowsLookups (conditions : Conditions) (path : String) :
    AllowsLookups (LeavesBlob path) conditions where
  queries := fun _ _ _ _ => LeavesBlob.of_catalog (read_noted rfl).calls
  stat := fun _ => leavesBlob_toBlobs (by simp)
  opened := fun _ => leavesBlob_toBlobs (by simp)
  whole := fun _ => leavesBlob_toBlobs (by simp)

theorem leavesBlob_allowsChanges (conditions : Conditions) (path : String) :
    AllowsChanges (LeavesBlob path) conditions where
  trash := fun _ _ _ => LeavesBlob.of_catalog (change_calls _ _)
  describe := fun _ _ _ _ => LeavesBlob.of_catalog (change_calls _ _)
  append := fun _ _ _ => LeavesBlob.of_catalog (change_calls _ _)

/-! ## Uploads of other content -/

namespace Vault

variable {file : FileRecord} {request : UploadRequest} {fileId : String} {before after : World}

theorem leavesBlob_removeOrphan {other : String} (different : other ≠ path) :
    before.LeavesBlob path (removeOrphan fileId other conditions before).2 := by
  have deletes : (deleteBlob other).Within (LeavesBlob path) conditions :=
    leavesBlob_toBlobs fun same => absurd same different
  rcases looked : fileRecord fileId conditions conditions.settings.operationTimeout before with
    ⟨found, between⟩
  have asked : before.LeavesBlob path between := LeavesBlob.of_catalog (read_noted looked).calls
  rw [removeOrphan_eq, looked]
  rcases found with failure | _ | winner
  · exact trans_of (LeavesBlob path) asked (deletes _ between)
  · exact trans_of (LeavesBlob path) asked (deletes _ between)
  · dsimp only
    split
    · exact asked
    · exact trans_of (LeavesBlob path) asked (deletes _ between)

theorem leavesBlob_storeContent {payload : ByteArray} (different : file.path ≠ path)
    (before : World) :
    before.LeavesBlob path (storeContent file payload conditions before).2 := by
  rw [storeContent_eq]
  have written : before.LeavesBlob path
      (writeBlob file.path payload file.contentType conditions (timeLimit conditions before)
        before).2 :=
    leavesBlob_toBlobs (fun same => absurd same different) _ before
  rcases wrote : writeBlob file.path payload file.contentType conditions
    (timeLimit conditions before) before with ⟨failure | _, between⟩
  · rw [wrote] at written
    exact written
  rw [wrote] at written
  rcases registered : registerFile file (firstVersionOf file) conditions between with
    ⟨failure | _, last⟩
  · have asked : before.LeavesBlob path last :=
      trans_of (LeavesBlob path) written
        (LeavesBlob.of_catalog (registerFile_cases registered).2.1)
    simp only [registered]
    exact trans_of (LeavesBlob path) asked (leavesBlob_removeOrphan different)
  · simp only [registered]
    exact trans_of (LeavesBlob path) written
      (LeavesBlob.of_catalog (registerFile_cases registered).2.1)

theorem leavesBlob_attachUploadTags (tags : List String) (before : World) :
    before.LeavesBlob path (attachUploadTags fileId tags conditions before).2 := by
  unfold attachUploadTags
  split
  · exact refl_of (LeavesBlob path) before
  · refine VaultAction.Within.bind_at (LeavesBlob.of_catalog (change_calls _ _)) ?_
    intro answer between _
    split <;> exact refl_of (LeavesBlob path) between

/-- An upload of registered content is refused before it writes. -/
theorem leavesBlob_upload (known : before.tables.hasFile fileId = true)
    (other : ∀ (fileName : String), fileIdOf request.payload ≠ fileId →
      (uploadedFile request fileName conditions.now).path ≠ path) :
    before.LeavesBlob path (upload request conditions before).2 := by
  rw [upload_eq]
  rcases checkUpload conditions.settings request with failure | fileName
  · exact refl_of (LeavesBlob path) before
  refine VaultAction.Within.bind_at
    (within_ensureUnique (leavesBlob_allowsLookups conditions path) before) ?_
  intro _ between passed
  have different : fileIdOf request.payload ≠ fileId := by
    rintro rfl
    have unknown : before.tables.hasFile (fileIdOf request.payload) = false :=
      unknown_of_ensureUnique passed
    rw [known] at unknown
    cases unknown
  refine VaultAction.Within.bind_at
    (leavesBlob_storeContent (other fileName different) between) ?_
  intro _ registered _
  refine VaultAction.Within.bind_at (leavesBlob_attachUploadTags _ registered) ?_
  exact fun _ => refl_of (LeavesBlob path) _

end Vault

/-! ## Addresses -/

/-- A version under a path that ends in the address of its file. -/
structure VersionRow.IsAddressed (row : VersionRow) : Prop where
  address : IsContentAddress row.fileId
  named : ∃ folder, row.path = folder ++ "/" ++ row.fileId

theorem VersionRow.IsAddressed.of_eq {old row : VersionRow} (addressed : old.IsAddressed)
    (sameFile : old.fileId = row.fileId) (samePath : old.path = row.path) :
    row.IsAddressed := by
  obtain ⟨address, named⟩ := addressed
  rw [sameFile] at address
  rw [sameFile, samePath] at named
  exact ⟨address, named⟩

/-- Paths under different addresses are different. -/
theorem address_eq_of_path_eq {firstFolder secondFolder first second : String}
    (isFirst : IsContentAddress first) (isSecond : IsContentAddress second)
    (same : firstFolder ++ "/" ++ first = secondFolder ++ "/" ++ second) :
    first = second := by
  have characters := congrArg String.toList same
  simp only [String.toList_append] at characters
  have sameLength : first.toList.length = second.toList.length :=
    isFirst.length_eq.trans isSecond.length_eq.symm
  exact String.toList_inj.1 (List.append_inj_right' characters sameLength)

/-- Tables in which every version lies under its file's address stay so. -/
def Tables.StaysAddressed (before after : Tables) : Prop :=
  (∀ row ∈ before.versions, row.IsAddressed) → ∀ row ∈ after.versions, row.IsAddressed

namespace Tables.StaysAddressed

instance : IsPreorder Tables StaysAddressed where
  refl := fun _ => id
  trans := fun _ _ _ left right addressed => right (left addressed)

theorem of_sameHistory {before after : Tables} (same : before.SameHistory after) :
    before.StaysAddressed after := by
  intro addressed
  rw [same.1]
  exact addressed

theorem of_added {before after : Tables} {row : VersionRow}
    (added : after.versions = before.versions ++ [row])
    (isAddressed : (∀ old ∈ before.versions, old.IsAddressed) → row.IsAddressed) :
    before.StaysAddressed after := by
  intro addressed other member
  rw [added, List.mem_append, List.mem_singleton] at member
  rcases member with isOld | rfl
  · exact addressed other isOld
  · exact isAddressed addressed

end Tables.StaysAddressed

theorem Vault.path_uploadedFile (request : UploadRequest) (fileName : String)
    (now : Timestamp) :
    ∃ folder,
      (uploadedFile request fileName now).path = folder ++ "/" ++ fileIdOf request.payload :=
  ⟨request.owner ++ "/" ++ now.yearMonth.text, rfl⟩

theorem staysAddressed_respectsCommits (conditions : Conditions)
    (noRace : ∀ index owner path,
      conditions.faults .createFile index ≠ some (.loseRace owner path)) :
    RespectsCommits Tables.StaysAddressed conditions := by
  intro before after commit
  cases commit with
  | @registered request fileName _ accepted created =>
      obtain ⟨_, _, _, row, _, encoded, _, _, rfl⟩ := Tables.createFile_eq_ok.1 created
      refine Tables.StaysAddressed.of_added rfl fun _ => ?_
      obtain ⟨_, rfl⟩ := VersionRecord.toRow_eq_ok.1 encoded
      exact ⟨fileIdOf_isContentAddress request.payload,
        Vault.path_uploadedFile request fileName conditions.now⟩
  | overtaken accepted raced created =>
      exact absurd raced (noRace _ _ _)
  | tagged live attached =>
      exact Tables.StaysAddressed.of_sameHistory
        ((Work.keepsHistory_linkTags _ _ _).committed attached)
  | appended revertible added =>
      obtain ⟨_, row, encoded, _, _, rfl⟩ := Tables.appendVersion_eq_ok.1 added
      refine Tables.StaysAddressed.of_added rfl fun addressed => ?_
      obtain ⟨old, member, sameFile, samePath, _⟩ :=
        Vault.exists_of_getVersion revertible.found
      obtain ⟨_, rfl⟩ := VersionRecord.toRow_eq_ok.1 encoded
      have sameId := sameFile.trans (Vault.fileId_of_getFile revertible.live).symm
      exact (addressed old member).of_eq sameId samePath
  | described accepted changed =>
      exact Tables.StaysAddressed.of_sameHistory
        ((Work.keepsHistory_updateDetails _ _ _ _).committed changed)
  | trashed removed =>
      exact Tables.StaysAddressed.of_sameHistory
        ((Work.keepsHistory_trashFiles _ _ _).committed removed)

theorem addressed_runOperations (schedule : List ScheduledOperation) (start : World)
    (unrivalled : ∀ scheduled ∈ schedule, scheduled.Unrivalled)
    (addressed : ∀ row ∈ start.tables.versions, row.IsAddressed) :
    ∀ row ∈ (runOperations schedule start).tables.versions, row.IsAddressed :=
  tablesRelated_runOperations schedule start
    (fun scheduled member world =>
      staysAddressed_respectsCommits (scheduled.conditionsAt world) (unrivalled scheduled member))
    addressed

/-! ## Runs -/

/-- Once a file is registered, no operation writes or deletes a blob under its address. -/
theorem leavesBlob_runOperations (schedule : List ScheduledOperation) (start : World)
    {fileId folder : String} (address : IsContentAddress fileId)
    (known : start.tables.hasFile fileId = true) :
    start.LeavesBlob (folder ++ "/" ++ fileId) (runOperations schedule start) := by
  induction schedule generalizing start with
  | nil =>
      exact refl_of (LeavesBlob _) start
  | cons scheduled rest inductionHypothesis =>
      have evolves : start.tables.Evolves (scheduled.perform start).2.tables :=
        Operation.tablesRelated (evolves_respectsCommits (scheduled.conditionsAt start))
          scheduled.operation start
      have onward := inductionHypothesis (scheduled.perform start).2 (evolves.hasFile known)
      refine trans_of (LeavesBlob _) ?_ onward
      refine Operation.related (leavesBlob_allowsLookups (scheduled.conditionsAt start) _)
        (leavesBlob_allowsChanges (scheduled.conditionsAt start) _) fun request _ => ?_
      refine Vault.leavesBlob_upload known fun fileName other samePath => ?_
      obtain ⟨home, isPath⟩ :=
        Vault.path_uploadedFile request fileName (scheduled.conditionsAt start).now
      exact other (address_eq_of_path_eq (fileIdOf_isContentAddress request.payload) address
        (isPath.symm.trans samePath))

end ContentVault
