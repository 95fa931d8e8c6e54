import ContentVault.Proofs.Catalog.Chronicle
import ContentVault.Proofs.Vault.Operations

/-!
# How operations change the catalog

Whatever its faults, a deadline or a rival, every operation of the vault changes the
tables by a run of units of work, in which every file is registered with a first
version that agrees with it.

* so all that holds of the history of a catalog holds of a vault;
* operations other than uploads leave the blobs alone, and their new versions share
  the blobs of older ones.
-/

namespace ContentVault

open World StoreRequest

/-! ## Runs of agreeing changes -/

namespace CatalogChange

/-- Whether a change that registers a file gives it a first version that agrees with
it and has the number 1. -/
def Agreeing : CatalogChange → Prop
  | createFile file version =>
      file.currentVersion = 1 ∧ file.path = version.path ∧ file.size = version.size ∧
        file.contentType = version.contentType
  | _ => True

theorem run_append (first second : List CatalogChange) (tables : Tables) :
    (run (first ++ second) tables).2 = (run second (run first tables).2).2 := by
  induction first generalizing tables with
  | nil =>
      rfl
  | cons change rest inductionHypothesis =>
      rw [List.cons_append, run, run]
      rcases change.perform tables with ⟨failure | _, changed⟩
      · exact inductionHypothesis changed
      · exact inductionHypothesis changed

/-- Only changes that were asked for are accepted. -/
theorem mem_of_mem_accepted {changes : List CatalogChange} {tables : Tables}
    {change : CatalogChange} (accepted : change ∈ (run changes tables).1) :
    change ∈ changes := by
  induction changes generalizing tables with
  | nil =>
      exact accepted
  | cons first rest inductionHypothesis =>
      rw [run] at accepted
      rcases outcome : first.perform tables with ⟨failure | _, changed⟩
      · rw [outcome] at accepted
        exact List.mem_cons_of_mem first (inductionHypothesis accepted)
      · rw [outcome] at accepted
        rcases List.mem_cons.1 accepted with rfl | inRest
        · exact List.mem_cons_self
        · exact List.mem_cons_of_mem first (inductionHypothesis inRest)

theorem run_singleton (change : CatalogChange) (tables : Tables) :
    (run [change] tables).2 = (change.perform tables).2 := by
  rw [run]
  rcases change.perform tables with ⟨failure | _, changed⟩ <;> rfl

end CatalogChange

/-- Tables that a run of agreeing changes leads to. -/
def Tables.Evolves (before after : Tables) : Prop :=
  ∃ changes : List CatalogChange,
    (∀ change ∈ changes, change.Agreeing) ∧ (CatalogChange.run changes before).2 = after

namespace Tables.Evolves

instance : IsPreorder Tables Evolves where
  refl := fun _ => ⟨[], by simp, rfl⟩
  trans := by
    rintro first _ _ ⟨left, leftAgrees, rfl⟩ ⟨right, rightAgrees, rfl⟩
    refine ⟨left ++ right, ?_, CatalogChange.run_append left right first⟩
    intro change member
    rcases List.mem_append.1 member with inLeft | inRight
    · exact leftAgrees change inLeft
    · exact rightAgrees change inRight

theorem of_perform (change : CatalogChange) (agreeing : change.Agreeing) (tables : Tables) :
    tables.Evolves (change.perform tables).2 := by
  refine ⟨[change], ?_, CatalogChange.run_singleton change tables⟩
  intro other member
  rw [List.mem_singleton] at member
  exact member ▸ agreeing

theorem of_eq {before after : Tables} (same : after = before) : before.Evolves after :=
  same ▸ refl_of Evolves before

theorem extends_tables {before after : Tables} (evolves : before.Evolves after) :
    before.Extends after := by
  obtain ⟨changes, _, rfl⟩ := evolves
  exact CatalogChange.extends_run changes before

/-- In tables that evolved from nothing, every file was registered with a first version that
agreed with it, and its versions are numbered from 1. -/
theorem recorded_of_empty {tables : Tables} (evolves : Tables.empty.Evolves tables)
    {file : FileRow} (member : file ∈ tables.files) :
    ∃ log created version current,
      Recorded log tables file created version current ∧
        created.currentVersion = 1 ∧ created.path = version.path ∧
          created.size = version.size ∧ created.contentType = version.contentType := by
  obtain ⟨changes, agreeing, rfl⟩ := evolves
  have chronicle := CatalogChange.chronicle_run changes Chronicle.empty
  obtain ⟨created, version, current, recorded⟩ := chronicle.known file member
  have wasCreated : CatalogChange.createFile created version ∈
      (CatalogChange.run changes Tables.empty).1 := by
    refine List.mem_of_mem_filter (p := (·.creates file.fileId)) ?_
    have only := recorded.created
    rw [List.nil_append] at only
    rw [only]
    exact List.mem_singleton_self _
  exact ⟨_, created, version, current, recorded,
    agreeing _ (CatalogChange.mem_of_mem_accepted wasCreated)⟩

/-- In tables that evolved from nothing, the file of every version is registered and
agrees with its current version. -/
theorem currentVersion_of_empty {tables : Tables} (evolves : Tables.empty.Evolves tables)
    {row : VersionRow} (member : row ∈ tables.versions) :
    ∃ file current,
      tables.file? row.fileId = some file ∧
        tables.version? row.fileId file.currentVersion = some current ∧
          current.revision = file.revision := by
  have registered : tables.file? row.fileId ≠ none := by
    obtain ⟨changes, _, rfl⟩ := evolves
    have chronicle := CatalogChange.chronicle_run changes Chronicle.empty
    rw [Ne, Tables.file?_eq_none_iff, chronicle.hasFile_of_mem_versions member]
    exact Bool.noConfusion
  obtain ⟨file, isFile⟩ := Option.ne_none_iff_exists'.1 registered
  obtain ⟨fileMember, sameFile⟩ := Tables.mem_of_file?_eq_some isFile
  obtain ⟨_, _, _, _, recorded, _, samePath, sameSize, sameType⟩ :=
    evolves.recorded_of_empty fileMember
  obtain ⟨current, isVersion, found, isCurrent⟩ := recorded.version?_eq_some
  refine ⟨file, current, isFile, ?_, ?_⟩
  · rw [← sameFile]
    exact found
  · exact recorded.agrees samePath sameSize sameType current isVersion isCurrent

end Tables.Evolves

/-! ## Operations that leave the blobs alone -/

/-- A version that refers to the same blob as another one of its file. -/
def VersionRow.SharesBlob (first second : VersionRow) : Prop :=
  first.fileId = second.fileId ∧ first.path = second.path ∧ first.size = second.size

theorem VersionRow.SharesBlob.trans {first second third : VersionRow}
    (left : first.SharesBlob second) (right : second.SharesBlob third) :
    first.SharesBlob third := by
  obtain ⟨leftFile, leftPath, leftSize⟩ := left
  obtain ⟨rightFile, rightPath, rightSize⟩ := right
  exact ⟨leftFile.trans rightFile, leftPath.trans rightPath, leftSize.trans rightSize⟩

/-- Two states between which the catalog was changed, but no new content came in.
Blobs count if they are kept in memory. -/
structure World.KeepsBlobs (before after : World) : Prop where
  evolves : before.tables.Evolves after.tables
  blobs : ∀ {store : MemoryStore}, before.blobs = .memory store → after.blobs = .memory store
  shared : ∀ row ∈ after.tables.versions, ∃ old ∈ before.tables.versions, old.SharesBlob row

instance : IsPreorder World KeepsBlobs where
  refl := fun world =>
    ⟨refl_of Tables.Evolves world.tables, id, fun row member => ⟨row, member, rfl, rfl, rfl⟩⟩
  trans := by
    intro first second third left right
    refine ⟨trans_of Tables.Evolves left.evolves right.evolves,
      fun kept => right.blobs (left.blobs kept), ?_⟩
    intro row member
    obtain ⟨middle, middleMember, shares⟩ := right.shared row member
    obtain ⟨old, oldMember, oldShares⟩ := left.shared middle middleMember
    exact ⟨old, oldMember, oldShares.trans shares⟩

theorem World.KeepsBlobs.of_tables_eq {before after : World}
    (same : after.tables = before.tables)
    (blobs : ∀ {store : MemoryStore},
      before.blobs = .memory store → after.blobs = .memory store) :
    before.KeepsBlobs after where
  evolves := Tables.Evolves.of_eq same
  blobs := blobs
  shared := by
    rw [same]
    exact fun row member => ⟨row, member, rfl, rfl, rfl⟩

theorem World.OnlyRead.keepsBlobs {before after : World} (untouched : before.OnlyRead after) :
    before.KeepsBlobs after :=
  KeepsBlobs.of_tables_eq untouched.tables untouched.blobs

theorem World.Noted.keepsBlobs {call : StoreCall} {before after : World}
    (noted : before.Noted call after) : before.KeepsBlobs after :=
  KeepsBlobs.of_tables_eq noted.tables fun kept => noted.blobs.trans kept

/-- A change of the catalog that leaves the history alone. -/
theorem keepsBlobs_change {α : Type} {conditions : Conditions} {call : CatalogCall}
    {run : Tables → Except CatalogError α × Tables}
    (change : CatalogChange) (agreeing : change.Agreeing)
    (performed : ∀ tables, (change.perform tables).2 = (run tables).2)
    (keeps : ∀ tables : Tables, tables.SameHistory (run tables).2) :
    (StoreRequest.change call run).Within KeepsBlobs conditions := by
  intro limit before
  rcases change_cases run with ⟨between, noted, outcome⟩ | ⟨failure, between, noted, outcome⟩
  · rw [outcome]
    refine ⟨?_, fun kept => noted.blobs.trans kept, ?_⟩
    · rw [← performed]
      exact Tables.Evolves.of_perform change agreeing before.tables
    · rw [(keeps before.tables).1]
      exact fun row member => ⟨row, member, rfl, rfl, rfl⟩
  · rw [outcome]
    exact noted.keepsBlobs

namespace Vault

variable {conditions : Conditions}

theorem keepsBlobs_trash (fileIds : List String) (trashedAt : Timestamp) :
    (trash fileIds trashedAt).Within KeepsBlobs conditions :=
  keepsBlobs_change (.trash fileIds trashedAt) trivial (fun _ => rfl)
    (Work.keepsHistory_trashFiles trashedAt fileIds []).transaction

theorem keepsBlobs_updateDetails (fileId : String) (details : FileDetails)
    (tags : Option (List String)) (changedAt : Timestamp) :
    (updateDetails fileId details tags changedAt).Within KeepsBlobs conditions :=
  keepsBlobs_change (.updateDetails fileId details tags changedAt) trivial
    (fun _ => rfl) (Work.keepsHistory_updateDetails fileId details tags changedAt).transaction

/-! ## Reverts -/

theorem fileId_of_getFile {tables : Tables} {fileId : String} {file : FileRecord}
    (found : tables.getFile fileId = .ok (some file)) :
    file.fileId = fileId := by
  obtain ⟨row, isLive, decoded⟩ := Tables.getFile_eq_some.1 found
  obtain ⟨_, rfl⟩ := FileRecord.toRow_eq_ok.1 (FileRow.toRow_of_toRecord decoded)
  exact (Tables.mem_of_liveFile?_eq_some isLive).2.1

theorem exists_of_getVersion {tables : Tables} {fileId : String} {number : UInt32}
    {version : VersionRecord} (found : tables.getVersion fileId number = .ok (some version)) :
    ∃ row ∈ tables.versions,
      row.fileId = fileId ∧ row.path = version.path ∧ row.size = version.size.toInt64 := by
  obtain ⟨row, isVersion, decoded⟩ := Tables.getVersion_eq_some.1 found
  obtain ⟨_, rfl⟩ := VersionRecord.toRow_eq_ok.1 (VersionRow.toRow_of_toRecord decoded)
  obtain ⟨member, sameFile, _⟩ := Tables.mem_of_version?_eq_some isVersion
  exact ⟨_, member, sameFile, rfl, rfl⟩

/-- Appending a version whose blob an older version refers to. -/
theorem keepsBlobs_appendVersion {version : VersionRecord} {before : World}
    (shares : ∃ old ∈ before.tables.versions,
      old.fileId = version.fileId ∧ old.path = version.path ∧
        old.size = version.size.toInt64)
    (expected : UInt32) (limit : Nat) :
    before.KeepsBlobs (appendVersion version expected conditions limit before).2 := by
  rcases called : appendVersion version expected conditions limit before with ⟨answer, after⟩
  obtain ⟨sameBlobs, _, ⟨_, _, appended⟩ | ⟨_, same⟩⟩ :=
    change_outcome Work.transaction_of_error called
  · change before.tables.appendVersion version expected = (.ok _, after.tables) at appended
    have evolves := Tables.Evolves.of_perform (.appendVersion version expected) trivial
      before.tables
    rw [CatalogChange.perform, appended] at evolves
    refine ⟨evolves, fun kept => sameBlobs.trans kept, fun row member => ?_⟩
    obtain ⟨_, added, encoded, _, _, isAfter⟩ := Tables.appendVersion_eq_ok.1 appended
    obtain ⟨_, rfl⟩ := VersionRecord.toRow_eq_ok.1 encoded
    rw [isAfter] at member
    rcases List.mem_append.1 member with isOld | isNew
    · exact ⟨row, isOld, rfl, rfl, rfl⟩
    · rw [List.mem_singleton] at isNew
      subst isNew
      exact shares
  · exact KeepsBlobs.of_tables_eq same fun kept => sameBlobs.trans kept

end Vault

theorem keepsBlobs_allowsLookups (conditions : Conditions) :
    AllowsLookups KeepsBlobs conditions := by
  have lookups := onlyRead_allowsLookups conditions
  constructor
  · exact fun run lookup limit before => (lookups.queries run lookup limit before).keepsBlobs
  · exact fun path limit before => (lookups.stat path limit before).keepsBlobs
  · exact fun path limit before => (lookups.opened path limit before).keepsBlobs
  · exact fun path limit before => (lookups.whole path limit before).keepsBlobs

theorem keepsBlobs_allowsChanges (conditions : Conditions) :
    AllowsChanges KeepsBlobs conditions where
  trash := fun fileIds => Vault.keepsBlobs_trash fileIds conditions.now
  describe := fun _ fileId => Vault.keepsBlobs_updateDetails fileId _ _ conditions.now
  append := by
    intro asked fileId target file source revertible number limit
    obtain ⟨old, member, sameFile, samePath, sameSize⟩ :=
      Vault.exists_of_getVersion revertible.found
    -- The appended version takes its path and size from the version that was read.
    have shares : ∃ old ∈ asked.tables.versions,
        old.fileId = (Vault.revertedVersion file number source target conditions.now).fileId ∧
          old.path = (Vault.revertedVersion file number source target conditions.now).path ∧
          old.size =
            (Vault.revertedVersion file number source target conditions.now).size.toInt64 :=
      ⟨old, member, sameFile.trans (Vault.fileId_of_getFile revertible.live).symm, samePath,
        sameSize⟩
    exact Vault.keepsBlobs_appendVersion shares _ limit

/-- An operation other than an upload leaves the blobs alone. -/
theorem Operation.keepsBlobs {conditions : Conditions} {operation : Operation}
    (noUpload : ∀ request, operation ≠ .upload request) :
    VaultAction.Within KeepsBlobs conditions operation.perform :=
  fun _ => Operation.related (keepsBlobs_allowsLookups conditions)
    (keepsBlobs_allowsChanges conditions) fun request isUpload =>
      absurd isUpload (noUpload request)

end ContentVault
