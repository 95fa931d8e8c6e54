import ContentVault.Proofs.Vault.AllOrNothing
import ContentVault.Proofs.Vault.Rows

/-!
# The integrity of stored content

Over every run of operations without rivals, from empty tables and any blobs in memory,

* every version has its blob: of its size, with the digest that is its address, under
  a path that ends in that address;
* every file agrees with its current version;
* no operation, whether or not it fails, removes or changes a blob that was there.
-/

namespace ContentVault

open World StoreRequest

/-! ## Stores that lose nothing -/

/-- Every blob of one store is in another. -/
def MemoryStore.Keeps (store later : MemoryStore) : Prop :=
  ∀ names blob, store.blobs.get? names = some blob → later.blobs.get? names = some blob

namespace MemoryStore.Keeps

instance : IsPreorder MemoryStore Keeps where
  refl := fun _ _ _ => id
  trans := fun _ _ _ left right names blob found => right names blob (left names blob found)

theorem withBlob {store : MemoryStore} {names : List PathName}
    (absent : store.blobs.get? names = none) (blob : StoredBlob) :
    store.Keeps (store.withBlob names blob) := by
  intro others other found
  have different : names ≠ others := by
    rintro rfl
    rw [absent] at found
    cases found
  rw [MemoryStore.withBlob, Table.get?_put, if_neg different]
  exact found

theorem blobAt? {store later : MemoryStore} (keeps : store.Keeps later) {path : String}
    {blob : StoredBlob} (found : store.blobAt? path = some blob) :
    later.blobAt? path = some blob := by
  rw [MemoryStore.blobAt?, Option.bind_eq_some_iff] at found ⊢
  obtain ⟨names, keyed, isBlob⟩ := found
  exact ⟨names, keyed, keeps names blob isBlob⟩

end MemoryStore.Keeps

/-- A blob is the content of a version: it lies under the version's path, has its size
and digest, and the last name of the path is that digest. -/
structure VersionRow.IsContent (row : VersionRow) (store : MemoryStore) (blob : StoredBlob) :
    Prop where
  found : store.blobAt? row.path = some blob
  size : (blob.content.size : Int) = row.size.toInt
  address : fileIdOf blob.content = row.fileId
  named : ∃ folder, row.path = folder ++ "/" ++ row.fileId

theorem VersionRow.IsContent.of_sharesBlob {old row : VersionRow} {store later : MemoryStore}
    {blob : StoredBlob} (content : old.IsContent store blob) (shares : old.SharesBlob row)
    (keeps : store.Keeps later) :
    row.IsContent later blob := by
  obtain ⟨sameFile, samePath, sameSize⟩ := shares
  constructor
  · rw [← samePath]
    exact keeps.blobAt? content.found
  · rw [← sameSize]
    exact content.size
  · rw [← sameFile]
    exact content.address
  · rw [← sameFile, ← samePath]
    exact content.named

/-! ## One operation -/

/-- What an operation without a rival does: no blob is lost, the tables evolve, and
every version has the blob of an older one or its own. -/
structure World.Advances (before after : World) (store later : MemoryStore) : Prop where
  blobs : after.blobs = .memory later
  keeps : store.Keeps later
  evolves : before.tables.Evolves after.tables
  versions : ∀ row ∈ after.tables.versions,
    (∃ old ∈ before.tables.versions, old.SharesBlob row) ∨ ∃ blob, row.IsContent later blob

theorem World.KeepsBlobs.advances {before after : World} {store : MemoryStore}
    (keepsBlobs : before.KeepsBlobs after) (kept : before.blobs = .memory store) :
    before.Advances after store store where
  blobs := keepsBlobs.blobs kept
  keeps := refl_of MemoryStore.Keeps store
  evolves := keepsBlobs.evolves
  versions := fun row member => Or.inl (keepsBlobs.shared row member)

namespace Vault

variable {conditions : Conditions} {request : UploadRequest} {before after : World}
  {store : MemoryStore} {fileName : String}

theorem size_lt_of_checkUpload {settings : VaultSettings}
    (checked : checkUpload settings request = .ok fileName) :
    request.payload.size < 0x10000000000000000 := by
  have bound := settings.maxUploadSize.toNat_lt
  unfold checkUpload at checked
  split at checked
  · cases checked
  · split at checked
    · cases checked
    · split at checked
      · cases checked
      · split at checked
        · cases checked
        · omega

/-- The blob that a committed upload stored is the content of its version. -/
theorem isContent_of_committed {warnings : List UploadWarning} {fileRow : FileRow}
    {versionRow : VersionRow}
    (committed : CommittedUpload conditions request before after store warnings fileName
      fileRow versionRow) :
    versionRow.IsContent
      (store.withBlob (uploadKey request conditions.now)
        (uploadedBlob request fileName conditions.now))
      (uploadedBlob request fileName conditions.now) := by
  obtain ⟨fits, isVersion⟩ := VersionRecord.toRow_eq_ok.1 committed.versionEncoded
  have inRange := size_lt_of_checkUpload committed.accepted
  have keyed := blobKey?_uploadedFile committed.accepted conditions.now
  constructor
  · rw [isVersion, MemoryStore.blobAt?, Option.bind_eq_some_iff]
    refine ⟨uploadKey request conditions.now, keyed, ?_⟩
    rw [MemoryStore.withBlob, Table.get?_put, if_pos rfl]
  · rw [isVersion]
    change request.payload.size.toUInt64.toNat < 0x8000000000000000 at fits
    change (request.payload.size : Int) = request.payload.size.toUInt64.toInt64.toInt
    rw [toInt_toInt64 fits, UInt64.toNat_ofNat_of_lt' inRange]
  · exact committed.versionFileId.symm
  · rw [isVersion]
    exact ⟨request.owner ++ "/" ++ conditions.now.yearMonth.text, rfl⟩

/-- What an upload without a rival does: a blob that it leaves behind is new, and a
version that it adds has its blob. -/
theorem advances_upload (kept : before.blobs = .memory store)
    (noRace : ∀ index owner path,
      conditions.faults .createFile index ≠ some (.loseRace owner path)) :
    ∃ later, before.Advances (upload request conditions before).2 store later := by
  rcases done : upload request conditions before with ⟨outcome, after⟩
  have evolves : before.tables.Evolves (upload request conditions before).2.tables :=
    tablesRelated_upload (evolves_respectsCommits conditions) request before
  rw [done] at evolves
  cases uploadOutcome_of_upload kept done with
  | refused untouched =>
      exact ⟨store, untouched.keepsBlobs.advances kept⟩
  | @undone fileName failure _ fresh counted tables spared notSpared =>
      rw [tablesForUpload_of_no_race noRace] at tables
      have blobs := notSpared (notSparesUpload_of_no_race fresh.new tables)
      refine ⟨_, blobs, ?_, evolves, ?_⟩
      · split
        · exact MemoryStore.Keeps.withBlob fresh.absent _
        · exact refl_of MemoryStore.Keeps store
      · rw [tables]
        exact fun row member => Or.inl ⟨row, member, rfl, rfl, rfl⟩
  | @committed fileName receipt registered _ fresh created blobs tagged =>
      rw [tablesForUpload_of_no_race noRace] at created
      obtain ⟨fileRow, versionRow, committed⟩ :=
        committedUpload_of_created fresh created blobs tagged
      have sameBlobs := (attachUploadTags_cases tagged).1
      refine ⟨_, sameBlobs.trans blobs, MemoryStore.Keeps.withBlob fresh.absent _, evolves, ?_⟩
      intro row member
      rw [committed.versions, List.mem_append, List.mem_singleton] at member
      rcases member with isOld | rfl
      · exact Or.inl ⟨row, isOld, rfl, rfl, rfl⟩
      · exact Or.inr ⟨_, isContent_of_committed committed⟩

end Vault

/-! ## Runs -/

/-- States between which, if blobs are kept in memory, none was lost and every new
version came with its blob. -/
def World.Progresses (before after : World) : Prop :=
  ∀ store, before.blobs = .memory store → ∃ later, before.Advances after store later

instance : IsPreorder World Progresses where
  refl := fun world store kept =>
    ⟨store, (refl_of KeepsBlobs world).advances kept⟩
  trans := by
    intro first second third left right store kept
    obtain ⟨middle, leftAdvances⟩ := left store kept
    obtain ⟨later, rightAdvances⟩ := right middle leftAdvances.blobs
    refine ⟨later, rightAdvances.blobs,
      trans_of MemoryStore.Keeps leftAdvances.keeps rightAdvances.keeps,
      trans_of Tables.Evolves leftAdvances.evolves rightAdvances.evolves, ?_⟩
    intro row member
    rcases rightAdvances.versions row member with ⟨between, betweenMember, shares⟩ | new
    · rcases leftAdvances.versions between betweenMember with
        ⟨old, oldMember, oldShares⟩ | ⟨blob, content⟩
      · exact Or.inl ⟨old, oldMember, oldShares.trans shares⟩
      · exact Or.inr ⟨blob, content.of_sharesBlob shares rightAdvances.keeps⟩
    · exact Or.inr new

/-- An operation that meets no rival. -/
def ScheduledOperation.Unrivalled (scheduled : ScheduledOperation) : Prop :=
  ∀ index owner path, scheduled.faults .createFile index ≠ some (.loseRace owner path)

/-- One operation without a rival, whatever it is and whatever comes of it. -/
theorem ScheduledOperation.progresses {scheduled : ScheduledOperation}
    (unrivalled : scheduled.Unrivalled) (before : World) :
    before.Progresses (scheduled.perform before).2 := by
  intro store kept
  by_cases isUpload : ∃ request, scheduled.operation = .upload request
  · obtain ⟨request, isUpload⟩ := isUpload
    rw [perform, isUpload, Operation.perform, VaultAction.map_snd]
    exact Vault.advances_upload kept unrivalled
  · have noUpload : ∀ request, scheduled.operation ≠ .upload request :=
      fun request same => isUpload ⟨request, same⟩
    exact ⟨store, (Operation.keepsBlobs noUpload before).advances kept⟩

theorem progresses_runOperations (schedule : List ScheduledOperation) (start : World)
    (unrivalled : ∀ scheduled ∈ schedule, scheduled.Unrivalled) :
    start.Progresses (runOperations schedule start) := by
  induction schedule generalizing start with
  | nil =>
      exact refl_of Progresses start
  | cons scheduled rest inductionHypothesis =>
      have step := ScheduledOperation.progresses (unrivalled scheduled List.mem_cons_self) start
      have onward := inductionHypothesis (scheduled.perform start).2
        fun next member => unrivalled next (List.mem_cons_of_mem scheduled member)
      exact trans_of Progresses step onward

/-- Where nothing was stored before, every version has its blob. -/
theorem World.Advances.isContent_of_empty {before after : World} {store later : MemoryStore}
    (advances : before.Advances after store later) (emptyTables : before.tables = Tables.empty)
    {row : VersionRow} (member : row ∈ after.tables.versions) :
    ∃ blob, row.IsContent later blob := by
  rcases advances.versions row member with ⟨old, isOld, _⟩ | content
  · rw [emptyTables] at isOld
    cases isOld
  · exact content

/-- The integrity of the content in every state that a run without rivals reaches from
empty tables: every version has its blob, every file agrees with its current version,
and no further operation takes a blob away from a version or changes it. -/
theorem content_integrity_of_run (schedule : List ScheduledOperation) (start : World)
    (store : MemoryStore) (emptyTables : start.tables = Tables.empty)
    (kept : start.blobs = .memory store)
    (unrivalled : ∀ scheduled ∈ schedule, scheduled.Unrivalled) :
    ∃ reached,
      (runOperations schedule start).blobs = .memory reached ∧
        (∀ row ∈ (runOperations schedule start).tables.versions,
          (∃ blob,
            reached.blobAt? row.path = some blob ∧
              (blob.content.size : Int) = row.size.toInt ∧
                fileIdOf blob.content = row.fileId ∧
                  ∃ folder, row.path = folder ++ "/" ++ row.fileId) ∧
          ∃ file current,
            (runOperations schedule start).tables.file? row.fileId = some file ∧
              (runOperations schedule start).tables.version? row.fileId file.currentVersion =
                  some current ∧
                file.path = current.path ∧ file.size = current.size ∧
                  file.contentType = current.contentType) ∧
        ∀ next : ScheduledOperation, next.Unrivalled →
          ∃ later,
            (next.perform (runOperations schedule start)).2.blobs = .memory later ∧
              ∀ row ∈ (runOperations schedule start).tables.versions,
                row ∈ (next.perform (runOperations schedule start)).2.tables.versions ∧
                  later.blobAt? row.path = reached.blobAt? row.path := by
  obtain ⟨reached, advances⟩ := progresses_runOperations schedule start unrivalled store kept
  have evolves := advances.evolves
  rw [emptyTables] at evolves
  have contents : ∀ row ∈ (runOperations schedule start).tables.versions,
      ∃ blob, row.IsContent reached blob := by
    intro row member
    rcases advances.versions row member with ⟨old, isOld, _⟩ | content
    · rw [emptyTables] at isOld
      cases isOld
    · exact content
  refine ⟨reached, advances.blobs, fun row member => ⟨?_, ?_⟩, ?_⟩
  · obtain ⟨blob, content⟩ := contents row member
    exact ⟨blob, content.found, content.size, content.address, content.named⟩
  · obtain ⟨file, current, isFile, isCurrent, agrees⟩ := evolves.currentVersion_of_empty member
    exact ⟨file, current, isFile, isCurrent, (congrArg Revision.path agrees).symm,
      (congrArg Revision.size agrees).symm, (congrArg Revision.contentType agrees).symm⟩
  · intro next nextUnrivalled
    obtain ⟨later, onward⟩ := ScheduledOperation.progresses nextUnrivalled _ reached
      advances.blobs
    refine ⟨later, onward.blobs, fun row member => ⟨?_, ?_⟩⟩
    · exact onward.evolves.extends_tables.versions.subset member
    · obtain ⟨blob, content⟩ := contents row member
      rw [content.found, onward.keeps.blobAt? content.found]

/-- An operation that is carried out at once and meets no fault. -/
def undisturbed (operation : Operation) : ScheduledOperation :=
  ⟨operation, .default, none, Vault.firstMoment, noFaults⟩

theorem undisturbed_unrivalled (operation : Operation) : (undisturbed operation).Unrivalled := by
  intro index owner path raced
  cases raced

/-- The first upload to an empty vault and a revert of it. -/
def firstRevisions : List ScheduledOperation :=
  [undisturbed (.upload Vault.firstUpload),
    undisturbed (.revert (fileIdOf Vault.firstUpload.payload) 1)]

/-- Both versions of the first upload have its blob. -/
theorem first_revisions_keep_content :
    (Vault.emptyVault .empty).tables = Tables.empty ∧
      (Vault.emptyVault .empty).blobs = .memory .empty ∧
      (∀ scheduled ∈ firstRevisions, scheduled.Unrivalled) ∧
      (runOperations firstRevisions (Vault.emptyVault .empty)).tables.versions.length = 2 ∧
      ∃ reached,
        (runOperations firstRevisions (Vault.emptyVault .empty)).blobs = .memory reached ∧
          ∀ row ∈ (runOperations firstRevisions (Vault.emptyVault .empty)).tables.versions,
            ∃ blob, reached.blobAt? row.path = some blob ∧ fileIdOf blob.content = row.fileId := by
  have unrivalled : ∀ scheduled ∈ firstRevisions, scheduled.Unrivalled := by
    intro scheduled member
    simp only [firstRevisions, List.mem_cons, List.not_mem_nil, or_false] at member
    rcases member with rfl | rfl
    · intro index owner path
      simp [undisturbed, noFaults]
    · intro index owner path
      simp [undisturbed, noFaults]
  obtain ⟨reached, blobs, contents, _⟩ :=
    content_integrity_of_run firstRevisions (Vault.emptyVault .empty) .empty rfl rfl unrivalled
  refine ⟨rfl, rfl, unrivalled, by decide +kernel, reached, blobs, ?_⟩
  intro row member
  obtain ⟨⟨blob, found, _, address, _⟩, _⟩ := contents row member
  exact ⟨blob, found, address⟩

end ContentVault
