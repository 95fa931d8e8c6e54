import ContentVault.Proofs.Vault.Operations

/-!
# What operations commit

Whatever its faults, a deadline or a rival, and over any blob store, an operation of the
vault changes the tables by whole units of work only.

* each of them is one that the operation derives from its request and from what it has
  just read;
* so a relation that these units of work respect is respected by every operation and by
  every run of operations.
-/

namespace ContentVault

open World StoreRequest

/-- A unit of work that an operation of the vault, or a rival that it meets, commits. -/
inductive Tables.Commit (conditions : Conditions) (before : Tables) : Tables → Prop
  | registered {request : UploadRequest} {fileName : String} {after : Tables}
      (accepted : Vault.checkUpload conditions.settings request = .ok fileName)
      (created :
        before.createFile (Vault.uploadedFile request fileName conditions.now)
            (Vault.firstVersionOf (Vault.uploadedFile request fileName conditions.now)) =
          (.ok (), after)) :
      Commit conditions before after
  | overtaken {request : UploadRequest} {fileName owner : String} {path : Option String}
      {index : Nat} {after : Tables}
      (accepted : Vault.checkUpload conditions.settings request = .ok fileName)
      (raced : conditions.faults .createFile index = some (.loseRace owner path))
      (created :
        before.createFile
            (rivalFile (Vault.uploadedFile request fileName conditions.now) owner path)
            (rivalVersion (Vault.uploadedFile request fileName conditions.now)
              (Vault.firstVersionOf (Vault.uploadedFile request fileName conditions.now))
              path) =
          (.ok (), after)) :
      Commit conditions before after
  | tagged {fileId text : String} {linked : List Tag} {after : Tables}
      (live : before.liveFile? fileId ≠ none)
      (attached : before.attachTags fileId (parseTags text) = (.ok linked, after)) :
      Commit conditions before after
  | appended {fileId : String} {number target : UInt32} {file : FileRecord}
      {source : VersionRecord} {after : Tables}
      (revertible : before.Revertible fileId target file source)
      (added :
        before.appendVersion (Vault.revertedVersion file number source target conditions.now)
            file.currentVersion =
          (.ok (), after)) :
      Commit conditions before after
  | described {fileId : String} {update : MetadataUpdate} {details : FileDetails}
      {updated : Bool} {after : Tables}
      (accepted : Vault.checkUpdate update = .ok details)
      (changed :
        before.updateDetails fileId details (update.tags.map parseTags) conditions.now =
          (.ok updated, after)) :
      Commit conditions before after
  | trashed {fileIds moved : List String} {after : Tables}
      (removed : before.trash fileIds conditions.now = (.ok moved, after)) :
      Commit conditions before after

/-- A relation that every commit respects. -/
def RespectsCommits (relation : Tables → Tables → Prop) (conditions : Conditions) : Prop :=
  ∀ {before after : Tables}, before.Commit conditions after → relation before after

/-- Two states whose tables are related. -/
def World.TablesRelated (relation : Tables → Tables → Prop) (before after : World) : Prop :=
  relation before.tables after.tables

variable {relation : Tables → Tables → Prop} [IsPreorder Tables relation]
  {conditions : Conditions}

instance : IsPreorder World (TablesRelated relation) where
  refl := fun world => refl_of relation world.tables
  trans := fun _ _ _ left right => trans_of relation left right

theorem World.TablesRelated.of_eq {before after : World} (same : after.tables = before.tables) :
    before.TablesRelated relation after := by
  rw [TablesRelated, same]
  exact refl_of relation before.tables

theorem tablesRelated_allowsLookups (conditions : Conditions) :
    AllowsLookups (TablesRelated relation) conditions := by
  have lookups := onlyRead_allowsLookups conditions
  constructor
  · exact fun run lookup limit before =>
      TablesRelated.of_eq (lookups.queries run lookup limit before).tables
  · exact fun path limit before => TablesRelated.of_eq (lookups.stat path limit before).tables
  · exact fun path limit before => TablesRelated.of_eq (lookups.opened path limit before).tables
  · exact fun path limit before => TablesRelated.of_eq (lookups.whole path limit before).tables

/-- A change that can be rolled back is a commit, or it leaves the tables alone. -/
theorem tablesRelated_change {α : Type} {call : CatalogCall} {work : Work α} {before : World}
    (respected : ∀ {value after}, work.transaction before.tables = (.ok value, after) →
      relation before.tables after)
    (limit : Nat) :
    before.TablesRelated relation
      (change call work.transaction conditions limit before).2 := by
  rcases called : change call work.transaction conditions limit before with ⟨answer, after⟩
  obtain ⟨_, _, ⟨value, _, committed⟩ | ⟨_, same⟩⟩ :=
    change_outcome Work.transaction_of_error called
  · exact respected committed
  · exact TablesRelated.of_eq same

theorem tablesRelated_allowsChanges (respects : RespectsCommits relation conditions) :
    AllowsChanges (TablesRelated relation) conditions where
  trash := fun _ limit _ =>
    tablesRelated_change (fun removed => respects (.trashed removed)) limit
  describe := fun accepted _ limit _ =>
    tablesRelated_change (fun changed => respects (.described accepted changed)) limit
  append := fun revertible _ limit =>
    tablesRelated_change (fun added => respects (.appended revertible added)) limit

/-! ## Uploads -/

namespace Vault

section StoreContent

variable {file : FileRecord} {payload : ByteArray} {fileId path : String} {before after : World}

theorem tables_of_deleteBlob (conditions : Conditions) (limit : Nat) :
    (deleteBlob path conditions limit before).2.tables = before.tables := by
  rcases deleted : deleteBlob path conditions limit before with ⟨answer, last⟩
  exact (toBlobs_frame deleted).1

theorem tables_of_removeOrphan :
    (removeOrphan fileId path conditions before).2.tables = before.tables := by
  rcases looked : fileRecord fileId conditions conditions.settings.operationTimeout before with
    ⟨found, between⟩
  rw [removeOrphan_eq, looked, ← (read_noted looked).tables]
  rcases found with failure | _ | winner
  · exact tables_of_deleteBlob conditions _
  · exact tables_of_deleteBlob conditions _
  · dsimp only
    split
    · rfl
    · exact tables_of_deleteBlob conditions _

/-- Whatever the blob store does, the file is registered where a rival left the tables,
or only the rival's is. -/
theorem tables_of_storeContent {outcome : Except VaultError Unit}
    (done : storeContent file payload conditions before = (outcome, after)) :
    (outcome = .ok () ∧
        (afterRival file (firstVersionOf file) (before.nextFault conditions .createFile)
            before.tables).createFile file (firstVersionOf file) = (.ok (), after.tables)) ∨
      (∃ failure, outcome = .error failure) ∧
        (after.tables = before.tables ∨
          after.tables =
            afterRival file (firstVersionOf file) (before.nextFault conditions .createFile)
              before.tables) := by
  rw [storeContent_eq] at done
  rcases wrote : writeBlob file.path payload file.contentType conditions
    (timeLimit conditions before) before with ⟨failure | _, between⟩
  · rw [wrote] at done
    cases done
    exact Or.inr ⟨⟨_, rfl⟩, Or.inl (toBlobs_frame wrote).1⟩
  obtain ⟨sameTables, calls⟩ := toBlobs_frame wrote
  rw [wrote] at done
  rcases registered : registerFile file (firstVersionOf file) conditions between with
    ⟨answer, last⟩
  obtain ⟨_, _, outcomes⟩ := registerFile_cases registered
  rw [nextFault_of_calls calls (by simp), sameTables] at outcomes
  simp only [registered] at done
  rcases outcomes with ⟨rfl, created⟩ | ⟨⟨failure, rfl⟩, changed⟩
  · cases done
    exact Or.inl ⟨rfl, created⟩
  · cases done
    refine Or.inr ⟨⟨_, rfl⟩, Or.inr ?_⟩
    rw [tables_of_removeOrphan, changed]

theorem liveFile?_of_registered {tables registered : Tables} {version : VersionRecord}
    (notTrashed : file.trashedAt = none)
    (created : tables.createFile file version = (.ok (), registered)) :
    registered.liveFile? file.fileId ≠ none := by
  obtain ⟨_, _, row, _, encoded, _, _, _, rfl⟩ := Tables.createFile_eq_ok.1 created
  obtain ⟨_, rfl⟩ := FileRecord.toRow_eq_ok.1 encoded
  simp [Tables.liveFile?, notTrashed]

end StoreContent

variable {request : UploadRequest} {fileName : String}

theorem related_afterRival (respects : RespectsCommits relation conditions)
    (accepted : checkUpload conditions.settings request = .ok fileName)
    (given : Tables) (index : Nat) :
    relation given
      (afterRival (uploadedFile request fileName conditions.now)
        (firstVersionOf (uploadedFile request fileName conditions.now))
        (conditions.faults .createFile index) given) := by
  rcases raced : conditions.faults .createFile index with _ | _ | _ | _ | ⟨owner, path⟩
  · exact refl_of relation given
  · exact refl_of relation given
  · exact refl_of relation given
  · exact refl_of relation given
  · change relation given (given.createFile _ _).2
    rcases registered : given.createFile
      (rivalFile (uploadedFile request fileName conditions.now) owner path)
      (rivalVersion (uploadedFile request fileName conditions.now)
        (firstVersionOf (uploadedFile request fileName conditions.now)) path) with
      ⟨failure | _, changed⟩
    · rw [Work.transaction_of_error registered]
      exact refl_of relation given
    · exact respects (.overtaken accepted raced registered)

theorem related_storeContent (respects : RespectsCommits relation conditions)
    (accepted : checkUpload conditions.settings request = .ok fileName) (before : World) :
    before.TablesRelated relation
      (storeContent (uploadedFile request fileName conditions.now) request.payload conditions
        before).2 := by
  have rivalled := related_afterRival respects accepted before.tables
    (before.callCount .createFile)
  rcases stored : storeContent (uploadedFile request fileName conditions.now) request.payload
    conditions before with ⟨outcome, after⟩
  rcases tables_of_storeContent stored with ⟨_, created⟩ | ⟨_, same | raced⟩
  · exact trans_of relation rivalled (respects (.registered accepted created))
  · exact TablesRelated.of_eq same
  · rw [TablesRelated, raced]
    exact rivalled

theorem related_attachUploadTags (respects : RespectsCommits relation conditions)
    {fileId : String} {before : World} (live : before.tables.liveFile? fileId ≠ none)
    (text : String) :
    before.TablesRelated relation
      (attachUploadTags fileId (parseTags text) conditions before).2 := by
  rcases attached : attachUploadTags fileId (parseTags text) conditions before with
    ⟨failure | _, after⟩
  · exact absurd attached attachUploadTags_ne_error
  · rcases (attachUploadTags_cases attached).2 with ⟨_, linked, committed⟩ | ⟨_, same⟩
    · exact respects (.tagged live committed)
    · exact TablesRelated.of_eq same

theorem tablesRelated_upload (respects : RespectsCommits relation conditions)
    (request : UploadRequest) :
    VaultAction.Within (TablesRelated relation) conditions (upload request) := by
  intro before
  rw [upload_eq]
  rcases accepted : checkUpload conditions.settings request with failure | fileName
  · exact refl_of (TablesRelated relation) before
  refine VaultAction.Within.bind_at
    (within_ensureUnique (tablesRelated_allowsLookups conditions) before)
    fun {_ between} _ => ?_
  refine VaultAction.Within.bind_at (related_storeContent respects accepted between)
    fun {_ registered} stored => ?_
  rcases tables_of_storeContent stored with ⟨_, created⟩ | ⟨⟨failure, failed⟩, _⟩
  · have live := liveFile?_of_registered rfl created
    exact VaultAction.Within.bind_at (related_attachUploadTags respects live _)
      fun _ => refl_of (TablesRelated relation) _
  · cases failed

end Vault

/-! ## Operations and runs -/

/-- What an operation runs under if it starts in a given state. -/
def ScheduledOperation.conditionsAt (scheduled : ScheduledOperation) (world : World) :
    Conditions where
  settings := scheduled.settings
  deadline := scheduled.timeAllowed.map (world.clock + ·)
  now := scheduled.now
  faults := scheduled.faults

/-- A relation that every commit respects holds between the tables before and after an
operation. -/
theorem Operation.tablesRelated (respects : RespectsCommits relation conditions)
    (operation : Operation) (before : World) :
    relation before.tables (operation.perform conditions before).2.tables :=
  Operation.related (tablesRelated_allowsLookups conditions)
    (tablesRelated_allowsChanges respects)
    fun request _ => Vault.tablesRelated_upload respects request before

theorem runOperations_append (earlier later : List ScheduledOperation) (start : World) :
    runOperations (earlier ++ later) start = runOperations later (runOperations earlier start) := by
  induction earlier generalizing start with
  | nil =>
      rfl
  | cons scheduled rest inductionHypothesis =>
      exact inductionHypothesis (scheduled.perform start).2

/-- A relation that every commit of a run respects holds between the tables before and
after the run. -/
theorem tablesRelated_runOperations (schedule : List ScheduledOperation) (start : World)
    (respects : ∀ scheduled ∈ schedule, ∀ world,
      RespectsCommits relation (scheduled.conditionsAt world)) :
    relation start.tables (runOperations schedule start).tables := by
  induction schedule generalizing start with
  | nil =>
      exact refl_of relation start.tables
  | cons scheduled rest inductionHypothesis =>
      have step : relation start.tables (scheduled.perform start).2.tables :=
        Operation.tablesRelated (respects scheduled List.mem_cons_self start)
          scheduled.operation start
      have onward := inductionHypothesis (scheduled.perform start).2
        fun next member => respects next (List.mem_cons_of_mem scheduled member)
      exact trans_of relation step onward

end ContentVault
