import ContentVault.Proofs.Catalog.Trash
import ContentVault.Proofs.Vault.BlobCalls
import ContentVault.Proofs.Vault.Pages

/-!
# Deleted files

Over every run of operations without rivals, from empty tables,

* a file that a deletion reports is in the trash, and there it stays as it is: its row,
  its versions, its links and its blob;
* no operation that asks for it by its identifier succeeds, no listing shows or counts it,
  and a deletion of several files finds it missing;
* a file is marked as trashed exactly if it has a time of trashing.
-/

namespace ContentVault

open World StoreRequest

theorem keepsTrash_respectsCommits (fileId : String) (conditions : Conditions) :
    RespectsCommits (Tables.KeepsTrash fileId) conditions := by
  intro before after commit
  cases commit with
  | registered accepted created =>
      exact Tables.KeepsTrash.createFile created
  | overtaken accepted raced created =>
      exact Tables.KeepsTrash.createFile created
  | tagged live attached =>
      exact Tables.KeepsTrash.attachTags live attached
  | appended revertible added =>
      exact Tables.KeepsTrash.appendVersion added
  | described accepted changed =>
      exact Tables.KeepsTrash.updateDetails changed
  | trashed removed =>
      exact (Tables.KeepsTrash.within_trashFiles _ _ _).committed removed

theorem keepsTrash_runOperations (fileId : String) (schedule : List ScheduledOperation)
    (start : World) :
    start.tables.KeepsTrash fileId (runOperations schedule start).tables :=
  tablesRelated_runOperations schedule start fun scheduled _ world =>
    keepsTrash_respectsCommits fileId (scheduled.conditionsAt world)

/-! ## Operations that ask for a file -/

/-- An operation that gives an error. -/
def VaultAction.Fails {α : Type} (action : VaultAction α) (conditions : Conditions)
    (before : World) : Prop :=
  ∃ failure, (action conditions before).1 = .error failure

namespace VaultAction.Fails

variable {α β : Type} {conditions : Conditions} {before : World}

theorem throw (failure : VaultError) :
    (MonadExcept.throw failure : VaultAction α).Fails conditions before :=
  ⟨failure, rfl⟩

theorem bind {first : VaultAction α} (next : α → VaultAction β)
    (fails : first.Fails conditions before) :
    (first >>= next).Fails conditions before := by
  obtain ⟨failure, failed⟩ := fails
  rcases outcome : first conditions before with ⟨answer, between⟩
  rw [outcome] at failed
  subst failed
  exact ⟨failure, by rw [bind_apply, outcome]⟩

/-- What follows a step fails wherever the step leads. -/
theorem of_next {first : VaultAction α} {next : α → VaultAction β}
    (fails : ∀ {value between}, first conditions before = (.ok value, between) →
      (next value).Fails conditions between) :
    (first >>= next).Fails conditions before := by
  rcases outcome : first conditions before with ⟨failure | value, between⟩
  · exact bind next ⟨failure, congrArg Prod.fst outcome⟩
  · obtain ⟨failure, failed⟩ := fails outcome
    exact ⟨failure, by rw [bind_apply, outcome]; exact failed⟩

theorem map {action : VaultAction α} (convert : α → β)
    (fails : action.Fails conditions before) :
    (convert <$> action).Fails conditions before := by
  obtain ⟨failure, failed⟩ := fails
  exact ⟨failure, by rw [map_apply, failed]; rfl⟩

end VaultAction.Fails

namespace Vault

variable {conditions : Conditions} {before after : World} {fileId : String}

theorem liveFile_fails (notLive : before.tables.liveFile? fileId = none) :
    (liveFile fileId).Fails conditions before := by
  rcases looked : liveFile fileId conditions before with ⟨failure | file, after⟩
  · exact ⟨failure, congrArg Prod.fst looked⟩
  · obtain ⟨row, isLive, _⟩ := Tables.getFile_eq_some.1 (getFile_of_liveFile looked)
    rw [notLive] at isLive
    cases isLive

theorem revert_fails (notLive : before.tables.liveFile? fileId = none) (target : Int) :
    (revert fileId target).Fails conditions before := by
  have once : ∀ number, (revertOnce fileId number).Fails conditions before :=
    fun _ => (liveFile_fails notLive).bind _
  unfold revert
  split
  · exact VaultAction.Fails.throw _
  · split
    · exact VaultAction.Fails.throw _
    · exact (once _).bind _

theorem delete_eq_ok (done : delete fileId conditions before = (.ok (), after)) :
    ¬ before.tables.IsTrashed fileId ∧ after.tables.IsTrashed fileId := by
  unfold delete at done
  rw [wallClock_bind, VaultAction.bind_eq_ok] at done
  obtain ⟨moved, between, removed, done⟩ := done
  split at done
  · cases done
  · rename_i some
    cases done
    obtain ⟨other, member⟩ := List.exists_mem_of_ne_nil moved some
    obtain ⟨asked, moves⟩ := Tables.isTrashed_of_trash (committed_of_bounded_change removed) member
    obtain rfl := List.mem_singleton.1 asked
    exact moves

theorem delete_fails (trashed : before.tables.IsTrashed fileId) :
    (delete fileId).Fails conditions before := by
  rcases done : delete fileId conditions before with ⟨failure | _, after⟩
  · exact ⟨failure, congrArg Prod.fst done⟩
  · exact absurd trashed (delete_eq_ok done).1

/-- A deletion of several files reports those that it moved to the trash, and names the
others as missing. -/
theorem batchDelete_eq_ok {fileIds : List String} {deletion : BatchDeletion}
    (done : batchDelete fileIds conditions before = (.ok deletion, after)) :
    (∀ fileId ∈ deletion.deleted,
        ¬ before.tables.IsTrashed fileId ∧ after.tables.IsTrashed fileId) ∧
      ∀ fileId ∈ fileIds.filterMap nonBlank?,
        fileId ∉ deletion.deleted → fileId ∈ deletion.missing := by
  unfold batchDelete at done
  dsimp only at done
  split at done
  · cases done
  · rw [wallClock_bind, VaultAction.bind_eq_ok] at done
    obtain ⟨moved, between, removed, done⟩ := done
    cases done
    have committed := committed_of_bounded_change removed
    refine ⟨fun fileId reported => (Tables.isTrashed_of_trash committed reported).2, ?_⟩
    intro fileId asked notMoved
    refine List.mem_filter.2 ⟨mem_firstMentions.2 (Or.inr asked), ?_⟩
    simpa using notMoved

theorem updateMetadata_fails (notLive : before.tables.liveFile? fileId = none)
    (update : MetadataUpdate) :
    (updateMetadata fileId update).Fails conditions before := by
  unfold updateMetadata
  split
  · exact VaultAction.Fails.throw _
  · refine VaultAction.Fails.of_next fun {now asked} clock => ?_
    cases clock
    refine VaultAction.Fails.of_next fun {updated between} described => ?_
    have missed : updated = false :=
      Tables.not_updated_of_not_live notLive (committed_of_bounded_change described)
    rw [missed]
    exact (VaultAction.Fails.throw _).bind _

end Vault

/-- The file that an operation asks for by its identifier. -/
def Operation.subject? : Operation → Option String
  | .download fileId _ => some fileId
  | .metadata fileId _ => some fileId
  | .resolve fileId _ => some fileId
  | .versions fileId => some fileId
  | .diff fileId _ _ => some fileId
  | .revert fileId _ => some fileId
  | .delete fileId => some fileId
  | .update fileId _ => some fileId
  | .upload _ => none
  | .batchDelete _ => none
  | .list _ => none

/-- No operation that asks for a file in the trash succeeds. -/
theorem Operation.fails_of_trashed {operation : Operation} {fileId : String}
    (asks : operation.subject? = some fileId) {conditions : Conditions} {before : World}
    (trashed : before.tables.IsTrashed fileId) :
    operation.perform.Fails conditions before := by
  have lookup : (Vault.liveFile fileId).Fails conditions before :=
    Vault.liveFile_fails trashed.notLive
  cases operation with
  | upload request => cases asks
  | batchDelete fileIds => cases asks
  | list request => cases asks
  | download given selector =>
      cases asks
      exact (lookup.bind _).map _
  | metadata given selector =>
      cases asks
      exact (lookup.bind _).map _
  | resolve given selector =>
      cases asks
      exact (lookup.bind _).map _
  | versions given =>
      cases asks
      exact (lookup.bind _).map _
  | diff given fromNumber toNumber =>
      cases asks
      exact (lookup.bind _).map _
  | revert given target =>
      cases asks
      exact (Vault.revert_fails trashed.notLive target).map _
  | delete given =>
      cases asks
      exact (Vault.delete_fails trashed).map _
  | update given changes =>
      cases asks
      exact (Vault.updateMetadata_fails trashed.notLive changes).map _

/-! ## Deletions in a run -/

/-- Whether an operation reports a file as deleted. -/
def ScheduledOperation.Deletes (scheduled : ScheduledOperation) (fileId : String)
    (world : World) : Prop :=
  match scheduled.operation, (scheduled.perform world).1 with
  | .delete given, .ok _ => given = fileId
  | .batchDelete _, .ok (.batchDelete deletion) => fileId ∈ deletion.deleted
  | _, _ => False

theorem ScheduledOperation.eq_ok_of_perform {scheduled : ScheduledOperation}
    {operation : Operation} {world : World} {answer : Answer}
    (isOperation : scheduled.operation = operation)
    (succeeded : (scheduled.perform world).1 = .ok answer) :
    operation.perform (scheduled.conditionsAt world) world =
      (.ok answer, (scheduled.perform world).2) := by
  subst isOperation
  exact Prod.ext succeeded rfl

theorem ScheduledOperation.isTrashed_of_deletes {scheduled : ScheduledOperation}
    {fileId : String} {world : World} (reported : scheduled.Deletes fileId world) :
    (scheduled.perform world).2.tables.IsTrashed fileId := by
  unfold Deletes at reported
  split at reported
  · rename_i given answer isDelete succeeded
    subst reported
    obtain ⟨_, done, _⟩ := VaultAction.map_eq_ok.1 (eq_ok_of_perform isDelete succeeded)
    exact (Vault.delete_eq_ok done).2
  · rename_i fileIds deletion isDelete succeeded
    obtain ⟨_, done, same⟩ := VaultAction.map_eq_ok.1 (eq_ok_of_perform isDelete succeeded)
    cases same
    exact ((Vault.batchDelete_eq_ok done).1 fileId reported).2
  · exact reported.elim

/-- What holds of a file, in a later state, that was in the trash in an earlier one. -/
structure StaysDeleted (fileId : String) (removed later : World) : Prop where
  same : removed.tables.SameFile fileId later.tables
  spared : ∀ row ∈ removed.tables.versions, row.fileId = fileId →
    removed.LeavesBlob row.path later
  refused : ∀ next : ScheduledOperation, next.operation.subject? = some fileId →
    ∃ failure, (next.perform later).1 = .error failure
  unlisted : ∀ (next : ScheduledOperation) (request : ListRequest) (listing : Listing),
    next.operation = .list request → (next.perform later).1 = .ok (.list listing) →
      (∀ item ∈ listing.items, item.fileId ≠ fileId) ∧
        ∃ ranking,
          (Vault.sortKeyOf request.sort).Ranks later.tables.files
              (fun row => request.fromWholeSeconds.Selects later.tables row ∧
                row.fileId ≠ fileId) ranking ∧
            listing.total = ranking.length
  missing : ∀ (next : ScheduledOperation) (fileIds : List String) (deletion : BatchDeletion),
    next.operation = .batchDelete fileIds →
      (next.perform later).1 = .ok (.batchDelete deletion) →
        fileId ∈ fileIds.filterMap nonBlank? →
          fileId ∈ deletion.missing ∧ fileId ∉ deletion.deleted

theorem unlisted_of_trashed {fileId : String} {world after : World} {request : ListRequest}
    {listing : Listing} {conditions : Conditions}
    (keyed : (world.tables.files.map FileRow.fileId).Nodup)
    (trashed : world.tables.IsTrashed fileId)
    (answered : Vault.list request conditions world = (.ok listing, after)) :
    (∀ item ∈ listing.items, item.fileId ≠ fileId) ∧
      ∃ ranking,
        (Vault.sortKeyOf request.sort).Ranks world.tables.files
            (fun row => request.fromWholeSeconds.Selects world.tables row ∧
              row.fileId ≠ fileId) ranking ∧
          listing.total = ranking.length := by
  obtain ⟨ranking, ranks⟩ := (Vault.sortKeyOf request.sort).exists_ranks keyed
    (request.fromWholeSeconds.Selects world.tables)
  have shows := Vault.shows_of_list keyed ranks answered
  -- Only live files are selected, and the deleted file is not live.
  have other : ∀ row ∈ ranking, row.fileId ≠ fileId := by
    intro row member sameFile
    obtain ⟨isFile, selects⟩ := (ranks.mem_iff row).1 member
    exact trashed.trashedAt_ne_none isFile sameFile selects.live
  constructor
  · intro item member
    have isShown := List.mem_map_of_mem (f := FileMetadata.fileId) member
    rw [shows.fileIds (directionOf_eq_iff.1 rfl), List.mem_map] at isShown
    obtain ⟨row, inWindow, sameFile⟩ := isShown
    have inRanking := List.mem_of_mem_drop (List.mem_of_mem_take inWindow)
    rw [← sameFile]
    exact other row (SortDirection.mem_arrange.1 inRanking)
  · refine ⟨ranking, ⟨fun row => ?_, ranks.ascends⟩, shows.total⟩
    constructor
    · intro member
      obtain ⟨isFile, selects⟩ := (ranks.mem_iff row).1 member
      exact ⟨isFile, selects, other row member⟩
    · rintro ⟨isFile, selects, _⟩
      exact (ranks.mem_iff row).2 ⟨isFile, selects⟩

theorem staysDeleted_runOperations (later : List ScheduledOperation) {removed : World}
    {fileId : String} (evolved : Tables.empty.Evolves removed.tables)
    (addressed : ∀ row ∈ removed.tables.versions, row.IsAddressed)
    (trashed : removed.tables.IsTrashed fileId) :
    StaysDeleted fileId removed (runOperations later removed) := by
  have keeps := keepsTrash_runOperations fileId later removed
  have stillTrashed := keeps.isTrashed trashed
  have keyed := (trans_of Tables.Evolves evolved
    (evolves_runOperations later removed)).keyed_of_empty
  constructor
  · exact keeps trashed
  · rintro row member rfl
    -- The version lies under the address of content that the catalog knows for good.
    obtain ⟨folder, isPath⟩ := (addressed row member).named
    rw [isPath]
    exact leavesBlob_runOperations later removed (addressed row member).address trashed.known
  · intro next asks
    exact Operation.fails_of_trashed asks stillTrashed
  · intro next request listing isList succeeded
    obtain ⟨_, answered, same⟩ :=
      VaultAction.map_eq_ok.1 (ScheduledOperation.eq_ok_of_perform isList succeeded)
    cases same
    exact unlisted_of_trashed keyed stillTrashed answered
  · intro next fileIds deletion isDelete succeeded asked
    obtain ⟨_, done, same⟩ :=
      VaultAction.map_eq_ok.1 (ScheduledOperation.eq_ok_of_perform isDelete succeeded)
    cases same
    obtain ⟨reports, names⟩ := Vault.batchDelete_eq_ok done
    have notDeleted : fileId ∉ deletion.deleted :=
      fun reported => (reports fileId reported).1 stillTrashed
    exact ⟨names fileId asked notDeleted, notDeleted⟩

/-- The blob of a version, kept in memory, is still there later. -/
theorem blobs_stay_of_progresses {start removed later : World} {store : MemoryStore}
    (emptyTables : start.tables = Tables.empty) (inMemory : start.blobs = .memory store)
    (first : start.Progresses removed) (second : removed.Progresses later) :
    ∃ kept reached,
      removed.blobs = .memory kept ∧ later.blobs = .memory reached ∧
        ∀ row ∈ removed.tables.versions,
          ∃ blob, kept.blobAt? row.path = some blob ∧ reached.blobAt? row.path = some blob := by
  obtain ⟨kept, advances⟩ := first store inMemory
  obtain ⟨reached, onward⟩ := second kept advances.blobs
  refine ⟨kept, reached, advances.blobs, onward.blobs, fun row member => ?_⟩
  rcases advances.versions row member with ⟨old, isOld, _⟩ | ⟨blob, content⟩
  · rw [emptyTables] at isOld
    cases isOld
  · exact ⟨blob, content.found, onward.keeps.blobAt? content.found⟩

/-- The trash is absorbing: a file that a deletion has reported stays as it is and hidden
from every operation, whatever happens later, and in every state a file is marked as
trashed exactly if it has a time of trashing. -/
theorem trash_is_absorbing (schedule : List ScheduledOperation) (start : World)
    (emptyTables : start.tables = Tables.empty)
    (unrivalled : ∀ scheduled ∈ schedule, scheduled.Unrivalled) :
    (∀ row ∈ (runOperations schedule start).tables.files,
        row.status = FileStatus.trashed.text ↔ row.trashedAt.isSome = true) ∧
      ∀ (removal : ScheduledOperation) (later : List ScheduledOperation) (fileId : String),
        removal.Unrivalled → (∀ scheduled ∈ later, scheduled.Unrivalled) →
          removal.Deletes fileId (runOperations schedule start) →
            StaysDeleted fileId (removal.perform (runOperations schedule start)).2
                (runOperations later (removal.perform (runOperations schedule start)).2) ∧
              ∀ store, start.blobs = .memory store →
                ∃ kept reached,
                  (removal.perform (runOperations schedule start)).2.blobs = .memory kept ∧
                    (runOperations later
                        (removal.perform (runOperations schedule start)).2).blobs =
                      .memory reached ∧
                    ∀ row ∈ (removal.perform (runOperations schedule start)).2.tables.versions,
                      row.fileId = fileId →
                        ∃ blob,
                          kept.blobAt? row.path = some blob ∧
                            reached.blobAt? row.path = some blob := by
  have sound := sound_runOperations schedule start (emptyTables ▸ Tables.sound_empty)
  refine ⟨fun row member => (sound.files row member).status_eq_iff, ?_⟩
  intro removal later fileId removalUnrivalled laterUnrivalled reported
  have trashed := ScheduledOperation.isTrashed_of_deletes reported
  have noVersion : ∀ row ∈ start.tables.versions, row.IsAddressed := by
    rw [emptyTables]
    exact fun _ member => absurd member List.not_mem_nil
  have addressed := addressed_runOperations [removal] (runOperations schedule start)
    (by simpa using removalUnrivalled)
    (addressed_runOperations schedule start unrivalled noVersion)
  have evolved := trans_of Tables.Evolves (evolves_runOperations schedule start)
    (evolves_runOperations [removal] (runOperations schedule start))
  rw [emptyTables] at evolved
  refine ⟨staysDeleted_runOperations later evolved addressed trashed, ?_⟩
  intro store inMemory
  have toRemoval := trans_of Progresses (progresses_runOperations schedule start unrivalled)
    (ScheduledOperation.progresses removalUnrivalled (runOperations schedule start))
  obtain ⟨kept, reached, isKept, isReached, stays⟩ :=
    blobs_stay_of_progresses emptyTables inMemory toRemoval
      (progresses_runOperations later _ laterUnrivalled)
  exact ⟨kept, reached, isKept, isReached, fun row member _ => stays row member⟩

/-- Attempts to bring a deleted file back. -/
def attemptsAfterDeletion : List ScheduledOperation :=
  [undisturbed (.revert (fileIdOf Vault.firstUpload.payload) 1),
    undisturbed (.upload Vault.firstUpload)]

/-- The first upload is gone for good after its deletion. -/
theorem first_upload_stays_deleted :
    (Vault.emptyVault .empty).tables = Tables.empty ∧
      (∀ scheduled ∈ [undisturbed (.upload Vault.firstUpload)], scheduled.Unrivalled) ∧
      (∀ scheduled ∈ attemptsAfterDeletion, scheduled.Unrivalled) ∧
      (undisturbed (.delete (fileIdOf Vault.firstUpload.payload))).Unrivalled ∧
      (undisturbed (.delete (fileIdOf Vault.firstUpload.payload))).Deletes
        (fileIdOf Vault.firstUpload.payload)
        (runOperations [undisturbed (.upload Vault.firstUpload)] (Vault.emptyVault .empty)) ∧
      StaysDeleted (fileIdOf Vault.firstUpload.payload)
        ((undisturbed (.delete (fileIdOf Vault.firstUpload.payload))).perform
          (runOperations [undisturbed (.upload Vault.firstUpload)]
            (Vault.emptyVault .empty))).2
        (runOperations attemptsAfterDeletion
          ((undisturbed (.delete (fileIdOf Vault.firstUpload.payload))).perform
            (runOperations [undisturbed (.upload Vault.firstUpload)]
              (Vault.emptyVault .empty))).2) := by
  have uploads : ∀ scheduled ∈ [undisturbed (.upload Vault.firstUpload)],
      scheduled.Unrivalled :=
    List.forall_mem_singleton.2 (undisturbed_unrivalled _)
  have attempts : ∀ scheduled ∈ attemptsAfterDeletion, scheduled.Unrivalled :=
    List.forall_mem_cons.2 ⟨undisturbed_unrivalled _,
      List.forall_mem_singleton.2 (undisturbed_unrivalled _)⟩
  have succeeded : ((undisturbed (.delete (fileIdOf Vault.firstUpload.payload))).perform
      (runOperations [undisturbed (.upload Vault.firstUpload)]
        (Vault.emptyVault .empty))).1.isOk = true := by
    decide +kernel
  have reported : (undisturbed (.delete (fileIdOf Vault.firstUpload.payload))).Deletes
      (fileIdOf Vault.firstUpload.payload)
      (runOperations [undisturbed (.upload Vault.firstUpload)] (Vault.emptyVault .empty)) := by
    unfold ScheduledOperation.Deletes
    rcases answered : ((undisturbed (.delete (fileIdOf Vault.firstUpload.payload))).perform
      (runOperations [undisturbed (.upload Vault.firstUpload)]
        (Vault.emptyVault .empty))).1 with failure | answer
    · rw [answered] at succeeded
      cases succeeded
    · rfl
  have absorbing := (trash_is_absorbing [undisturbed (.upload Vault.firstUpload)]
    (Vault.emptyVault .empty) rfl uploads).2
    (undisturbed (.delete (fileIdOf Vault.firstUpload.payload))) attemptsAfterDeletion
    (fileIdOf Vault.firstUpload.payload) (undisturbed_unrivalled _) attempts reported
  exact ⟨rfl, uploads, attempts, undisturbed_unrivalled _, reported, absorbing.1⟩

end ContentVault
