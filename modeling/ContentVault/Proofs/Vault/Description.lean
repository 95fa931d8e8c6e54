import ContentVault.Proofs.Catalog.Description
import ContentVault.Proofs.Vault.Reads
import ContentVault.Proofs.Vault.Revert
import ContentVault.Proofs.Vault.Validation

/-!
# What the answer to an update tells

An update is written by one call and described by three more, each of which may fail or run
out of time.

* a refused request, an unknown file and a failed write tell that nothing was written;
* a description and a failed read tell that the update was written as a whole;
* what was described is what the file says from then on;
* the same update at the same time adds nothing, whatever its answer.
-/

namespace ContentVault

open World StoreRequest

/-! ## Reading a file back -/

/-- In a state an operation fails only because the catalog cannot be read. -/
def VaultAction.OnlyFailsReading {α : Type} (action : VaultAction α) (conditions : Conditions)
    (before : World) : Prop :=
  ∀ failure, (action conditions before).1 = .error failure → ∃ cause, failure = .catalogRead cause

namespace VaultAction.OnlyFailsReading

variable {α β : Type} {conditions : Conditions} {before : World}

theorem pure (value : α) :
    (Pure.pure value : VaultAction α).OnlyFailsReading conditions before := by
  intro failure failed
  cases failed

theorem bounded (request : StoreRequest α) :
    (Vault.bounded .catalogRead request).OnlyFailsReading conditions before := by
  intro failure failed
  change Vault.raiseAs _ (request conditions _ before).1 = _ at failed
  rcases answer : (request conditions (Vault.timeLimit conditions before) before).1 with
    cause | value
  · rw [answer] at failed
    exact ⟨cause, (Except.error.inj failed).symm⟩
  · rw [answer] at failed
    cases failed

theorem bind {first : VaultAction α} {next : α → VaultAction β}
    (firstOnly : first.OnlyFailsReading conditions before)
    (nextOnly : ∀ value between, first conditions before = (.ok value, between) →
      (next value).OnlyFailsReading conditions between) :
    (first >>= next).OnlyFailsReading conditions before := by
  intro failure failed
  rw [bind_apply] at failed
  rcases outcome : first conditions before with ⟨cause | value, between⟩
  · rw [outcome] at failed
    cases failed
    exact firstOnly failure (congrArg Prod.fst outcome)
  · rw [outcome] at failed
    exact nextOnly value between outcome failure failed

end VaultAction.OnlyFailsReading

namespace Vault

variable {conditions later : Conditions} {before after again : World} {fileId : String}
  {description : FileMetadata}

/-- A live file is found unless the catalog cannot be read. -/
theorem liveFile_onlyFailsReading (live : before.tables.isLive fileId = true) :
    (liveFile fileId).OnlyFailsReading conditions before := by
  refine VaultAction.OnlyFailsReading.bind (.bounded _) fun found between looked => ?_
  have known : before.tables.getFile fileId = .ok found := read_eq_ok (bounded_eq_ok.1 looked)
  cases found with
  | some file =>
      exact .pure file
  | none =>
      rw [Tables.getFile_eq_none, live] at known
      cases known

theorem metadata_onlyFailsReading (live : before.tables.isLive fileId = true) :
    (metadata fileId none).OnlyFailsReading conditions before :=
  (liveFile_onlyFailsReading live).bind fun _ _ _ =>
    VaultAction.OnlyFailsReading.bind (.bind (.bounded _) fun _ _ _ => .pure _) fun _ _ _ =>
      .bind (.bounded _) fun _ _ _ => .pure _

/-- What a file was described as, it is described as again while the tables stay. -/
theorem metadata_again
    (described : metadata fileId none conditions before = (.ok description, after))
    (sameTables : again.tables = before.tables) (faultless : later.faults = noFaults) :
    (metadata fileId none).Yields later again (.ok description) := by
  obtain ⟨file, looked, live, described⟩ := VaultAction.bind_eq_ok.1 described
  obtain ⟨resolved, found, resolves, described⟩ := VaultAction.bind_eq_ok.1 described
  obtain ⟨version, asked, known, resolves⟩ := VaultAction.bind_eq_ok.1 resolves
  obtain ⟨names, listed, tagged, described⟩ := VaultAction.bind_eq_ok.1 described
  cases resolves
  cases described
  have sameLooked := (liveFile_eq_ok live).2.tables
  have sameFound := (read_noted (bounded_eq_ok.1 known)).tables
  have isFile := getFile_of_liveFile live
  have isVersion := read_eq_ok (bounded_eq_ok.1 known)
  have isTagged := read_eq_ok (bounded_eq_ok.1 tagged)
  rw [sameLooked] at isVersion
  rw [sameFound, sameLooked] at isTagged
  rw [← sameTables] at isFile isVersion isTagged
  refine .bind (.bind (.query .catalogRead .getFile faultless isFile) (.pure file)) ?_
  refine .bind (.bind (.query .catalogRead .getVersion faultless isVersion) (.pure _)) ?_
  exact .bind (.query .catalogRead .tagsForFile faultless isTagged) (.pure _)

end Vault

/-! ## What an update writes -/

/-- The row of a file after an update. -/
def MetadataUpdate.rewrite (update : MetadataUpdate) (changedAt : Int64) (row : FileRow) :
    FileRow :=
  { row with
    fileName := (update.fileName.map trim).getD row.fileName
    fileType := (update.fileType.map trim).getD row.fileType
    description := update.description.getD row.description
    updatedAt := changedAt }

/-- Tables before and after an update of a live file was written: its row has the given fields,
its links lead to the tags with the given names and to no others if names are given, tags were
added for those names only, and all else is as before. -/
structure MetadataUpdate.Written (update : MetadataUpdate) (fileId : String) (changedAt : Int64)
    (before after : Tables) : Prop where
  live : before.isLive fileId = true
  files : after.files = before.files.map fun row =>
    if row.fileId = fileId ∧ row.trashedAt = none then update.rewrite changedAt row else row
  versions : after.versions = before.versions
  tags : after.tags = before.tags ++
    (((update.tags.map parseTags).getD []).filter fun name => !before.hasTagNamed name).map
      Tag.named
  untagged : update.tags = none → after.links = before.links
  tagged : ∀ text, update.tags = some text →
    (∀ name ∈ parseTags text, after.hasTagNamed name = true) ∧
      ∃ links, before.links = some links ∧
        after.links = some (firstMentions (links.filter fun link => decide (link.fileId ≠ fileId))
          ((parseTags text).map (after.linkTo fileId)))
  named : ∀ text, update.tags = some text → (before.tags.map Tag.tagId).Nodup →
    after.tagNames fileId = .ok (Tables.sortedNames (parseTags text))

/-- An update leaves a live file live. -/
theorem MetadataUpdate.Written.stillLive {update : MetadataUpdate} {fileId : String}
    {changedAt : Int64} {before after : Tables}
    (written : update.Written fileId changedAt before after) : after.isLive fileId = true := by
  have live := written.live
  rw [Tables.isLive, Option.isSome_iff_ne_none, Tables.liveFile?_ne_none_iff] at live ⊢
  obtain ⟨row, member, sameFile, notTrashed⟩ := live
  refine ⟨update.rewrite changedAt row, ?_, sameFile, notTrashed⟩
  rw [written.files, List.mem_map]
  exact ⟨row, member, if_pos ⟨sameFile, notTrashed⟩⟩

namespace Vault

theorem details_of_checkUpdate {update : MetadataUpdate} {details : FileDetails}
    (accepted : checkUpdate update = .ok details) :
    details = ⟨update.fileName.map trim, update.fileType.map trim, update.description⟩ := by
  unfold checkUpdate at accepted
  split at accepted
  · cases accepted
  · dsimp only at accepted
    split at accepted
    · cases accepted
    · cases accepted
      rfl

theorem isValidation_of_checkUpdate {update : MetadataUpdate} {failure : VaultError}
    (refused : checkUpdate update = .error failure) :
    ∃ reason, failure = .validation reason := by
  unfold checkUpdate at refused
  split at refused
  · cases refused
    exact ⟨_, rfl⟩
  · dsimp only at refused
    split at refused
    · cases refused
      exact ⟨_, rfl⟩
    · cases refused

theorem written_of_redescribed {update : MetadataUpdate} {details : FileDetails}
    {fileId : String} {changedAt : Timestamp} {before after : Tables}
    (accepted : checkUpdate update = .ok details) (tagIds : before.KeepsTagIds after)
    (redescribed : Tables.Redescribed fileId details (update.tags.map parseTags) changedAt before
      true after) :
    update.Written fileId (encodeTime changedAt) before after := by
  obtain ⟨live, written⟩ := redescribed
  obtain rfl := details_of_checkUpdate accepted
  rw [if_pos rfl] at written
  rcases given : update.tags with _ | text
  · rw [given] at written
    have absent : ∀ text, update.tags ≠ some text := by
      intro text some
      rw [given] at some
      cases some
    subst written
    exact {
      live := live.symm
      files := rfl
      versions := rfl
      tags := by
        rw [given]
        exact (List.append_nil _).symm
      untagged := fun _ => rfl
      tagged := fun text some => absurd some (absent text)
      named := fun text some => absurd some (absent text) }
  · rw [given] at written
    obtain ⟨present, found, linked⟩ := written
    obtain ⟨links, isLinks⟩ := Option.isSome_iff_exists.1 present
    have kept : (before.links.map fun links =>
        links.filter fun link => decide (link.fileId ≠ fileId)) =
          some (links.filter fun link => decide (link.fileId ≠ fileId)) := by
      rw [isLinks]
      rfl
    have distinct := nodup_parseTags text
    have noneLeft : ∀ link ∈ links.filter fun link => decide (link.fileId ≠ fileId),
        link.fileId ≠ fileId :=
      fun link member => of_decide_eq_true (List.mem_filter.1 member).2
    have isText : ∀ other, update.tags = some other → other = text := by
      intro other some
      rw [given] at some
      exact (Option.some.inj some).symm
    exact {
      live := live.symm
      files := congrArg Tables.files linked.tables
      versions := by
        rw [congrArg Tables.versions linked.tables]
        rfl
      tags := by
        rw [given]
        exact linked.tags_eq distinct
      untagged := by
        intro absent
        rw [given] at absent
        cases absent
      tagged := by
        intro other some
        obtain rfl := isText other some
        exact ⟨fun _ => linked.hasTagNamed, links, isLinks, linked.links_eq kept⟩
      named := by
        intro other some distinctIds
        obtain rfl := isText other some
        exact linked.tagNames_eq distinct (tagIds distinctIds) kept noneLeft }

/-! ## What the answer tells -/

/-- An answer that an update gives when it was written. -/
def TellsWritten (answer : Except VaultError FileMetadata) : Prop :=
  (∃ description, answer = .ok description) ∨ ∃ cause, answer = .error (.catalogRead cause)

/-- An answer that an update gives when nothing was written. -/
def TellsUnwritten (answer : Except VaultError FileMetadata) : Prop :=
  (∃ reason, answer = .error (.validation reason)) ∨
    (∃ subject, answer = .error (.notFound subject)) ∨
      ∃ cause, answer = .error (.catalogWrite cause)

theorem not_tellsUnwritten_of_tellsWritten {answer : Except VaultError FileMetadata}
    (written : TellsWritten answer) : ¬ TellsUnwritten answer := by
  rintro (⟨reason, rfl⟩ | ⟨subject, rfl⟩ | ⟨cause, rfl⟩)
  · rcases written with ⟨_, other⟩ | ⟨_, other⟩ <;> cases other
  · rcases written with ⟨_, other⟩ | ⟨_, other⟩ <;> cases other
  · rcases written with ⟨_, other⟩ | ⟨_, other⟩ <;> cases other

/-- The two ways in which an update ends. -/
inductive UpdateEnds (fileId : String) (update : MetadataUpdate) (conditions : Conditions)
    (before : World) : Except VaultError FileMetadata → World → Prop
  | unwritten {answer : Except VaultError FileMetadata} {after : World}
      (told : TellsUnwritten answer) (tables : after.tables = before.tables)
      (blobs : after.blobs = before.blobs) :
      UpdateEnds fileId update conditions before answer after
  | written {answer : Except VaultError FileMetadata} {details : FileDetails}
      {between after : World} (accepted : checkUpdate update = .ok details)
      (tagIds : before.tables.KeepsTagIds between.tables)
      (redescribed : Tables.Redescribed fileId details (update.tags.map parseTags)
        conditions.now before.tables true between.tables)
      (blobs : between.blobs = before.blobs)
      (described : metadata fileId none conditions between = (answer, after)) :
      UpdateEnds fileId update conditions before answer after

variable {update : MetadataUpdate} {answer : Except VaultError FileMetadata}

theorem updateEnds_of_updateMetadata
    (done : updateMetadata fileId update conditions before = (answer, after)) :
    UpdateEnds fileId update conditions before answer after := by
  unfold updateMetadata at done
  rcases checked : checkUpdate update with failure | details
  · rw [checked] at done
    cases done
    obtain ⟨reason, rfl⟩ := isValidation_of_checkUpdate checked
    exact .unwritten (Or.inl ⟨reason, rfl⟩) rfl rfl
  rw [checked] at done
  dsimp only at done
  rw [wallClock_bind, VaultAction.bind_apply] at done
  unfold bounded at done
  rcases called : updateDetails fileId details (update.tags.map parseTags) conditions.now
    conditions (timeLimit conditions before) before with ⟨outcome, between⟩
  rw [called] at done
  obtain ⟨blobs, _, ⟨updated, rfl, changed⟩ | ⟨⟨failure, rfl⟩, tables⟩⟩ :=
    change_outcome Work.transaction_of_error called
  · have redescribed :=
      Tables.redescribed_of_updateDetails (Work.transaction_eq_ok.1 changed)
    have tagIds : before.tables.KeepsTagIds between.tables :=
      (Work.within_updateDetails (Tables.KeepsTagIds.allowsTagging fileId) (fun _ => id)
        _).committed changed
    cases updated with
    | true =>
        exact .written checked tagIds redescribed blobs done
    | false =>
        cases done
        exact .unwritten (Or.inr (Or.inl ⟨_, rfl⟩)) redescribed.2 blobs
  · cases done
    exact .unwritten (Or.inr (Or.inr ⟨failure, rfl⟩)) tables blobs

/-- What an answer to an update tells of the stores before and after it. -/
structure UpdateTells (fileId : String) (update : MetadataUpdate) (conditions : Conditions)
    (before : World) (answer : Except VaultError FileMetadata) (after : World) : Prop where
  told : TellsUnwritten answer ∨ TellsWritten answer
  blobs : after.blobs = before.blobs
  unwritten : TellsUnwritten answer → after.tables = before.tables
  written : TellsWritten answer →
    update.Written fileId (encodeTime conditions.now) before.tables after.tables
  described : ∀ description, answer = .ok description →
    ∀ later : Conditions, later.faults = noFaults →
      (metadata fileId none).answer later after = .ok description
  repeated : TellsWritten answer → ∀ later : Conditions, later.now = conditions.now →
    (updateMetadata fileId update later after).2.tables = after.tables ∧
      (updateMetadata fileId update later after).2.blobs = after.blobs

theorem stores_of_metadata
    (described : metadata fileId none conditions before = (answer, after)) :
    after.tables = before.tables ∧ after.blobs = before.blobs := by
  have consulted := within_metadata (consulted_allowsQueries conditions) fileId none before
  rw [described] at consulted
  exact ⟨consulted.tables, consulted.blobs⟩

/-- Once an update was written, a description tells so, and only the catalog can keep it back. -/
theorem tellsWritten_of_metadata (live : before.tables.isLive fileId = true)
    (described : metadata fileId none conditions before = (answer, after)) :
    TellsWritten answer := by
  have onlyFails : (metadata fileId none).OnlyFailsReading conditions before :=
    metadata_onlyFailsReading live
  cases answer with
  | ok description =>
      exact Or.inl ⟨description, rfl⟩
  | error failure =>
      obtain ⟨cause, rfl⟩ := onlyFails failure (congrArg Prod.fst described)
      exact Or.inr ⟨cause, rfl⟩

/-- The same update at the same time as one that was written leaves both stores alone. -/
theorem UpdateEnds.repeated (ends : UpdateEnds fileId update conditions before answer after)
    (written : TellsWritten answer) (sameTime : later.now = conditions.now)
    {answerAgain : Except VaultError FileMetadata}
    (endsAgain : UpdateEnds fileId update later after answerAgain again) :
    again.tables = after.tables ∧ again.blobs = after.blobs := by
  cases ends with
  | unwritten told _ _ =>
      exact absurd told (not_tellsUnwritten_of_tellsWritten written)
  | written accepted _ redescribed _ described =>
      cases endsAgain with
      | unwritten _ tables blobs =>
          exact ⟨tables, blobs⟩
      | written acceptedAgain _ redescribedAgain blobs describedAgain =>
          obtain ⟨sameTables, _⟩ := stores_of_metadata described
          obtain ⟨lastTables, lastBlobs⟩ := stores_of_metadata describedAgain
          cases accepted.symm.trans acceptedAgain
          rw [sameTime, sameTables] at redescribedAgain
          rw [lastTables, lastBlobs, redescribed.again redescribedAgain, sameTables]
          exact ⟨rfl, blobs⟩

/-- Whatever the state, the update and the faults and delays on its way: from the answer to an
update its caller learns whether it was written, and what was written then is the whole update
and nothing else. -/
theorem update_outcome_tells_what_was_written (fileId : String) (update : MetadataUpdate)
    (conditions : Conditions) (before : World) :
    UpdateTells fileId update conditions before
      (updateMetadata fileId update conditions before).1
      (updateMetadata fileId update conditions before).2 := by
  rcases done : updateMetadata fileId update conditions before with ⟨answer, after⟩
  have ends := updateEnds_of_updateMetadata done
  have repeated : TellsWritten answer → ∀ later : Conditions, later.now = conditions.now →
      (updateMetadata fileId update later after).2.tables = after.tables ∧
        (updateMetadata fileId update later after).2.blobs = after.blobs :=
    fun written _ sameTime =>
      ends.repeated written sameTime (updateEnds_of_updateMetadata rfl)
  cases ends with
  | unwritten told tables blobs =>
      have notWritten : ¬ TellsWritten answer :=
        fun written => not_tellsUnwritten_of_tellsWritten written told
      exact {
        told := Or.inl told
        blobs := blobs
        unwritten := fun _ => tables
        written := fun written => absurd written notWritten
        described := fun description isOk => absurd (Or.inl ⟨description, isOk⟩) notWritten
        repeated := repeated }
  | written accepted tagIds redescribed blobs described =>
      obtain ⟨sameTables, sameBlobs⟩ := stores_of_metadata described
      have written := written_of_redescribed accepted tagIds redescribed
      have tells := tellsWritten_of_metadata written.stillLive described
      exact {
        told := Or.inr tells
        blobs := sameBlobs.trans blobs
        unwritten := fun told => absurd told (not_tellsUnwritten_of_tellsWritten tells)
        written := fun _ => sameTables.symm ▸ written
        described := by
          rintro description rfl later faultless
          exact (metadata_again described sameTables faultless).answer_eq
        repeated := repeated }

/-- A new name and other tags for the first upload. -/
def newLabels : MetadataUpdate := ⟨some " plan.md ", none, none, some "home, travel"⟩

/-- A catalog that cannot look up files. -/
def unreadable : CatalogCall → Nat → Option Fault := fun call _ =>
  if call = .getFile then some (.fail .database) else none

/-- An update that could not be read back was written. -/
theorem unread_update_is_written :
    (updateMetadata (fileIdOf firstUpload.payload) newLabels (conditionsWith unreadable)
        storedVault).1 = .error (.catalogRead (.catalog .database)) ∧
      newLabels.Written (fileIdOf firstUpload.payload) (encodeTime firstMoment) storedVault.tables
        (updateMetadata (fileIdOf firstUpload.payload) newLabels (conditionsWith unreadable)
          storedVault).2.tables := by
  have unread : (updateMetadata (fileIdOf firstUpload.payload) newLabels
      (conditionsWith unreadable) storedVault).1 = .error (.catalogRead (.catalog .database)) := by
    decide +kernel
  exact ⟨unread, (update_outcome_tells_what_was_written (fileIdOf firstUpload.payload) newLabels
    (conditionsWith unreadable) storedVault).written (Or.inr ⟨_, unread⟩)⟩

end Vault

end ContentVault
