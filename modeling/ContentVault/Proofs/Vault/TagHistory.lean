import ContentVault.Proofs.Catalog.Linkage
import ContentVault.Proofs.Text.Order
import ContentVault.Proofs.Vault.Description
import ContentVault.Proofs.Vault.LostRace
import ContentVault.Proofs.Vault.OwnLabels
import ContentVault.Proofs.Vault.Tags

/-!
# The tags of a file through a run

What the tags that a file shows have to do with the texts from which they were set, in every
state that a run of operations reaches from empty tables, whatever faults and rivals it meets.

* an upload without a warning and a written update with a text of tags set the tags of their
  file, and no operation touches the tags of any other file;
* a file shows the names that were set last, each once and in the order of their bytes;
* to set the names again that a file shows changes nothing.
-/

namespace ContentVault

open World StoreRequest

/-! ## Operations that set tags -/

/-- Whether an update was written, as its answer tells. -/
def Vault.toldWritten {α : Type} : Except VaultError α → Bool
  | .ok _ => true
  | .error (.catalogRead _) => true
  | .error _ => false

/-- The names that an operation set for each file, as its answer tells: an upload those that its
text lists, or none if it warns that it could not, and an update those that its text lists, if
it was written and has one. -/
def Operation.tagsSet :
    Operation → Except VaultError Answer → String → Option (List String)
  | .upload request, .ok (.upload receipt) =>
      Tables.setFor receipt.fileId
        (some (if receipt.warnings = [] then parseTags request.tags else []))
  | .update fileId changes, answer =>
      Tables.setFor fileId
        (if Vault.toldWritten answer then changes.tags.map parseTags else none)
  | _, _ => fun _ => none

/-- The names that were set last for a file in a run, or given ones if none were set. -/
def latestTags (fileId : String) :
    List ScheduledOperation → World → List String → List String
  | [], _, names => names
  | scheduled :: rest, world, names =>
      latestTags fileId rest (scheduled.perform world).2
        ((scheduled.operation.tagsSet (scheduled.perform world).1 fileId).getD names)

/-! ## One operation -/

/-- Two catalogs with the same tags and links. -/
structure Tables.SameTags (before after : Tables) : Prop where
  tags : after.tags = before.tags
  links : after.links = before.links

instance : IsPreorder Tables Tables.SameTags where
  refl := fun _ => ⟨rfl, rfl⟩
  trans := fun _ _ _ left right =>
    ⟨right.tags.trans left.tags, right.links.trans left.links⟩

theorem Tables.SameTags.of_eq {before after : Tables} (same : after = before) :
    before.SameTags after :=
  same ▸ refl_of SameTags before

theorem Tables.SameTags.tagsFollow {before after : Tables} (same : before.SameTags after) :
    TagsFollow (fun _ => none) before after :=
  tagsFollow_of_same same.tags same.links

theorem Tables.SameTags.tagsFollow_trans {set : String → Option (List String)}
    {before between after : Tables} (same : before.SameTags between)
    (follow : TagsFollow set between after) : TagsFollow set before after where
  tags := same.tags ▸ follow.tags
  untouched := by
    intro fileId notSet
    rw [follow.untouched fileId notSet, part, part, same.links]
  named := follow.named

theorem sameTags_allowsMoves (conditions : Conditions) :
    AllowsMoves (TablesRelated Tables.SameTags) conditions where
  trash := by
    refine fun fileIds limit before => tablesRelated_change (fun removed => ?_) limit
    have moves := Tables.trashFiles_eq conditions.now fileIds [] before.tables
    rw [Work.transaction_eq_ok.1 removed] at moves
    obtain ⟨_, rfl⟩ := Prod.mk.inj moves
    exact ⟨rfl, rfl⟩
  append := by
    refine fun _ _ limit => tablesRelated_change (fun added => ?_) limit
    obtain ⟨_, _, _, _, _, rfl⟩ := Tables.appendVersion_eq_ok.1 added
    exact ⟨rfl, rfl⟩

theorem Tables.SameTags.created {before after : Tables} {file : FileRecord}
    {version : VersionRecord} (created : before.createFile file version = (.ok (), after)) :
    before.SameTags after := by
  obtain ⟨_, _, _, _, _, _, _, _, rfl⟩ := createFile_eq_ok.1 created
  exact ⟨rfl, rfl⟩

theorem sameTags_afterRival (file : FileRecord) (version : VersionRecord)
    (fault : Option Fault) (tables : Tables) :
    tables.SameTags (afterRival file version fault tables) := by
  unfold afterRival rivalled
  split
  · rename_i owner path
    change tables.SameTags
      (tables.createFile (rivalFile file owner path) (rivalVersion file version path)).2
    rcases raced : tables.createFile (rivalFile file owner path)
      (rivalVersion file version path) with ⟨failure | _, changed⟩
    · rw [Work.transaction_of_error raced]
      exact refl_of Tables.SameTags tables
    · exact Tables.SameTags.created raced
  · exact refl_of Tables.SameTags tables

namespace Vault

variable {conditions : Conditions} {before between after : World} {links : List TagLink}

/-- A file that could be registered was not registered before, nor by a rival. -/
theorem new_of_storeContent {file : FileRecord} {payload : ByteArray}
    (stored : storeContent file payload conditions before = (.ok (), after)) :
    ∃ row, row.fileId = file.fileId ∧ before.tables.hasFile file.fileId = false ∧
      after.tables.files = before.tables.files ++ [row] ∧
        before.tables.SameTags after.tables := by
  rcases tables_of_storeContent stored with ⟨_, created⟩ | ⟨⟨failure, failed⟩, _⟩
  · have noRace : ∀ owner path,
        before.nextFault conditions .createFile ≠ some (.loseRace owner path) := by
      intro owner path raced
      rw [raced] at created
      exact createFile_after_rival created
    rw [afterRival_of_no_race noRace] at created
    have same := Tables.SameTags.created created
    obtain ⟨_, _, row, _, encoded, _, new, _, tables⟩ := Tables.createFile_eq_ok.1 created
    obtain ⟨_, rfl⟩ := FileRecord.toRow_eq_ok.1 encoded
    exact ⟨_, rfl, new, congrArg Tables.files tables, same⟩
  · cases failed

/-- Tags are attached to a file that was new, or a warning tells that it has none. -/
theorem tagsFollow_attachUploadTags {fileId : String} {names : List String}
    {warnings : List UploadWarning} (distinct : names.Nodup)
    (wellLinked : before.tables.WellLinked links)
    (unlinked : ∀ link ∈ links, link.fileId ≠ fileId)
    (attached : attachUploadTags fileId names conditions before = (.ok warnings, after)) :
    Tables.TagsFollow (Tables.setFor fileId (some (if warnings = [] then names else [])))
      before.tables after.tables := by
  rcases (attachUploadTags_cases attached).2 with ⟨rfl, answer, committed⟩ | ⟨warned, same⟩
  · obtain ⟨_, _, linked⟩ := linked_of_linkTags (Work.transaction_eq_ok.1 committed)
    exact linked.tagsFollow
      ((Work.within_linkTags (Tables.KeepsTagIds.allowsTagging fileId) _ _).committed committed)
      distinct wellLinked unlinked
  · rw [if_neg warned, same]
    refine ⟨List.prefix_rfl, fun _ _ => rfl, fun asked set isSet => ?_⟩
    rw [Tables.setFor] at isSet
    split at isSet
    · rename_i isFile
      cases isSet
      exact isFile ▸ Tables.tagNames_of_unlinked wellLinked.present unlinked
    · cases isSet

theorem tagsFollow_upload (request : UploadRequest)
    (wellLinked : before.tables.WellLinked links) :
    Tables.TagsFollow
      ((Operation.upload request).tagsSet ((upload request conditions before).1.map .upload))
      before.tables (upload request conditions before).2.tables := by
  rw [upload_eq]
  rcases accepted : checkUpload conditions.settings request with failure | fileName
  · exact (refl_of Tables.SameTags before.tables).tagsFollow
  dsimp only
  generalize uploadedFile request fileName conditions.now = file
  have looked : before.OnlyRead (ensureUnique file.fileId file.path conditions before).2 :=
    within_ensureUnique (onlyRead_allowsLookups conditions) before
  rw [uploadAccepted, VaultAction.bind_apply]
  rcases passed : ensureUnique file.fileId file.path conditions before with
    ⟨failure | _, between⟩
  · rw [passed] at looked
    exact (Tables.SameTags.of_eq looked.tables).tagsFollow
  rw [passed] at looked
  rw [← looked.tables] at wellLinked ⊢
  simp only [VaultAction.bind_apply]
  rcases stored : storeContent file request.payload conditions between with
    ⟨failure | _, registered⟩
  · refine Tables.SameTags.tagsFollow ?_
    rcases tables_of_storeContent stored with ⟨succeeded, _⟩ | ⟨_, same | raced⟩
    · cases succeeded
    · exact Tables.SameTags.of_eq same
    · exact raced ▸ sameTags_afterRival file _ _ between.tables
  obtain ⟨_, _, new, files, same⟩ := new_of_storeContent stored
  have stillLinked : registered.tables.WellLinked links :=
    wellLinked.of_files same.tags same.links fun old member =>
      Tables.hasFile_eq_true_iff.2 ⟨old, files ▸ List.mem_append_left _ member, rfl⟩
  have unlinked : ∀ link ∈ links, link.fileId ≠ file.fileId := by
    intro link member sameFile
    have known := wellLinked.linkedFiles link member
    rw [sameFile, new] at known
    cases known
  rcases attached : attachUploadTags file.fileId (parseTags request.tags) conditions registered
    with ⟨failure | warnings, last⟩
  · exact absurd attached attachUploadTags_ne_error
  · simp only [attached]
    exact same.tagsFollow_trans
      (tagsFollow_attachUploadTags (nodup_parseTags _) stillLinked unlinked attached)

theorem toldWritten_of_tellsUnwritten {answer : Except VaultError FileMetadata}
    (told : TellsUnwritten answer) : toldWritten (answer.map Answer.metadata) = false := by
  rcases told with ⟨_, rfl⟩ | ⟨_, rfl⟩ | ⟨_, rfl⟩ <;> rfl

theorem toldWritten_of_tellsWritten {answer : Except VaultError FileMetadata}
    (told : TellsWritten answer) : toldWritten (answer.map Answer.metadata) = true := by
  rcases told with ⟨_, rfl⟩ | ⟨_, rfl⟩ <;> rfl

theorem tagsFollow_updateMetadata (fileId : String) (update : MetadataUpdate)
    (wellLinked : before.tables.WellLinked links) :
    Tables.TagsFollow
      ((Operation.update fileId update).tagsSet
        ((updateMetadata fileId update conditions before).1.map .metadata))
      before.tables (updateMetadata fileId update conditions before).2.tables := by
  rcases done : updateMetadata fileId update conditions before with ⟨answer, after⟩
  cases updateEnds_of_updateMetadata done with
  | unwritten told tables _ =>
      have noneSet : (Operation.update fileId update).tagsSet (answer.map .metadata) =
          fun _ => none := by
        funext asked
        rw [Operation.tagsSet, toldWritten_of_tellsUnwritten told, if_neg Bool.false_ne_true,
          Tables.setFor, ite_self]
      rw [noneSet]
      exact (Tables.SameTags.of_eq tables).tagsFollow
  | written accepted tagIds redescribed _ described =>
      have sameTables := (stores_of_metadata described).1
      have told := tellsWritten_of_metadata
        (written_of_redescribed accepted tagIds redescribed).stillLive described
      have distinct : ∀ names, update.tags.map parseTags = some names → names.Nodup := by
        intro names isSome
        obtain ⟨text, _, rfl⟩ := Option.map_eq_some_iff.1 isSome
        exact nodup_parseTags text
      rw [Operation.tagsSet, toldWritten_of_tellsWritten told, if_pos rfl, sameTables]
      exact redescribed.tagsFollow tagIds distinct wellLinked

end Vault

/-- An operation leaves all tags alone but those that its answer tells. -/
theorem Operation.tagsFollow (operation : Operation) (conditions : Conditions) (before : World)
    {links : List TagLink} (wellLinked : before.tables.WellLinked links) :
    Tables.TagsFollow (operation.tagsSet (operation.perform conditions before).1) before.tables
      (operation.perform conditions before).2.tables := by
  by_cases sets : (∃ request, operation = .upload request) ∨
      ∃ fileId update, operation = .update fileId update
  · rcases sets with ⟨request, rfl⟩ | ⟨fileId, update, rfl⟩
    · rw [perform, VaultAction.map_apply]
      exact Vault.tagsFollow_upload request wellLinked
    · rw [perform, VaultAction.map_apply]
      exact Vault.tagsFollow_updateMetadata fileId update wellLinked
  · rw [not_or] at sets
    have same : before.tables.SameTags (operation.perform conditions before).2.tables :=
      Operation.related_of_moves (tablesRelated_allowsLookups conditions)
        (sameTags_allowsMoves conditions)
        (fun request isUpload => absurd ⟨request, isUpload⟩ sets.1)
        fun fileId update isUpdate => absurd ⟨fileId, update, isUpdate⟩ sets.2
    have noneSet : ∀ answer, operation.tagsSet answer = fun _ => none := by
      intro answer
      cases operation with
      | upload request =>
          exact absurd ⟨request, rfl⟩ sets.1
      | update fileId update =>
          exact absurd ⟨fileId, update, rfl⟩ sets.2
      | _ =>
          rfl
    rw [noneSet]
    exact same.tagsFollow

/-! ## Runs -/

theorem staysWellLinked_respectsCommits (conditions : Conditions) :
    RespectsCommits Tables.StaysWellLinked conditions := by
  intro before after commit
  cases commit with
  | registered accepted created =>
      exact Tables.StaysWellLinked.created created
  | overtaken accepted raced created =>
      exact Tables.StaysWellLinked.created created
  | tagged live attached =>
      exact Tables.StaysWellLinked.tagged live attached
  | appended revertible added =>
      exact Tables.StaysWellLinked.appended added
  | described accepted changed =>
      exact Tables.StaysWellLinked.described
        ((Work.within_updateDetails (Tables.KeepsTagIds.allowsTagging _) (fun _ => id)
          _).committed changed)
        (Tables.redescribed_of_updateDetails (Work.transaction_eq_ok.1 changed))
  | trashed removed =>
      exact Tables.StaysWellLinked.trashed removed

theorem wellLinked_runOperations (schedule : List ScheduledOperation) {start : World}
    {links : List TagLink} (wellLinked : start.tables.WellLinked links) :
    ∃ more, (runOperations schedule start).tables.WellLinked more :=
  tablesRelated_runOperations schedule start
    (fun scheduled _ world => staysWellLinked_respectsCommits (scheduled.conditionsAt world))
    links wellLinked

theorem ScheduledOperation.tagsFollow (scheduled : ScheduledOperation) (before : World)
    {links : List TagLink} (wellLinked : before.tables.WellLinked links) :
    Tables.TagsFollow (scheduled.operation.tagsSet (scheduled.perform before).1) before.tables
      (scheduled.perform before).2.tables :=
  scheduled.operation.tagsFollow (scheduled.conditionsAt before) before wellLinked

/-- After a run a file carries the names that were set for it last. -/
theorem tagNames_runOperations (schedule : List ScheduledOperation) {start : World}
    {links : List TagLink} (wellLinked : start.tables.WellLinked links) {fileId : String}
    {names : List String}
    (carried : start.tables.tagNames fileId = .ok (Tables.sortedNames names)) :
    (runOperations schedule start).tables.tagNames fileId =
      .ok (Tables.sortedNames (latestTags fileId schedule start names)) := by
  induction schedule generalizing start links names with
  | nil =>
      exact carried
  | cons scheduled rest inductionHypothesis =>
      have follow := scheduled.tagsFollow start wellLinked
      obtain ⟨more, stillLinked⟩ := wellLinked_runOperations [scheduled] wellLinked
      refine inductionHypothesis stillLinked ?_
      rcases isSet : scheduled.operation.tagsSet (scheduled.perform start).1 fileId with _ | set
      · rw [Option.getD_none, ← carried]
        exact wellLinked.tagNames_eq follow.tags (follow.untouched fileId isSet)
      · exact follow.named fileId set isSet

theorem tags_runOperations (schedule : List ScheduledOperation) {start : World}
    {links : List TagLink} (wellLinked : start.tables.WellLinked links) :
    start.tables.tags <+: (runOperations schedule start).tables.tags := by
  induction schedule generalizing start links with
  | nil =>
      exact List.prefix_rfl
  | cons scheduled rest inductionHypothesis =>
      obtain ⟨more, stillLinked⟩ := wellLinked_runOperations [scheduled] wellLinked
      exact (scheduled.tagsFollow start wellLinked).tags.trans (inductionHypothesis stillLinked)

/-- Names that a text can list: names of tags, each once. -/
def AreTagNames (names : List String) : Prop :=
  names.Nodup ∧ ∀ name ∈ names, IsTagName name

theorem areTagNames_nil : AreTagNames [] := ⟨List.nodup_nil, nofun⟩

theorem areTagNames_parseTags (text : String) : AreTagNames (parseTags text) :=
  ⟨nodup_parseTags text, fun _ => isTagName_of_mem_parseTags⟩

theorem Operation.areTagNames_of_tagsSet {operation : Operation}
    {answer : Except VaultError Answer} {fileId : String} {names : List String}
    (isSet : operation.tagsSet answer fileId = some names) : AreTagNames names := by
  unfold tagsSet Tables.setFor at isSet
  split at isSet
  · split at isSet
    · cases isSet
      split
      · exact areTagNames_parseTags _
      · exact areTagNames_nil
    · cases isSet
  · split at isSet
    · split at isSet
      · obtain ⟨text, _, rfl⟩ := Option.map_eq_some_iff.1 isSet
        exact areTagNames_parseTags text
      · cases isSet
    · cases isSet
  · cases isSet

theorem areTagNames_latestTags (fileId : String) (schedule : List ScheduledOperation)
    (start : World) {names : List String} (given : AreTagNames names) :
    AreTagNames (latestTags fileId schedule start names) := by
  induction schedule generalizing start names with
  | nil =>
      exact given
  | cons scheduled rest inductionHypothesis =>
      refine inductionHypothesis _ ?_
      rcases isSet : scheduled.operation.tagsSet (scheduled.perform start).1 fileId with _ | set
      · exact given
      · exact Operation.areTagNames_of_tagsSet isSet

/-! ## What a file shows -/

/-- Names in the order in which they are shown. -/
theorem pairwise_sortedNames {names : List String} (distinct : names.Nodup) :
    (Tables.sortedNames names).Pairwise
      fun first second => Utf8.encode first < Utf8.encode second := by
  have inOrder : (Tables.sortedNames names).Pairwise (· ≤ ·) :=
    List.pairwise_mergeSort' (· ≤ ·) names
  have different : (Tables.sortedNames names).Nodup :=
    (List.mergeSort_perm names _).nodup_iff.2 distinct
  refine (inOrder.and different).imp ?_
  rintro first second ⟨notLater, notSame⟩
  exact Utf8.encode_lt_encode (lt_of_le_of_ne notLater notSame)

theorem sortedNames_sortedNames (names : List String) :
    Tables.sortedNames (Tables.sortedNames names) = Tables.sortedNames names := by
  refine List.mergeSort_of_pairwise ?_
  refine (List.pairwise_mergeSort' (· ≤ ·) names).imp ?_
  exact fun notLater => decide_eq_true notLater

/-- How a live file shows the names that were set for it last: they are told
in the order of their bytes, and to set them again leaves the links and the tags alone. -/
structure World.ShowsTags (world : World) (fileId : String) (latest names : List String) :
    Prop where
  described : ∀ conditions selector description,
    (Vault.metadata fileId selector).answer conditions world = .ok description →
      description.tags = names
  answered : ∀ conditions : Conditions, conditions.faults = noFaults →
    ∃ description, (Vault.metadata fileId none).answer conditions world = .ok description
  ascending : names.Pairwise fun first second => Utf8.encode first < Utf8.encode second
  named : ∀ name ∈ names, IsTagName name
  latest : ∀ name, name ∈ names ↔ name ∈ latest
  restored : ∀ (conditions : Conditions) (update : MetadataUpdate),
    update.tags = some (",".intercalate names) →
      (Vault.updateMetadata fileId update conditions world).2.tables.tags = world.tables.tags ∧
        ∃ links others, world.tables.links = some links ∧
          (Vault.updateMetadata fileId update conditions world).2.tables.links = some others ∧
            others.Perm links
  accepted : ∀ conditions : Conditions, conditions.faults = noFaults →
    ∃ description,
      (Vault.updateMetadata fileId ⟨none, none, none, some (",".intercalate names)⟩).answer
          conditions world = .ok description ∧
        description.tags = names

namespace Vault

variable {conditions : Conditions} {world : World} {fileId : String} {row : FileRow}
  {links : List TagLink} {names : List String}

theorem tags_of_metadata {selector : Option Int} {description : FileMetadata}
    (described : (metadata fileId selector).answer conditions world = .ok description)
    (carried : world.tables.tagNames fileId = .ok names) : description.tags = names := by
  rcases done : metadata fileId selector conditions world with ⟨answer, after⟩
  rw [VaultAction.answer, done] at described
  cases described
  obtain ⟨file, looked, live, described⟩ := VaultAction.bind_eq_ok.1 done
  obtain ⟨resolved, found, resolves, described⟩ := VaultAction.bind_eq_ok.1 described
  obtain ⟨told, listed, tagged, described⟩ := VaultAction.bind_eq_ok.1 described
  cases described
  have isTagged := read_eq_ok (bounded_eq_ok.1 tagged)
  have resolvedTables := within_resolveIn (onlyRead_allowsLookups conditions).queries file
    selector looked
  rw [resolves] at resolvedTables
  rw [resolvedTables.tables, (liveFile_eq_ok live).2.tables] at isTagged
  have sameNames := Tables.databaseError_eq_ok.1 isTagged
  rw [carried] at sameNames
  exact (Except.ok.inj sameNames).symm

/-- A live file is described, unless the catalog has faults. -/
theorem exists_metadata (evolves : Tables.empty.Evolves world.tables)
    (sound : world.tables.Sound) (member : row ∈ world.tables.files)
    (live : row.trashedAt = none) (faultless : conditions.faults = noFaults) :
    ∃ description, (metadata row.fileId none).answer conditions world = .ok description := by
  obtain ⟨file, versions, isFile, history⟩ := evolves.exists_history sound member live
  obtain ⟨told, carried⟩ := Tables.exists_tagNames sound.links file.fileId
  obtain ⟨version, isVersion, isCurrent, _⟩ := history.current
  have described := (yields_metadata history faultless carried none).answer_eq
  have isWanted : (version.number.toNat : Int) = wantedNumber file none := by
    rw [isCurrent]
    rfl
  rw [resolution_of_mem history isVersion isWanted] at described
  rw [← FileRow.fileId_of_toRecord isFile]
  exact ⟨_, described⟩

/-- To set the names again that a file carries leaves its links and all tags alone. -/
theorem tags_of_updateMetadata (update : MetadataUpdate)
    (wellLinked : world.tables.WellLinked links)
    (tagNames : (world.tables.tags.map Tag.name).Nodup)
    (carried : world.tables.tagNames fileId = .ok names)
    (given : update.tags.map parseTags = some names) :
    (updateMetadata fileId update conditions world).2.tables.tags = world.tables.tags ∧
      ∃ others, (updateMetadata fileId update conditions world).2.tables.links = some others ∧
        others.Perm links := by
  rcases done : updateMetadata fileId update conditions world with ⟨answer, after⟩
  cases updateEnds_of_updateMetadata done with
  | unwritten _ tables _ =>
      rw [tables]
      exact ⟨rfl, links, wellLinked.present, List.Perm.refl links⟩
  | written accepted tagIds redescribed _ described =>
      rw [(stores_of_metadata described).1]
      obtain ⟨_, written⟩ := redescribed
      rw [if_pos rfl, given] at written
      obtain ⟨_, _, linked⟩ := written
      refine Tables.Linked.perm_of_carried wellLinked tagNames carried ?_ ?_ linked
      · rfl
      · exact ((wellLinked.describing _ _ _).unlinked fileId).present

theorem updateDetails_of_noFaults {details : FileDetails} {tags : Option (List String)}
    {updated : Bool} {after : Tables} (faultless : conditions.faults = noFaults)
    (changed : world.tables.updateDetails fileId details tags conditions.now =
      (.ok updated, after)) :
    ∃ between : World, between.tables = after ∧
      bounded .catalogWrite (updateDetails fileId details tags conditions.now) conditions world =
        (.ok updated, between) := by
  have through : Fault.letsThrough (timeLimit conditions world)
      (world.nextFault conditions .updateDetails) = true := by
    rw [nextFault, faultless]
    rfl
  obtain ⟨between, _, outcome⟩ := change_of_letsThrough
    (fun tables => tables.updateDetails fileId details tags conditions.now) through
  rw [changed] at outcome
  exact ⟨_, rfl, bounded_eq_ok.2 outcome⟩

/-- An update that sets the names again that a file carries succeeds, unless the catalog has
faults. -/
theorem exists_updateMetadata {text : String} (evolves : Tables.empty.Evolves world.tables)
    (sound : world.tables.Sound) (labelled : world.tables.Labelled)
    (live : world.tables.isLive fileId = true)
    (carried : world.tables.tagNames fileId = .ok names)
    (inOrder : Tables.sortedNames names = names) (listed : parseTags text = names)
    (faultless : conditions.faults = noFaults) :
    ∃ description,
      (updateMetadata fileId ⟨none, none, none, some text⟩).answer conditions world =
          .ok description ∧
        description.tags = names := by
  have accepted : checkUpdate ⟨none, none, none, some text⟩ = .ok ⟨none, none, none⟩ := rfl
  obtain ⟨after, changed⟩ := Tables.exists_updateDetails live sound.links
    (Tables.hasTagNamed_of_carried labelled.tagIds labelled.tagNames carried)
    ⟨none, none, none⟩ conditions.now
  obtain ⟨between, tables, called⟩ := updateDetails_of_noFaults faultless changed
  subst tables
  have commit : world.tables.Commit conditions between.tables :=
    .described accepted (by rw [Option.map_some, listed]; exact changed)
  have redescribed := Tables.redescribed_of_updateDetails (Work.transaction_eq_ok.1 changed)
  rw [← listed] at redescribed
  have written : MetadataUpdate.Written ⟨none, none, none, some text⟩ fileId
      (encodeTime conditions.now) world.tables between.tables := written_of_redescribed accepted
    ((Work.within_updateDetails (Tables.KeepsTagIds.allowsTagging fileId) (fun _ => id)
      _).committed changed) redescribed
  have stillCarried := written.named text rfl labelled.tagIds
  rw [listed, inOrder] at stillCarried
  have stillLive := written.stillLive
  rw [Tables.isLive, Option.isSome_iff_ne_none, Tables.liveFile?_ne_none_iff] at stillLive
  obtain ⟨row, member, rfl, notTrashed⟩ := stillLive
  have stillEvolves : Tables.empty.Evolves between.tables :=
    trans_of Tables.Evolves evolves (evolves_respectsCommits conditions commit)
  have stillSound : between.tables.Sound := staysSound_respectsCommits conditions commit sound
  obtain ⟨description, described⟩ :=
    exists_metadata stillEvolves stillSound member notTrashed faultless
  refine ⟨description, ?_, tags_of_metadata described stillCarried⟩
  rw [VaultAction.answer, updateMetadata, accepted]
  dsimp only
  rw [wallClock_bind, VaultAction.bind_apply, Option.map_some, listed, called]
  exact described

end Vault

/-- A live file that carries names shows them, in the order of their bytes. -/
theorem World.showsTags_of_carried {world : World} {row : FileRow} {links : List TagLink}
    {latest : List String} (evolves : Tables.empty.Evolves world.tables)
    (sound : world.tables.Sound) (labelled : world.tables.Labelled)
    (wellLinked : world.tables.WellLinked links) (member : row ∈ world.tables.files)
    (live : row.trashedAt = none) (areNames : AreTagNames latest)
    (carried : world.tables.tagNames row.fileId = .ok (Tables.sortedNames latest)) :
    world.ShowsTags row.fileId latest (Tables.sortedNames latest) := by
  obtain ⟨distinct, named⟩ := areNames
  have shown : ∀ name, name ∈ Tables.sortedNames latest ↔ name ∈ latest :=
    fun name => List.mem_mergeSort
  have inOrder := sortedNames_sortedNames latest
  have listed : parseTags (",".intercalate (Tables.sortedNames latest)) =
      Tables.sortedNames latest := by
    rw [parseTags_intercalate fun name member => named name ((shown name).1 member)]
    exact firstMentions_of_nodup ((List.mergeSort_perm _ _).nodup_iff.2 distinct)
  have ascending := pairwise_sortedNames distinct
  generalize Tables.sortedNames latest = names at carried shown inOrder listed ascending
  have isLive : world.tables.isLive row.fileId = true := by
    rw [Tables.isLive, Option.isSome_iff_ne_none, Tables.liveFile?_ne_none_iff]
    exact ⟨row, member, rfl, live⟩
  exact {
    described := fun _ _ _ described => Vault.tags_of_metadata described carried
    answered := fun _ faultless => Vault.exists_metadata evolves sound member live faultless
    ascending := ascending
    named := fun name member => named name ((shown name).1 member)
    latest := shown
    restored := by
      intro conditions update given
      obtain ⟨tags, others, isOthers, sameLinks⟩ :=
        Vault.tags_of_updateMetadata update wellLinked labelled.tagNames carried
          (by rw [given, Option.map_some, listed])
      exact ⟨tags, links, others, wellLinked.present, isOthers, sameLinks⟩
    accepted := fun _ faultless =>
      Vault.exists_updateMetadata evolves sound labelled isLive carried inOrder listed
        faultless }

/-- The tags of files survive the store. In every state that a run of operations reaches from
empty tables, each live file shows the names that were set for it last, and an update with their
joined text leaves them as they are; a name has one tag, no tag is ever removed, and an operation
that sets the tags of a file leaves the links of all others alone. -/
theorem tags_survive_the_store (schedule : List ScheduledOperation) (start : World)
    (emptyTables : start.tables = Tables.empty) :
    (∀ row ∈ (runOperations schedule start).tables.files, row.trashedAt = none →
        ∃ names,
          (runOperations schedule start).ShowsTags row.fileId
            (latestTags row.fileId schedule start []) names) ∧
      ((runOperations schedule start).tables.tags.map Tag.name).Nodup ∧
      (∀ earlier later, schedule = earlier ++ later →
        (runOperations earlier start).tables.tags <+:
          (runOperations schedule start).tables.tags) ∧
      ∀ earlier scheduled later, schedule = earlier ++ scheduled :: later →
        Tables.TagsFollow
          (scheduled.operation.tagsSet (scheduled.perform (runOperations earlier start)).1)
          (runOperations earlier start).tables
          (scheduled.perform (runOperations earlier start)).2.tables := by
  have wellLinked : start.tables.WellLinked [] := emptyTables ▸ Tables.wellLinked_empty
  have labelled := labelled_of_empty schedule emptyTables
  have evolves : Tables.empty.Evolves (runOperations schedule start).tables :=
    emptyTables ▸ evolves_runOperations schedule start
  have sound := sound_runOperations schedule start (emptyTables ▸ Tables.sound_empty)
  obtain ⟨links, stillLinked⟩ := wellLinked_runOperations schedule wellLinked
  refine ⟨fun row member live => ?_, labelled.tagNames, ?_, ?_⟩
  · have unnamed : start.tables.tagNames row.fileId = .ok (Tables.sortedNames []) :=
      Tables.tagNames_of_unlinked wellLinked.present nofun
    exact ⟨_, World.showsTags_of_carried evolves sound labelled stillLinked member live
      (areTagNames_latestTags row.fileId schedule start areTagNames_nil)
      (tagNames_runOperations schedule wellLinked unnamed)⟩
  · rintro earlier later rfl
    obtain ⟨more, between⟩ := wellLinked_runOperations earlier wellLinked
    rw [runOperations_append]
    exact tags_runOperations later between
  · rintro earlier scheduled later rfl
    obtain ⟨more, between⟩ := wellLinked_runOperations earlier wellLinked
    exact scheduled.tagsFollow (runOperations earlier start) between

/-- The first upload, and an update of its tags that its caller cannot read back. -/
def relabelled : List ScheduledOperation :=
  [undisturbed (.upload Vault.firstUpload),
    { undisturbed (.update (fileIdOf Vault.firstUpload.payload)
        ⟨none, none, none, some "travel ,, home,travel"⟩) with
      faults := Vault.unreadable }]

/-- The file shows the names of the update, although its caller was told of a failure. -/
theorem relabelled_file_tells_its_tags :
    (Vault.emptyVault .empty).tables = Tables.empty ∧
      ∃ row ∈ (runOperations relabelled (Vault.emptyVault .empty)).tables.files,
        row.trashedAt = none ∧
          (runOperations relabelled (Vault.emptyVault .empty)).tables.links =
            some [⟨row.fileId, tagIdOf "travel"⟩, ⟨row.fileId, tagIdOf "home"⟩] ∧
          latestTags row.fileId relabelled (Vault.emptyVault .empty) [] = ["travel", "home"] ∧
          ∃ names,
            (runOperations relabelled (Vault.emptyVault .empty)).ShowsTags row.fileId
              (latestTags row.fileId relabelled (Vault.emptyVault .empty) []) names := by
  have evaluated :
      (runOperations relabelled (Vault.emptyVault .empty)).tables.files.map (fun row =>
        (row.trashedAt,
          decide ((runOperations relabelled (Vault.emptyVault .empty)).tables.links =
            some [⟨row.fileId, tagIdOf "travel"⟩, ⟨row.fileId, tagIdOf "home"⟩]),
          latestTags row.fileId relabelled (Vault.emptyVault .empty) [])) =
        [(none, true, ["travel", "home"])] := by
    decide +kernel
  obtain ⟨row, files, facts⟩ := List.map_eq_singleton_iff.1 evaluated
  simp only [Prod.mk.injEq, decide_eq_true_eq] at facts
  obtain ⟨live, links, latest⟩ := facts
  have registered : row ∈ (runOperations relabelled (Vault.emptyVault .empty)).tables.files :=
    files ▸ List.mem_singleton_self row
  exact ⟨rfl, row, registered, live, links, latest,
    (tags_survive_the_store relabelled (Vault.emptyVault .empty) rfl).1 row registered live⟩

end ContentVault
