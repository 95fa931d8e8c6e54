import ContentVault.Proofs.Catalog.Atomicity
import ContentVault.Proofs.Vault.Rows

/-!
# How files are labelled

What the texts are like by which files can be asked for, in every state that a run of
operations reaches from empty tables.

* the names of tags are tidy, and tags differ in their names and in their keys;
* the type of a file has no blank at its ends, unless it is the extension of a name.
-/

namespace ContentVault

open World StoreRequest

/-! ## Types of files -/

/-- A text that can be the type of a file: a trimmed one, or the extension of a name. -/
def IsFileType (fileType : String) : Prop :=
  trim fileType = fileType ∨ ∃ fileName, fileType = fileTypeOf fileName none

theorem isFileType_fileTypeOf (fileName : String) (declared : Option String) :
    IsFileType (fileTypeOf fileName declared) := by
  rcases given : declared.bind nonBlank? with _ | fileType
  · have derived : fileTypeOf fileName declared = fileTypeOf fileName none := by
      rw [fileTypeOf, fileTypeOf, given]
      rfl
    exact Or.inr ⟨fileName, derived⟩
  · have isDeclared : fileTypeOf fileName declared = fileType := by
      rw [fileTypeOf, given]
    obtain ⟨text, _, named⟩ := Option.bind_eq_some_iff.1 given
    rw [isDeclared]
    exact Or.inl (isTidy_of_nonBlank? named).2

theorem isFileType_uploadedFile (request : UploadRequest) (fileName : String)
    (now : Timestamp) :
    IsFileType (Vault.uploadedFile request fileName now).fileType :=
  isFileType_fileTypeOf fileName request.fileType

/-- An update changes the type of a file to a trimmed one, or it leaves it alone. -/
theorem isFileType_of_checkUpdate {update : MetadataUpdate} {details : FileDetails}
    (accepted : Vault.checkUpdate update = .ok details) {old : String}
    (isType : IsFileType old) :
    IsFileType (details.fileType.getD old) := by
  unfold Vault.checkUpdate at accepted
  split at accepted
  · cases accepted
  · dsimp only at accepted
    split at accepted
    · cases accepted
    · cases accepted
      rcases update.fileType with _ | given
      · exact isType
      · exact Or.inl (trim_trim given)

/-! ## Tables -/

/-- Tables in which tags can be asked for by their names, and types of files are known. -/
structure Tables.Labelled (tables : Tables) : Prop where
  tagIds : (tables.tags.map Tag.tagId).Nodup
  tagNames : (tables.tags.map Tag.name).Nodup
  tidy : ∀ tag ∈ tables.tags, IsTidy tag.name
  fileTypes : ∀ row ∈ tables.files, IsFileType row.fileType

namespace Tables

variable {before after tables : Tables} {fileId name : String} {names : List String}

theorem hasTagNamed_eq_true_iff :
    tables.hasTagNamed name = true ↔ name ∈ tables.tags.map Tag.name := by
  simp [hasTagNamed]

theorem names_of_missingTags (tables : Tables) (names : List String) :
    (tables.missingTags names).map Tag.name =
      firstMentions [] (names.filter fun name => !tables.hasTagNamed name) := by
  rw [missingTags, List.map_map]
  exact List.map_id _

theorem mem_names_of_missingTags :
    name ∈ (tables.missingTags names).map Tag.name ↔
      name ∈ names ∧ name ∉ tables.tags.map Tag.name := by
  rw [names_of_missingTags, mem_firstMentions, List.mem_filter, Bool.not_eq_true',
    ← Bool.not_eq_true, hasTagNamed_eq_true_iff]
  simp

namespace Labelled

/-- A change of files leaves the labels alone if types of files remain. -/
theorem of_files (labelled : before.Labelled) (sameTags : after.tags = before.tags)
    (fileTypes : ∀ row ∈ after.files, IsFileType row.fileType) :
    after.Labelled where
  tagIds := sameTags ▸ labelled.tagIds
  tagNames := sameTags ▸ labelled.tagNames
  tidy := sameTags ▸ labelled.tidy
  fileTypes := fileTypes

/-- A change of every file leaves the labels alone if it gives no file an unknown type. -/
theorem of_map (labelled : before.Labelled) (sameTags : after.tags = before.tags)
    {change : FileRow → FileRow} (changed : after.files = before.files.map change)
    (kept : ∀ row, IsFileType row.fileType → IsFileType (change row).fileType) :
    after.Labelled := by
  refine labelled.of_files sameTags fun row member => ?_
  rw [changed] at member
  obtain ⟨old, isOld, rfl⟩ := List.mem_map.1 member
  exact kept old (labelled.fileTypes old isOld)

theorem linked (labelled : before.Labelled) (tidy : ∀ name ∈ names, IsTidy name)
    {found : List Tag} (linked : Linked fileId names before found after)
    (keepsTagIds : before.KeepsTagIds after) :
    after.Labelled := by
  have tags : after.tags = before.tags ++ before.missingTags names :=
    congrArg Tables.tags linked.tables
  have files : after.files = before.files := by rw [linked.tables]
  constructor
  · exact keepsTagIds labelled.tagIds
  · rw [tags, List.map_append]
    refine List.Nodup.append labelled.tagNames ?_ ?_
    · rw [names_of_missingTags]
      exact nodup_firstMentions _ List.nodup_nil
    · intro name isOld isMissing
      exact (mem_names_of_missingTags.1 isMissing).2 isOld
  · rw [tags]
    intro tag member
    rcases List.mem_append.1 member with isOld | isMissing
    · exact labelled.tidy tag isOld
    · exact tidy tag.name
        (mem_names_of_missingTags.1 (List.mem_map_of_mem isMissing)).1
  · rw [files]
    exact labelled.fileTypes

end Labelled

/-- The tables stay labelled if they were. -/
def StaysLabelled (before after : Tables) : Prop := before.Labelled → after.Labelled

namespace StaysLabelled

instance : IsPreorder Tables StaysLabelled where
  refl := fun _ => id
  trans := fun _ _ _ left right labelled => right (left labelled)

theorem created {file : FileRecord} {version : VersionRecord}
    (isType : IsFileType file.fileType)
    (created : before.createFile file version = (.ok (), after)) :
    before.StaysLabelled after := by
  intro labelled
  obtain ⟨_, _, row, _, encoded, _, _, _, rfl⟩ := createFile_eq_ok.1 created
  obtain ⟨_, rfl⟩ := FileRecord.toRow_eq_ok.1 encoded
  refine labelled.of_files rfl fun other member => ?_
  rcases List.mem_append.1 member with isOld | isNew
  · exact labelled.fileTypes other isOld
  · rw [List.mem_singleton] at isNew
    rw [isNew]
    exact isType

theorem appended {version : VersionRecord} {expected : UInt32}
    (added : before.appendVersion version expected = (.ok (), after)) :
    before.StaysLabelled after := by
  intro labelled
  obtain ⟨_, row, _, _, _, rfl⟩ := appendVersion_eq_ok.1 added
  refine labelled.of_map rfl updateLive_files fun old isType => ?_
  split
  · exact isType
  · exact isType

theorem tagged {text : String} {found : List Tag}
    (attached : before.attachTags fileId (parseTags text) = (.ok found, after)) :
    before.StaysLabelled after := by
  intro labelled
  obtain ⟨tags, _, linked⟩ := linked_of_linkTags (Work.transaction_eq_ok.1 attached)
  exact labelled.linked (fun _ => isTidy_of_mem_parseTags) linked
    ((Work.within_linkTags (KeepsTagIds.allowsTagging fileId) _ _).committed attached)

theorem describing {update : MetadataUpdate} {details : FileDetails} {changedAt : Int64}
    (accepted : Vault.checkUpdate update = .ok details) :
    before.StaysLabelled (before.describing fileId details changedAt) := by
  intro labelled
  refine labelled.of_map rfl rfl fun old isType => ?_
  split
  · exact isFileType_of_checkUpdate accepted isType
  · exact isType

theorem described {update : MetadataUpdate} {details : FileDetails} {changedAt : Timestamp}
    {updated : Bool} (accepted : Vault.checkUpdate update = .ok details)
    (changed :
      before.updateDetails fileId details (update.tags.map parseTags) changedAt =
        (.ok updated, after)) :
    before.StaysLabelled after := by
  intro labelled
  have renamed : (before.describing fileId details (encodeTime changedAt)).Labelled :=
    describing accepted labelled
  obtain ⟨_, written⟩ := redescribed_of_updateDetails (Work.transaction_eq_ok.1 changed)
  have keepsTagIds : before.KeepsTagIds after :=
    (Work.within_updateDetails (KeepsTagIds.allowsTagging fileId) (fun _ => id) _).committed
      changed
  split at written
  · rcases tags : update.tags with _ | text
    · rw [tags] at written
      exact written ▸ renamed
    · rw [tags] at written
      obtain ⟨_, found, linked⟩ := written
      have unlinked :
          ((before.describing fileId details (encodeTime changedAt)).unlinked
            fileId).Labelled :=
        renamed.of_files rfl renamed.fileTypes
      exact unlinked.linked (fun _ => isTidy_of_mem_parseTags) linked keepsTagIds
  · exact written ▸ labelled

theorem trashed {fileIds moved : List String} {trashedAt : Timestamp}
    (removed : before.trash fileIds trashedAt = (.ok moved, after)) :
    before.StaysLabelled after := by
  intro labelled
  have moves := trashFiles_eq trashedAt fileIds [] before
  rw [Work.transaction_eq_ok.1 removed] at moves
  obtain ⟨_, rfl⟩ := Prod.mk.inj moves
  refine labelled.of_map rfl rfl fun old isType => ?_
  split
  · exact isType
  · exact isType

end StaysLabelled

theorem labelled_empty : empty.Labelled where
  tagIds := List.nodup_nil
  tagNames := List.nodup_nil
  tidy := fun _ member => by cases member
  fileTypes := fun _ member => by cases member

end Tables

theorem staysLabelled_respectsCommits (conditions : Conditions) :
    RespectsCommits Tables.StaysLabelled conditions := by
  intro before after commit
  cases commit with
  | @registered request fileName _ accepted created =>
      exact Tables.StaysLabelled.created
        (isFileType_uploadedFile request fileName conditions.now) created
  | @overtaken request fileName _ _ _ _ accepted raced created =>
      refine Tables.StaysLabelled.created ?_ created
      exact isFileType_uploadedFile request fileName conditions.now
  | tagged live attached =>
      exact Tables.StaysLabelled.tagged attached
  | appended revertible added =>
      exact Tables.StaysLabelled.appended added
  | described accepted changed =>
      exact Tables.StaysLabelled.described accepted changed
  | trashed removed =>
      exact Tables.StaysLabelled.trashed removed

theorem labelled_runOperations (schedule : List ScheduledOperation) (start : World)
    (labelled : start.tables.Labelled) :
    (runOperations schedule start).tables.Labelled :=
  tablesRelated_runOperations schedule start
    (fun scheduled _ world => staysLabelled_respectsCommits (scheduled.conditionsAt world))
    labelled

end ContentVault
