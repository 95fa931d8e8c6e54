import ContentVault.Proofs.Vault.Commits
import ContentVault.Proofs.Vault.Evolution

/-!
# The rows of a vault

What holds of the tables in every state that a run of operations reaches from empty
tables, whatever faults and rivals it meets.

* identifiers of files are unique, and no file is ever lost;
* every row of a file can be read back, and it is marked as trashed exactly if it has a
  time of trashing;
* the table of links is there.
-/

namespace ContentVault

open World StoreRequest

/-! ## Files stay registered -/

theorem evolves_respectsCommits (conditions : Conditions) :
    RespectsCommits Tables.Evolves conditions := by
  intro before after commit
  have performs : ∀ change : CatalogChange, change.Agreeing →
      (change.perform before).2 = after → before.Evolves after := by
    rintro change agreeing rfl
    exact Tables.Evolves.of_perform change agreeing before
  cases commit with
  | registered accepted created =>
      exact performs (.createFile _ _) ⟨rfl, rfl, rfl, rfl⟩ (congrArg Prod.snd created)
  | overtaken accepted raced created =>
      exact performs (.createFile _ _) ⟨rfl, rfl, rfl, rfl⟩ (congrArg Prod.snd created)
  | tagged live attached =>
      exact performs (.attachTags _ _) trivial (congrArg Prod.snd attached)
  | appended revertible added =>
      exact performs (.appendVersion _ _) trivial (congrArg Prod.snd added)
  | described accepted changed =>
      exact performs (.updateDetails _ _ _ _) trivial (congrArg Prod.snd changed)
  | trashed removed =>
      exact performs (.trash _ _) trivial (congrArg Prod.snd removed)

theorem evolves_runOperations (schedule : List ScheduledOperation) (start : World) :
    start.tables.Evolves (runOperations schedule start).tables :=
  tablesRelated_runOperations schedule start fun scheduled _ world =>
    evolves_respectsCommits (scheduled.conditionsAt world)

namespace Tables.Evolves

theorem keyed_of_empty {tables : Tables} (evolves : Tables.empty.Evolves tables) :
    (tables.files.map FileRow.fileId).Nodup := by
  obtain ⟨changes, _, rfl⟩ := evolves
  exact (CatalogChange.chronicle_run changes Chronicle.empty).unique

theorem hasFile {before after : Tables} (evolves : before.Evolves after) {fileId : String}
    (known : before.hasFile fileId = true) :
    after.hasFile fileId = true := by
  obtain ⟨row, member, sameFile⟩ := Tables.hasFile_eq_true_iff.1 known
  obtain ⟨later, laterMember, sameLater, _⟩ := evolves.extends_tables.files row member
  exact Tables.hasFile_eq_true_iff.2 ⟨later, laterMember, sameLater.trans sameFile⟩

end Tables.Evolves

/-! ## Rows that can be read back -/

/-- A row of a file that is marked as trashed exactly if it has a time of trashing. -/
def FileRow.IsSound (row : FileRow) : Prop :=
  ∃ file : FileRecord,
    file.toRow = .ok row ∧ (file.status = .trashed ↔ file.trashedAt.isSome = true)

namespace FileRow.IsSound

variable {row : FileRow}

theorem toRecord_eq_ok (sound : row.IsSound) : ∃ file, row.toRecord = .ok file := by
  obtain ⟨file, encoded, _⟩ := sound
  exact ⟨_, FileRow.toRecord_of_toRow encoded⟩

theorem status_eq_iff (sound : row.IsSound) :
    row.status = FileStatus.trashed.text ↔ row.trashedAt.isSome = true := by
  obtain ⟨file, encoded, marked⟩ := sound
  obtain ⟨_, rfl⟩ := FileRecord.toRow_eq_ok.1 encoded
  have sameText : file.status.text = FileStatus.trashed.text ↔ file.status = .trashed := by
    cases file.status <;> decide
  rw [sameText, marked, Option.isSome_map]

theorem bumped (sound : row.IsSound) {version : VersionRecord} {versionRow : VersionRow}
    (encoded : version.toRow = .ok versionRow) :
    FileRow.IsSound
      { row with
        currentVersion := versionRow.number
        path := versionRow.path
        contentType := versionRow.contentType
        size := versionRow.size
        updatedAt := versionRow.createdAt } := by
  obtain ⟨file, fileEncoded, marked⟩ := sound
  exact ⟨_, FileRecord.toRow_bumped fileEncoded encoded, marked⟩

theorem described (sound : row.IsSound) (fileName fileType description : String)
    (changedAt : Timestamp) :
    FileRow.IsSound
      { row with fileName, fileType, description, updatedAt := encodeTime changedAt } := by
  obtain ⟨file, encoded, marked⟩ := sound
  exact ⟨_, FileRecord.toRow_described encoded fileName fileType description changedAt, marked⟩

theorem trashed (sound : row.IsSound) (trashedAt : Timestamp) :
    FileRow.IsSound
      { row with
        status := FileStatus.trashed.text
        trashedAt := some (encodeTime trashedAt)
        updatedAt := encodeTime trashedAt } := by
  obtain ⟨file, encoded, _⟩ := sound
  exact ⟨_, FileRecord.toRow_trashed encoded trashedAt, by simp⟩

end FileRow.IsSound

/-- Tables in which every file can be read back and links can be asked for. -/
structure Tables.Sound (tables : Tables) : Prop where
  files : ∀ row ∈ tables.files, row.IsSound
  links : tables.links.isSome = true

/-- The tables stay sound if they were. -/
def Tables.StaysSound (before after : Tables) : Prop :=
  before.Sound → after.Sound

namespace Tables.StaysSound

instance : IsPreorder Tables StaysSound where
  refl := fun _ => id
  trans := fun _ _ _ left right sound => right (left sound)

theorem updateLive {fileId : String} {condition : FileRow → Bool}
    {change : FileRow → FileRow} (kept : ∀ row, row.IsSound → (change row).IsSound)
    (tables : Tables) :
    tables.StaysSound (tables.updateLive fileId condition change).2 := by
  intro sound
  refine ⟨fun row member => ?_, sound.links⟩
  obtain ⟨old, oldMember, rfl⟩ := Tables.mem_updateLive.1 member
  split
  · exact kept old (sound.files old oldMember)
  · exact sound.files old oldMember

theorem allowsTagging (fileId : String) : Work.AllowsTagging StaysSound fileId where
  insert := by
    intro tables tag sound
    obtain ⟨tags, inserted⟩ := Tables.insertTag_eq tables tag
    rw [inserted]
    exact ⟨sound.files, sound.links⟩
  attach := by
    intro tables after tagId attached sound
    obtain ⟨_, _, rfl⟩ := Tables.attachTag_eq_ok attached
    exact ⟨sound.files, rfl⟩
  clear := by
    intro tables after cleared sound
    obtain ⟨_, _, rfl⟩ := Tables.clearTags_eq_ok cleared
    exact ⟨sound.files, rfl⟩

theorem created {before after : Tables} {file : FileRecord} {version : VersionRecord}
    (marked : file.status = .trashed ↔ file.trashedAt.isSome = true)
    (created : before.createFile file version = (.ok (), after)) :
    before.StaysSound after := by
  intro sound
  obtain ⟨_, _, row, _, encoded, _, _, _, rfl⟩ := Tables.createFile_eq_ok.1 created
  refine ⟨fun other member => ?_, sound.links⟩
  rcases List.mem_append.1 member with isOld | isNew
  · exact sound.files other isOld
  · rw [List.mem_singleton] at isNew
    rw [isNew]
    exact ⟨file, encoded, marked⟩

end Tables.StaysSound

theorem staysSound_respectsCommits (conditions : Conditions) :
    RespectsCommits Tables.StaysSound conditions := by
  intro before after commit
  cases commit with
  | registered accepted created =>
      exact Tables.StaysSound.created (by simp [Vault.uploadedFile]) created
  | overtaken accepted raced created =>
      exact Tables.StaysSound.created (by simp [rivalFile, Vault.uploadedFile]) created
  | tagged live attached =>
      exact (Work.within_linkTags (Tables.StaysSound.allowsTagging _) _ _).committed attached
  | appended revertible added =>
      obtain ⟨_, row, encoded, _, _, rfl⟩ := Tables.appendVersion_eq_ok.1 added
      have bump : ∀ expected, before.StaysSound (before.bumpVersion row expected).2 :=
        fun _ => Tables.StaysSound.updateLive (fun _ sound => sound.bumped encoded) before
      exact fun sound => ⟨(bump _ sound).files, sound.links⟩
  | described accepted changed =>
      refine (Work.within_updateDetails (Tables.StaysSound.allowsTagging _)
        (fun tables => ?_) _).committed changed
      exact Tables.StaysSound.updateLive (fun _ sound => sound.described _ _ _ _) tables
  | trashed removed =>
      refine (Work.within_trashFiles (fun fileId tables => ?_) _ _).committed removed
      exact Tables.StaysSound.updateLive (fun _ sound => sound.trashed _) tables

theorem Tables.sound_empty : Tables.empty.Sound where
  files := fun _ member => by cases member
  links := rfl

theorem sound_runOperations (schedule : List ScheduledOperation) (start : World)
    (sound : start.tables.Sound) :
    (runOperations schedule start).tables.Sound :=
  tablesRelated_runOperations schedule start
    (fun scheduled _ world => staysSound_respectsCommits (scheduled.conditionsAt world)) sound

end ContentVault
