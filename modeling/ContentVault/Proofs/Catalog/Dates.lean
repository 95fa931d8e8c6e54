import ContentVault.Proofs.Catalog.History

/-!
# Dates of files and versions

Tables whose times fit together, seen from a moment that none of them is later than.

* a file is as old as the first version in its history, and versions follow each other in
  time;
* a file was changed last when or after its newest version was added, and when it was moved
  to the trash;
* what is written at such a moment keeps the times together, and makes no file older.
-/

namespace ContentVault

/-- The times of a file fit together with each other and with those of its versions. -/
structure Tables.Dated (tables : Tables) (row : FileRow) : Prop where
  first : (tables.historyOf row.fileId).head?.map VersionRow.createdAt = some row.createdAt
  ordered : (tables.historyOf row.fileId).Pairwise
    fun earlier later => earlier.createdAt.toInt ≤ later.createdAt.toInt
  latest : ∀ stored ∈ tables.historyOf row.fileId,
    stored.createdAt.toInt ≤ row.updatedAt.toInt
  trashed : ∀ moment, row.trashedAt = some moment → moment = row.updatedAt

/-- The times of all files fit together, and none is later than a moment. -/
structure Tables.DatedUntil (moment : Int) (tables : Tables) : Prop where
  unique : (tables.files.map FileRow.fileId).Nodup
  registered : ∀ stored ∈ tables.versions, tables.hasFile stored.fileId = true
  dated : ∀ row ∈ tables.files, tables.Dated row
  past : ∀ row ∈ tables.files, row.updatedAt.toInt ≤ moment

/-- A file that is there still is, was registered when it was, and was not changed last at
an earlier time. -/
def Tables.KeepsAges (before after : Tables) : Prop :=
  ∀ row ∈ before.files, ∃ next ∈ after.files,
    next.fileId = row.fileId ∧ next.createdAt = row.createdAt ∧
      row.updatedAt.toInt ≤ next.updatedAt.toInt

instance : IsPreorder Tables Tables.KeepsAges where
  refl := fun _ row member => ⟨row, member, rfl, rfl, Int.le_refl _⟩
  trans := by
    intro first second third left right row member
    obtain ⟨next, isNext, sameFile, sameBirth, notEarlier⟩ := left row member
    obtain ⟨last, isLast, stillFile, stillBirth, stillNotEarlier⟩ := right next isNext
    exact ⟨last, isLast, stillFile.trans sameFile, stillBirth.trans sameBirth,
      Int.le_trans notEarlier stillNotEarlier⟩

/-- What a change at a moment does to times that are not later. -/
def Tables.AgesUntil (moment : Int) (before after : Tables) : Prop :=
  before.DatedUntil moment → after.DatedUntil moment ∧ before.KeepsAges after

namespace Tables

variable {moment : Int} {before after tables : Tables} {row : FileRow}

instance : IsPreorder Tables (AgesUntil moment) where
  refl := fun tables dated => ⟨dated, refl_of KeepsAges tables⟩
  trans := by
    intro first second third left right dated
    obtain ⟨between, firstKept⟩ := left dated
    obtain ⟨last, secondKept⟩ := right between
    exact ⟨last, trans_of KeepsAges firstKept secondKept⟩

theorem DatedUntil.mono (dated : tables.DatedUntil moment) {later : Int}
    (notEarlier : moment ≤ later) :
    tables.DatedUntil later where
  unique := dated.unique
  registered := dated.registered
  dated := dated.dated
  past := fun row member => Int.le_trans (dated.past row member) notEarlier

theorem datedUntil_empty (moment : Int) : empty.DatedUntil moment where
  unique := List.nodup_nil
  registered := fun _ member => by cases member
  dated := fun _ member => by cases member
  past := fun _ member => by cases member

theorem Dated.createdAt_le_updatedAt (dated : tables.Dated row) :
    row.createdAt.toInt ≤ row.updatedAt.toInt := by
  obtain ⟨first, isFirst, sameBirth⟩ := Option.map_eq_some_iff.1 dated.first
  rw [← sameBirth]
  exact dated.latest first (List.mem_of_head? isFirst)

/-- Times fit together as long as the file and its history stay. -/
theorem Dated.of_history (dated : before.Dated row)
    (same : after.historyOf row.fileId = before.historyOf row.fileId) :
    after.Dated row where
  first := same ▸ dated.first
  ordered := same ▸ dated.ordered
  latest := same ▸ dated.latest
  trashed := dated.trashed

end Tables

/-! ## Changes of live files -/

/-- A change of rows that notes the moment at which it is made, also as the time of
trashing. -/
structure FileRow.NotesMoment (moment : Int) (change : FileRow → FileRow) : Prop where
  fileId : ∀ row, (change row).fileId = row.fileId
  createdAt : ∀ row, (change row).createdAt = row.createdAt
  updatedAt : ∀ row, (change row).updatedAt.toInt = moment
  trashedAt : ∀ row : FileRow, row.trashedAt = none →
    ∀ trashed, (change row).trashedAt = some trashed → trashed = (change row).updatedAt

namespace Tables

variable {moment : Int} {before after tables : Tables} {row : FileRow}

section UpdateLive

variable {change : FileRow → FileRow}

theorem Dated.changed (dated : tables.Dated row) (notes : FileRow.NotesMoment moment change)
    (past : row.updatedAt.toInt ≤ moment) (live : row.trashedAt = none) :
    tables.Dated (change row) where
  first := by
    rw [notes.fileId, notes.createdAt]
    exact dated.first
  ordered := by
    rw [notes.fileId]
    exact dated.ordered
  latest := by
    rw [notes.fileId, notes.updatedAt]
    exact fun stored member => Int.le_trans (dated.latest stored member) past
  trashed := notes.trashedAt row live

theorem AgesUntil.updateLive (notes : FileRow.NotesMoment moment change) (fileId : String)
    (condition : FileRow → Bool) (tables : Tables) :
    tables.AgesUntil moment (tables.updateLive fileId condition change).2 := by
  intro dated
  have sameIds : (tables.updateLive fileId condition change).2.files.map FileRow.fileId =
      tables.files.map FileRow.fileId :=
    map_updateLive notes.fileId
  refine ⟨⟨?_, ?_, ?_, ?_⟩, ?_⟩
  · rw [sameIds]
    exact dated.unique
  · intro stored member
    rw [hasFile_of_map_fileId sameIds]
    exact dated.registered stored member
  · intro row member
    obtain ⟨old, isOld, rfl⟩ := mem_updateLive.1 member
    split
    · rename_i hit
      exact ((dated.dated old isOld).changed notes (dated.past old isOld) hit.2.1).of_history rfl
    · exact (dated.dated old isOld).of_history rfl
  · intro row member
    obtain ⟨old, isOld, rfl⟩ := mem_updateLive.1 member
    split
    · exact Int.le_of_eq (notes.updatedAt old)
    · exact dated.past old isOld
  · intro old isOld
    refine ⟨_, mem_updateLive.2 ⟨old, isOld, rfl⟩, ?_⟩
    split
    · exact ⟨notes.fileId old, notes.createdAt old,
        (notes.updatedAt old).symm ▸ dated.past old isOld⟩
    · exact ⟨rfl, rfl, Int.le_refl _⟩

end UpdateLive

theorem notesMoment_described (changedAt : Timestamp)
    (fileName fileType description : Option String) :
    FileRow.NotesMoment changedAt.seconds fun file =>
      { file with
        fileName := fileName.getD file.fileName
        fileType := fileType.getD file.fileType
        description := description.getD file.description
        updatedAt := encodeTime changedAt } where
  fileId := fun _ => rfl
  createdAt := fun _ => rfl
  updatedAt := fun _ => toInt_encodeTime changedAt
  trashedAt := by
    intro row live trashed isTrashed
    rw [live] at isTrashed
    cases isTrashed

theorem notesMoment_trashed (trashedAt : Timestamp) :
    FileRow.NotesMoment trashedAt.seconds fun file =>
      { file with
        status := FileStatus.trashed.text
        trashedAt := some (encodeTime trashedAt)
        updatedAt := encodeTime trashedAt } where
  fileId := fun _ => rfl
  createdAt := fun _ => rfl
  updatedAt := fun _ => toInt_encodeTime trashedAt
  trashedAt := fun _ _ _ same => (Option.some.inj same).symm

theorem notesMoment_bumped {version : VersionRecord} {versionRow : VersionRow}
    (encoded : version.toRow = .ok versionRow) :
    FileRow.NotesMoment version.createdAt.seconds fun file =>
      { file with
        currentVersion := versionRow.number
        path := versionRow.path
        contentType := versionRow.contentType
        size := versionRow.size
        updatedAt := versionRow.createdAt } where
  fileId := fun _ => rfl
  createdAt := fun _ => rfl
  updatedAt := by
    obtain ⟨_, rfl⟩ := VersionRecord.toRow_eq_ok.1 encoded
    exact fun _ => toInt_encodeTime version.createdAt
  trashedAt := by
    intro row live trashed isTrashed
    rw [live] at isTrashed
    cases isTrashed

/-! ## Units of work -/

/-- Tags play no part in the times of files. -/
theorem AgesUntil.of_tags (moment : Int) (tables : Tables) (tags : List Tag)
    (links : Option (List TagLink)) :
    tables.AgesUntil moment { tables with tags, links } := by
  intro dated
  have stillDated : ({ tables with tags, links } : Tables).DatedUntil moment := {
    unique := dated.unique
    registered := dated.registered
    dated := fun row member => (dated.dated row member).of_history rfl
    past := dated.past }
  exact ⟨stillDated, fun row member => ⟨row, member, rfl, rfl, Int.le_refl _⟩⟩

theorem AgesUntil.allowsTagging (moment : Int) (fileId : String) :
    Work.AllowsTagging (AgesUntil moment) fileId where
  insert := by
    intro tables tag
    obtain ⟨tags, inserted⟩ := insertTag_eq tables tag
    rw [inserted]
    exact AgesUntil.of_tags moment tables tags tables.links
  attach := by
    intro tables after tagId attached
    obtain ⟨_, _, rfl⟩ := attachTag_eq_ok attached
    exact AgesUntil.of_tags moment tables tables.tags _
  clear := by
    intro tables after cleared
    obtain ⟨_, _, rfl⟩ := clearTags_eq_ok cleared
    exact AgesUntil.of_tags moment tables tables.tags _

theorem AgesUntil.tagged {fileId : String} {names : List String} {linked : List Tag}
    (attached : before.attachTags fileId names = (.ok linked, after)) (moment : Int) :
    before.AgesUntil moment after :=
  (Work.within_linkTags (AgesUntil.allowsTagging moment fileId) names []).committed attached

theorem AgesUntil.described {fileId : String} {details : FileDetails}
    {tags : Option (List String)} {changedAt : Timestamp} {updated : Bool}
    (changed : before.updateDetails fileId details tags changedAt = (.ok updated, after)) :
    before.AgesUntil changedAt.seconds after :=
  (Work.within_updateDetails (AgesUntil.allowsTagging changedAt.seconds fileId)
    (fun tables => AgesUntil.updateLive (notesMoment_described changedAt _ _ _) fileId _ tables)
    tags).committed changed

theorem AgesUntil.trashed {fileIds moved : List String} {trashedAt : Timestamp}
    (removed : before.trash fileIds trashedAt = (.ok moved, after)) :
    before.AgesUntil trashedAt.seconds after :=
  (Work.within_trashFiles
    (fun fileId tables => AgesUntil.updateLive (notesMoment_trashed trashedAt) fileId _ tables)
    fileIds []).committed removed

theorem DatedUntil.historyOf_of_new (dated : tables.DatedUntil moment) {fileId : String}
    (new : tables.hasFile fileId = false) : tables.historyOf fileId = [] := by
  refine List.filter_eq_nil_iff.2 fun stored member ofFile => ?_
  have known := dated.registered stored member
  rw [of_decide_eq_true ofFile, new] at known
  cases known

/-- Times of a live file fit together if it has one version and everything is of one moment. -/
theorem dated_of_first {fileRow : FileRow} {versionRow : VersionRow}
    (history : tables.historyOf fileRow.fileId = [versionRow])
    (sameBirth : versionRow.createdAt = fileRow.createdAt)
    (born : fileRow.updatedAt = fileRow.createdAt) (live : fileRow.trashedAt = none) :
    tables.Dated fileRow where
  first := by
    rw [history, ← sameBirth]
    rfl
  ordered := by
    rw [history]
    exact List.pairwise_singleton _ _
  latest := by
    rw [history]
    intro stored isFirst
    have sameMoment : stored.createdAt = fileRow.updatedAt := by
      rw [List.mem_singleton.1 isFirst, sameBirth, born]
    exact Int.le_of_eq (congrArg Int64.toInt sameMoment)
  trashed := by
    intro moment isTrashed
    rw [live] at isTrashed
    cases isTrashed

/-- A new file that is added with its first version was registered, changed last and given
this version at one moment. -/
theorem AgesUntil.addFile {fileRow : FileRow} {versionRow : VersionRow}
    (new : tables.hasFile fileRow.fileId = false) (sameFile : versionRow.fileId = fileRow.fileId)
    (sameBirth : versionRow.createdAt = fileRow.createdAt)
    (born : fileRow.updatedAt = fileRow.createdAt) (live : fileRow.trashedAt = none) :
    tables.AgesUntil fileRow.createdAt.toInt
      { tables with
        files := tables.files ++ [fileRow]
        versions := tables.versions ++ [versionRow] } := by
  intro dated
  have absent := hasFile_eq_false_iff.1 new
  refine ⟨⟨?_, ?_, ?_, ?_⟩, ?_⟩
  · rw [List.map_append, List.map_singleton, List.nodup_append]
    refine ⟨dated.unique, List.nodup_singleton _, ?_⟩
    intro fileId member other otherMember same
    obtain ⟨row, isRow, rfl⟩ := List.mem_map.1 member
    rw [List.mem_singleton] at otherMember
    exact absent row isRow (same.trans otherMember)
  · intro stored member
    rw [hasFile_eq_true_iff]
    rcases List.mem_append.1 member with isOld | isNew
    · obtain ⟨row, isRow, ofRow⟩ := hasFile_eq_true_iff.1 (dated.registered stored isOld)
      exact ⟨row, List.mem_append_left _ isRow, ofRow⟩
    · rw [List.mem_singleton] at isNew
      exact ⟨fileRow, List.mem_append_right _ (List.mem_singleton_self _),
        isNew ▸ sameFile.symm⟩
  · intro row member
    rcases List.mem_append.1 member with isOld | isNew
    · have other : versionRow.fileId ≠ row.fileId :=
        fun same => absent row isOld (same.symm.trans sameFile)
      exact (dated.dated row isOld).of_history (historyOf_of_other rfl other)
    · rw [List.mem_singleton] at isNew
      subst isNew
      refine dated_of_first ?_ sameBirth born live
      rw [← sameFile, historyOf_of_added rfl, sameFile, dated.historyOf_of_new new,
        List.nil_append]
  · intro row member
    rcases List.mem_append.1 member with isOld | isNew
    · exact dated.past row isOld
    · rw [List.mem_singleton] at isNew
      exact Int.le_of_eq (congrArg Int64.toInt (isNew ▸ born))
  · exact fun row member => ⟨row, List.mem_append_left _ member, rfl, rfl, Int.le_refl _⟩

/-- A version is added at the moment at which its file is changed last. -/
theorem AgesUntil.addVersion {versionRow : VersionRow}
    (known : tables.hasFile versionRow.fileId = true)
    (changed : ∀ row ∈ tables.files, row.fileId = versionRow.fileId →
      row.updatedAt = versionRow.createdAt) :
    tables.AgesUntil versionRow.createdAt.toInt
      { tables with versions := tables.versions ++ [versionRow] } := by
  intro dated
  refine ⟨⟨dated.unique, ?_, ?_, dated.past⟩, ?_⟩
  · intro stored member
    rcases List.mem_append.1 member with isOld | isNew
    · exact dated.registered stored isOld
    · rw [List.mem_singleton] at isNew
      exact isNew ▸ known
  · intro row member
    have wasDated := dated.dated row member
    by_cases other : versionRow.fileId = row.fileId
    · have history : ({ tables with
          versions := tables.versions ++ [versionRow] } : Tables).historyOf row.fileId =
          tables.historyOf row.fileId ++ [versionRow] := by
        rw [← other, historyOf_of_added rfl]
      have sameMoment := changed row member other.symm
      constructor
      · obtain ⟨first, isFirst, sameBirth⟩ := Option.map_eq_some_iff.1 wasDated.first
        rw [history, List.head?_append, isFirst, ← sameBirth]
        rfl
      · rw [history, List.pairwise_append]
        refine ⟨wasDated.ordered, List.pairwise_singleton _ _, ?_⟩
        intro stored isOld added isNew
        rw [List.mem_singleton.1 isNew, ← sameMoment]
        exact wasDated.latest stored isOld
      · rw [history]
        intro stored isStored
        rcases List.mem_append.1 isStored with isOld | isNew
        · exact wasDated.latest stored isOld
        · have atLast : stored.createdAt = row.updatedAt := by
            rw [List.mem_singleton.1 isNew, sameMoment]
          exact Int.le_of_eq (congrArg Int64.toInt atLast)
      · exact wasDated.trashed
    · exact wasDated.of_history (historyOf_of_other rfl other)
  · exact refl_of KeepsAges tables

theorem AgesUntil.created {file : FileRecord} {version : VersionRecord}
    (created : before.createFile file version = (.ok (), after))
    (born : file.updatedAt = file.createdAt) (sameBirth : version.createdAt = file.createdAt)
    (live : file.trashedAt = none) :
    before.AgesUntil file.createdAt.seconds after := by
  obtain ⟨sameFile, _, fileRow, versionRow, fileEncoded, versionEncoded, new, _, rfl⟩ :=
    createFile_eq_ok.1 created
  obtain ⟨_, rfl⟩ := FileRecord.toRow_eq_ok.1 fileEncoded
  obtain ⟨_, rfl⟩ := VersionRecord.toRow_eq_ok.1 versionEncoded
  rw [← toInt_encodeTime]
  exact AgesUntil.addFile new sameFile (congrArg encodeTime sameBirth)
    (congrArg encodeTime born) (by rw [live]; rfl)

/-- The version that becomes current is added, and its file changed, at one moment. -/
theorem AgesUntil.appended {version : VersionRecord} {expected : UInt32}
    (added : before.appendVersion version expected = (.ok (), after)) :
    before.AgesUntil version.createdAt.seconds after := by
  intro dated
  obtain ⟨_, row, encoded, ⟨file, isFile, sameFile, live, isCurrent⟩, _, rfl⟩ :=
    appendVersion_eq_ok.1 added
  have bumped : before.AgesUntil version.createdAt.seconds
      (before.bumpVersion row (encodeNumber expected)).2 :=
    AgesUntil.updateLive (notesMoment_bumped encoded) row.fileId _ before
  obtain ⟨stillDated, kept⟩ := bumped dated
  have known : (before.bumpVersion row (encodeNumber expected)).2.hasFile row.fileId = true := by
    rw [hasFile_of_map_fileId (bumpVersion_fileIds before row _)]
    exact hasFile_eq_true_iff.2 ⟨file, isFile, sameFile⟩
  have changed : ∀ next ∈ (before.bumpVersion row (encodeNumber expected)).2.files,
      next.fileId = row.fileId → next.updatedAt = row.createdAt := by
    intro next member ofFile
    obtain ⟨old, isOld, rfl⟩ := mem_updateLive.1 member
    have oldFile : old.fileId = row.fileId := by
      split at ofFile
      · exact ofFile
      · exact ofFile
    -- There is only one row of the file, and that is the one that was found current.
    have same : old = file :=
      List.inj_on_of_nodup_map dated.unique isOld isFile (oldFile.trans sameFile.symm)
    rw [if_pos ⟨oldFile, same ▸ live, decide_eq_true (same ▸ isCurrent)⟩]
  have sameMoment : row.createdAt.toInt = version.createdAt.seconds := by
    obtain ⟨_, rfl⟩ := VersionRecord.toRow_eq_ok.1 encoded
    exact toInt_encodeTime version.createdAt
  rw [← sameMoment] at stillDated ⊢
  obtain ⟨finallyDated, stillKept⟩ := AgesUntil.addVersion known changed stillDated
  exact ⟨finallyDated, trans_of KeepsAges kept stillKept⟩

end Tables

end ContentVault
