import ContentVault.Proofs.Catalog.History

/-!
# Files in the trash

* a file that is moved to the trash has no live row any more;
* units of work that update live files leave such a file alone, together with its versions
  and links;
* such a file is not moved to the trash again.
-/

namespace ContentVault

namespace Tables

/-- A file that is registered but not live. -/
structure IsTrashed (tables : Tables) (fileId : String) : Prop where
  known : tables.hasFile fileId = true
  notLive : tables.liveFile? fileId = none

/-- The rows of a file. -/
def rowsOf (tables : Tables) (fileId : String) : List FileRow :=
  tables.files.filter fun row => row.fileId = fileId

/-- The links of a file. -/
def linksOf (tables : Tables) (fileId : String) : Option (List TagLink) :=
  tables.links.map (List.filter fun link => link.fileId = fileId)

/-- The rows of a file, its versions and its links are the same. -/
structure SameFile (fileId : String) (before after : Tables) : Prop where
  rows : after.rowsOf fileId = before.rowsOf fileId
  versions : after.historyOf fileId = before.historyOf fileId
  links : after.linksOf fileId = before.linksOf fileId

variable {tables before after : Tables} {fileId : String}

theorem IsTrashed.trashedAt_ne_none (trashed : tables.IsTrashed fileId) {row : FileRow}
    (member : row ∈ tables.files) (sameFile : row.fileId = fileId) :
    row.trashedAt ≠ none := by
  intro notTrashed
  exact liveFile?_ne_none_iff.2 ⟨row, member, sameFile, notTrashed⟩ trashed.notLive

theorem isTrashed_iff_rowsOf :
    tables.IsTrashed fileId ↔
      tables.rowsOf fileId ≠ [] ∧ ∀ row ∈ tables.rowsOf fileId, row.trashedAt ≠ none := by
  have mem_rowsOf : ∀ row, row ∈ tables.rowsOf fileId ↔
      row ∈ tables.files ∧ row.fileId = fileId := by
    intro row
    simp [rowsOf]
  constructor
  · intro trashed
    obtain ⟨row, member, sameFile⟩ := hasFile_eq_true_iff.1 trashed.known
    refine ⟨List.ne_nil_of_mem ((mem_rowsOf row).2 ⟨member, sameFile⟩), ?_⟩
    intro other otherMember
    obtain ⟨isFile, sameOther⟩ := (mem_rowsOf other).1 otherMember
    exact trashed.trashedAt_ne_none isFile sameOther
  · rintro ⟨known, notLive⟩
    obtain ⟨row, member⟩ := List.exists_mem_of_ne_nil _ known
    refine ⟨hasFile_eq_true_iff.2 ⟨row, (mem_rowsOf row).1 member⟩, ?_⟩
    by_contra live
    obtain ⟨other, isFile, sameOther, notTrashed⟩ := liveFile?_ne_none_iff.1 live
    exact notLive other ((mem_rowsOf other).2 ⟨isFile, sameOther⟩) notTrashed

theorem IsTrashed.of_sameFile (trashed : before.IsTrashed fileId)
    (same : before.SameFile fileId after) :
    after.IsTrashed fileId := by
  rw [isTrashed_iff_rowsOf, same.rows]
  exact isTrashed_iff_rowsOf.1 trashed

/-- What is in the trash stays as it is. -/
def KeepsTrash (fileId : String) (before after : Tables) : Prop :=
  before.IsTrashed fileId → before.SameFile fileId after

namespace KeepsTrash

instance (fileId : String) : IsPreorder Tables (KeepsTrash fileId) where
  refl := fun _ _ => ⟨rfl, rfl, rfl⟩
  trans := by
    intro first second third left right trashed
    have leftSame := left trashed
    have rightSame := right (trashed.of_sameFile leftSame)
    exact ⟨rightSame.rows.trans leftSame.rows, rightSame.versions.trans leftSame.versions,
      rightSame.links.trans leftSame.links⟩

theorem isTrashed (keeps : before.KeepsTrash fileId after) (trashed : before.IsTrashed fileId) :
    after.IsTrashed fileId :=
  trashed.of_sameFile (keeps trashed)

theorem updateLive {updated : String} {condition : FileRow → Bool} {change : FileRow → FileRow}
    (kept : ∀ row, (change row).fileId = row.fileId) (tables : Tables) :
    tables.KeepsTrash fileId (tables.updateLive updated condition change).2 := by
  intro trashed
  refine ⟨?_, rfl, rfl⟩
  rw [rowsOf, rowsOf, updateLive_files, List.filter_map]
  -- Only live rows are changed, and the file has none.
  have spared : ∀ row ∈ tables.files.filter fun row => row.fileId = fileId,
      (if row.fileId = updated ∧ row.trashedAt = none ∧ condition row = true then change row
        else row) = row := by
    intro row member
    obtain ⟨isFile, sameFile⟩ := List.mem_filter.1 member
    exact if_neg fun hit =>
      trashed.trashedAt_ne_none isFile (of_decide_eq_true sameFile) hit.2.1
  refine Eq.trans ?_ ((List.map_congr_left spared).trans (List.map_id _))
  congr 1
  refine List.filter_congr fun row _ => ?_
  simp only [Function.comp_apply]
  split
  · rw [kept]
  · rfl

theorem allowsTagging {tagged : String} (other : tagged ≠ fileId) :
    Work.AllowsTagging (KeepsTrash fileId) tagged where
  insert := by
    intro tables tag _
    obtain ⟨tags, inserted⟩ := insertTag_eq tables tag
    rw [inserted]
    exact ⟨rfl, rfl, rfl⟩
  attach := by
    intro before after tagId attached _
    obtain ⟨links, present, rfl⟩ := attachTag_eq_ok attached
    refine ⟨rfl, rfl, ?_⟩
    rw [linksOf, linksOf, present]
    simp only [Option.map_some, List.filter_append]
    split
    · simp
    · simp [other]
  clear := by
    intro before after cleared _
    obtain ⟨links, present, rfl⟩ := clearTags_eq_ok cleared
    refine ⟨rfl, rfl, ?_⟩
    rw [linksOf, linksOf, present, Option.map_some, Option.map_some, List.filter_filter]
    congr 1
    refine List.filter_congr fun link _ => ?_
    by_cases same : link.fileId = fileId
    · simp [same, other.symm]
    · simp [same]

theorem createFile {file : FileRecord} {version : VersionRecord}
    (created : before.createFile file version = (.ok (), after)) :
    before.KeepsTrash fileId after := by
  intro trashed
  obtain ⟨sameFile, _, fileRow, versionRow, fileEncoded, versionEncoded, new, _, rfl⟩ :=
    createFile_eq_ok.1 created
  have other : fileRow.fileId ≠ fileId := by
    rintro rfl
    rw [trashed.known] at new
    cases new
  have otherVersion : versionRow.fileId ≠ fileId := by
    obtain ⟨_, rfl⟩ := FileRecord.toRow_eq_ok.1 fileEncoded
    obtain ⟨_, rfl⟩ := VersionRecord.toRow_eq_ok.1 versionEncoded
    exact sameFile ▸ other
  refine ⟨?_, historyOf_of_other rfl otherVersion, rfl⟩
  simp [rowsOf, other]

theorem appendVersion {version : VersionRecord} {expected : UInt32}
    (added : before.appendVersion version expected = (.ok (), after)) :
    before.KeepsTrash fileId after := by
  intro trashed
  obtain ⟨_, row, _, ⟨file, member, sameFile, live, _⟩, _, rfl⟩ := appendVersion_eq_ok.1 added
  have other : row.fileId ≠ fileId := fun same =>
    trashed.trashedAt_ne_none member (sameFile.trans same) live
  have bump : before.KeepsTrash fileId (before.bumpVersion row (encodeNumber expected)).2 :=
    updateLive (fun _ => by rfl) before
  exact ⟨(bump trashed).rows, historyOf_of_other rfl other, rfl⟩

theorem attachTags {tagged : String} {names : List String} {linked : List Tag}
    (live : before.liveFile? tagged ≠ none)
    (attached : before.attachTags tagged names = (.ok linked, after)) :
    before.KeepsTrash fileId after := by
  intro trashed
  have other : tagged ≠ fileId := by
    rintro rfl
    exact live trashed.notLive
  exact (Work.within_linkTags (allowsTagging other) _ _).committed attached trashed

theorem trashFile (removed : String) (trashedAt : Int64) (tables : Tables) :
    tables.KeepsTrash fileId (tables.trashFile removed trashedAt).2 :=
  updateLive (fun _ => by rfl) tables

theorem within_trashFiles (trashedAt : Timestamp) (fileIds earlier : List String) :
    Work.Within (KeepsTrash fileId) (Work.trashFiles trashedAt fileIds earlier) :=
  Work.within_trashFiles (fun removed => trashFile removed _) fileIds earlier

end KeepsTrash

/-! ## Updates that find no live file -/

theorem updateLive_count_of_not_live {condition : FileRow → Bool} {change : FileRow → FileRow}
    (notLive : tables.liveFile? fileId = none) :
    (tables.updateLive fileId condition change).1 = 0 := by
  by_contra hit
  obtain ⟨row, member, sameFile, live, _⟩ := updateLive_count_ne_zero_iff.1 hit
  exact liveFile?_ne_none_iff.2 ⟨row, member, sameFile, live⟩ notLive

/-- Only the details of a live file can be updated. -/
theorem updateDetails_of_not_live {details : FileDetails} {tags : Option (List String)}
    {changedAt : Timestamp} (notLive : before.liveFile? fileId = none) :
    before.updateDetails fileId details tags changedAt =
      (.ok false,
        (before.updateDescription fileId details.fileName details.fileType
          details.description (encodeTime changedAt)).2) := by
  refine Work.transaction_eq_ok.2 (Work.bind_eq_ok.2 ⟨0, _, ?_, rfl⟩)
  exact Work.counted_eq_ok.2 ⟨updateLive_count_of_not_live notLive, rfl⟩

theorem not_updated_of_not_live {details : FileDetails} {tags : Option (List String)}
    {changedAt : Timestamp} {updated : Bool} (notLive : before.liveFile? fileId = none)
    (changed : before.updateDetails fileId details tags changedAt = (.ok updated, after)) :
    updated = false := by
  rw [updateDetails_of_not_live notLive] at changed
  cases changed
  rfl

theorem KeepsTrash.updateDetails {updated : String} {details : FileDetails}
    {tags : Option (List String)} {changedAt : Timestamp} {outcome : Except CatalogError Bool}
    (changed : before.updateDetails updated details tags changedAt = (outcome, after)) :
    before.KeepsTrash fileId after := by
  intro trashed
  by_cases same : updated = fileId
  · subst same
    rw [updateDetails_of_not_live trashed.notLive] at changed
    cases changed
    exact KeepsTrash.updateLive (fun _ => by rfl) before trashed
  · exact (Work.within_updateDetails (allowsTagging same)
      (fun tables => updateLive (fun _ => by rfl) tables) tags).committed changed trashed

/-! ## Moving files to the trash -/

theorem isTrashed_of_trashFile {trashedAt : Int64}
    (hit : (tables.trashFile fileId trashedAt).1 ≠ 0) :
    (tables.trashFile fileId trashedAt).2.IsTrashed fileId := by
  obtain ⟨row, member, sameFile, _⟩ := updateLive_count_ne_zero_iff.1 hit
  constructor
  · have sameIds : (tables.trashFile fileId trashedAt).2.files.map FileRow.fileId =
        tables.files.map FileRow.fileId :=
      map_updateLive fun _ => rfl
    rw [hasFile_of_map_fileId sameIds]
    exact hasFile_eq_true_iff.2 ⟨row, member, sameFile⟩
  · by_contra live
    obtain ⟨other, otherMember, sameOther, notTrashed⟩ := liveFile?_ne_none_iff.1 live
    obtain ⟨old, _, rfl⟩ := mem_updateLive.1 otherMember
    split at notTrashed
    · cases notTrashed
    · rename_i missed
      split at sameOther
      · exact missed ‹_›
      · exact missed ⟨sameOther, notTrashed, rfl⟩

/-- The files that are reported as moved to the trash were not there before and are there
now. -/
theorem isTrashed_of_mem_trashFiles {trashedAt : Timestamp} {fileIds earlier moved : List String}
    (removed : Work.trashFiles trashedAt fileIds earlier before = (.ok moved, after))
    (reported : fileId ∈ moved) :
    fileId ∈ earlier ∨ ¬ before.IsTrashed fileId ∧ after.IsTrashed fileId := by
  induction fileIds generalizing before earlier with
  | nil =>
      obtain ⟨rfl, _⟩ := Work.pure_eq_ok.1 removed
      exact Or.inl reported
  | cons first rest inductionHypothesis =>
      rw [Work.trashFiles, Work.bind_eq_ok] at removed
      obtain ⟨hit, between, counted, onward⟩ := removed
      obtain ⟨isCount, rfl⟩ := Work.counted_eq_ok.1 counted
      have keeps : KeepsTrash fileId before _ :=
        KeepsTrash.trashFile first (encodeTime trashedAt) before
      rcases inductionHypothesis onward with already | ⟨notYet, isTrashed⟩
      · split at already
        · rename_i moves
          rw [Bool.and_eq_true, decide_eq_true_eq, ← isCount] at moves
          rcases List.mem_append.1 already with isEarlier | isFirst
          · exact Or.inl isEarlier
          · obtain rfl := List.mem_singleton.1 isFirst
            refine Or.inr ⟨fun trashed => ?_, ?_⟩
            · exact moves.1 (updateLive_count_of_not_live trashed.notLive)
            · exact ((KeepsTrash.within_trashFiles trashedAt rest _).related onward).isTrashed
                (isTrashed_of_trashFile moves.1)
        · exact Or.inl already
      · exact Or.inr ⟨fun trashed => notYet (keeps.isTrashed trashed), isTrashed⟩

theorem mem_of_mem_trashFiles {trashedAt : Timestamp} {fileIds earlier moved : List String}
    (removed : Work.trashFiles trashedAt fileIds earlier before = (.ok moved, after))
    (reported : fileId ∈ moved) :
    fileId ∈ earlier ∨ fileId ∈ fileIds := by
  induction fileIds generalizing before earlier with
  | nil =>
      obtain ⟨rfl, _⟩ := Work.pure_eq_ok.1 removed
      exact Or.inl reported
  | cons first rest inductionHypothesis =>
      rw [Work.trashFiles, Work.bind_eq_ok] at removed
      obtain ⟨hit, between, counted, onward⟩ := removed
      rcases inductionHypothesis onward with already | inRest
      · split at already
        · rcases List.mem_append.1 already with isEarlier | isFirst
          · exact Or.inl isEarlier
          · obtain rfl := List.mem_singleton.1 isFirst
            exact Or.inr List.mem_cons_self
        · exact Or.inl already
      · exact Or.inr (List.mem_cons_of_mem first inRest)

/-- A removal reports files that it was asked for, that were live and that are in the
trash now. -/
theorem isTrashed_of_trash {fileIds moved : List String} {trashedAt : Timestamp}
    (removed : before.trash fileIds trashedAt = (.ok moved, after)) (reported : fileId ∈ moved) :
    fileId ∈ fileIds ∧ ¬ before.IsTrashed fileId ∧ after.IsTrashed fileId := by
  have work := Work.transaction_eq_ok.1 removed
  constructor
  · rcases mem_of_mem_trashFiles work reported with isEarlier | member
    · cases isEarlier
    · exact member
  · rcases isTrashed_of_mem_trashFiles work reported with isEarlier | moves
    · cases isEarlier
    · exact moves

end Tables

end ContentVault
