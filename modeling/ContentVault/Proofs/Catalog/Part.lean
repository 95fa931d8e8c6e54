import ContentVault.Proofs.Catalog.History

/-!
# The rows of one file

The part of a catalog that is about one file.

* what a read about a file answers is determined by the file's rows;
* a statement about a file changes the rows of this file, in a way that depends on nothing
  but them, and no others;
* tables whose rows are the same for every file hold the same rows.
-/

namespace ContentVault

/-- The rows of one file. -/
@[ext]
structure FilePart where
  files : List FileRow
  versions : List VersionRow
  links : Option (List TagLink)

/-- What a change of the live rows of a file does. -/
def FilePart.updateLive (condition : FileRow → Bool) (change : FileRow → FileRow)
    (part : FilePart) : FilePart :=
  { part with
    files := part.files.map fun row =>
      if row.trashedAt = none ∧ condition row = true then change row else row }

namespace Tables

/-- The rows of a file. -/
def part (tables : Tables) (fileId : String) : FilePart where
  files := tables.files.filter fun row => row.fileId = fileId
  versions := tables.historyOf fileId
  links := tables.links.map fun links => links.filter fun link => link.fileId = fileId

/-! ## Reads -/

section Reads

variable {tables here there : Tables} {fileId : String}

theorem file?_eq_head?_part : tables.file? fileId = (tables.part fileId).files.head? :=
  List.head?_filter.symm

theorem liveFile?_eq_find?_part :
    tables.liveFile? fileId =
      (tables.part fileId).files.find? fun row => row.trashedAt.isNone := by
  simp only [liveFile?, part, List.find?_filter, Bool.decide_and, Bool.decide_eq_true]

theorem version?_eq_find?_part (number : Int64) :
    tables.version? fileId number =
      (tables.part fileId).versions.find? fun row => row.number = number := by
  simp [version?, part, historyOf, List.find?_filter]

variable (same : here.part fileId = there.part fileId)

include same

theorem fileRecord_of_part : here.fileRecord fileId = there.fileRecord fileId := by
  rw [fileRecord, fileRecord, file?_eq_head?_part, file?_eq_head?_part, same]

theorem getFile_of_part : here.getFile fileId = there.getFile fileId := by
  rw [getFile, getFile, liveFile?_eq_find?_part, liveFile?_eq_find?_part, same]

theorem getVersion_of_part (number : UInt32) :
    here.getVersion fileId number = there.getVersion fileId number := by
  rw [getVersion, getVersion, version?_eq_find?_part, version?_eq_find?_part, same]

theorem listVersions_of_part : here.listVersions fileId = there.listVersions fileId := by
  have sameHistory : here.historyOf fileId = there.historyOf fileId :=
    congrArg FilePart.versions same
  rw [listVersions, listVersions, versionsOf, versionsOf]
  exact congrArg (fun rows : List VersionRow => (rows.mergeSort _).mapM VersionRow.toRecord)
    sameHistory

theorem hasFile_of_part : here.hasFile fileId = there.hasFile fileId := by
  have sameRow : here.file? fileId = there.file? fileId := by
    rw [file?_eq_head?_part, file?_eq_head?_part, same]
  rw [Bool.eq_iff_iff, ← Bool.not_eq_false, ← Bool.not_eq_false, ← file?_eq_none_iff,
    ← file?_eq_none_iff, sameRow]

end Reads

/-! ## Changes -/

/-- A change of the rows of one file, which depends on nothing but these rows. -/
structure ChangesPart (fileId : String) (change : FilePart → FilePart) (before after : Tables) :
    Prop where
  changed : after.part fileId = change (before.part fileId)
  others : ∀ other, other ≠ fileId → after.part other = before.part other
  tags : after.tags = before.tags

section Changes

variable {tables : Tables} {fileId : String}

theorem changesPart_insertFile (row : FileRow) :
    tables.ChangesPart row.fileId (fun part => { part with files := part.files ++ [row] })
      { tables with files := tables.files ++ [row] } where
  changed := by simp [part, historyOf]
  others := by
    intro other different
    simp [part, historyOf, different.symm]
  tags := rfl

theorem changesPart_insertVersion (row : VersionRow) :
    tables.ChangesPart row.fileId
      (fun part => { part with versions := part.versions ++ [row] })
      { tables with versions := tables.versions ++ [row] } where
  changed := by simp [part, historyOf]
  others := by
    intro other different
    simp [part, historyOf, different.symm]
  tags := rfl

theorem changesPart_addLink {links : List TagLink} (present : tables.links = some links)
    (tagId : String) :
    tables.ChangesPart fileId
      (fun part => { part with links := part.links.map (· ++ [⟨fileId, tagId⟩]) })
      { tables with links := some (links ++ [⟨fileId, tagId⟩]) } where
  changed := by simp [part, historyOf, present]
  others := by
    intro other different
    simp [part, historyOf, present, different.symm]
  tags := rfl

theorem changesPart_clearTags {links : List TagLink} (present : tables.links = some links) :
    tables.ChangesPart fileId (fun part => { part with links := some [] })
      { tables with links := some (links.filter fun link => decide (link.fileId ≠ fileId)) } where
  changed := by simp [part, historyOf]
  others := by
    intro other different
    have isOther : ∀ link : TagLink,
        (decide (link.fileId = other) && decide (link.fileId ≠ fileId)) =
          decide (link.fileId = other) := by
      intro link
      by_cases same : link.fileId = other
      · simp [same, different]
      · simp [same]
    simp only [part, historyOf, present, Option.map_some, List.filter_filter, isOther]
  tags := rfl

theorem changesPart_updateLive {condition : FileRow → Bool} {change : FileRow → FileRow}
    (kept : ∀ row, (change row).fileId = row.fileId) :
    tables.ChangesPart fileId (FilePart.updateLive condition change)
      (tables.updateLive fileId condition change).2 := by
  have sameFile : ∀ (row : FileRow) (other : String),
      decide ((if row.fileId = fileId ∧ row.trashedAt = none ∧ condition row = true then
        change row else row).fileId = other) = decide (row.fileId = other) := by
    intro row other
    split
    · rw [kept]
    · rfl
  have files : ∀ other, ((tables.updateLive fileId condition change).2.part other).files =
      (tables.part other).files.map fun row =>
        if row.fileId = fileId ∧ row.trashedAt = none ∧ condition row = true then change row
        else row := by
    intro other
    simp only [part, updateLive_files, List.filter_map, Function.comp_def, sameFile]
  constructor
  · have isChanged : ((tables.updateLive fileId condition change).2.part fileId).files =
        ((tables.part fileId).files.map fun row =>
          if row.trashedAt = none ∧ condition row = true then change row else row) := by
      rw [files]
      refine List.map_congr_left fun row member => ?_
      have isOwn : row.fileId = fileId := by simpa using (List.mem_filter.1 member).2
      simp only [isOwn, true_and]
    exact FilePart.ext isChanged rfl rfl
  · intro other different
    have unchanged : ((tables.updateLive fileId condition change).2.part other).files =
        (tables.part other).files := by
      rw [files]
      refine (List.map_congr_left fun row member => ?_).trans (List.map_id _)
      have isOther : row.fileId = other := by simpa using (List.mem_filter.1 member).2
      rw [if_neg fun hit => different (isOther.symm.trans hit.1)]
      rfl
    exact FilePart.ext unchanged rfl rfl
  · rfl

theorem count_updateLive {condition : FileRow → Bool} {change : FileRow → FileRow} :
    (tables.updateLive fileId condition change).1 =
      (tables.part fileId).files.countP fun row =>
        row.trashedAt.isNone && condition row := by
  rw [part, List.countP_filter]
  refine List.countP_congr fun row _ => ?_
  simp only [Bool.and_eq_true]
  exact ⟨fun ⟨⟨own, live⟩, holds⟩ => ⟨⟨live, holds⟩, own⟩,
    fun ⟨⟨live, holds⟩, own⟩ => ⟨⟨own, live⟩, holds⟩⟩

/-- A new tag changes the rows of no file. -/
theorem part_insertTag (tag : Tag) (fileId : String) :
    (tables.insertTag tag).part fileId = tables.part fileId := by
  obtain ⟨tags, inserted⟩ := insertTag_eq tables tag
  rw [inserted]
  rfl

end Changes

/-! ## All files -/

/-- Lists with the same items for every key are the same but for their order. -/
theorem perm_of_filter_key {α κ : Type} [DecidableEq α] [DecidableEq κ] (key : α → κ)
    {first second : List α}
    (same : ∀ wanted, (first.filter fun item => key item = wanted) =
      second.filter fun item => key item = wanted) :
    first.Perm second := by
  rw [List.perm_iff_count]
  intro item
  have own : decide (key item = key item) = true := decide_eq_true rfl
  rw [← List.count_filter (p := fun other => decide (key other = key item)) own,
    ← List.count_filter (l := second) (p := fun other => decide (key other = key item)) own,
    same]

/-- Tables with the same rows for every file hold the same rows. -/
theorem perm_of_part {first second : Tables}
    (same : ∀ fileId, first.part fileId = second.part fileId) :
    first.files.Perm second.files ∧ first.versions.Perm second.versions ∧
      ∀ links others, first.links = some links → second.links = some others →
        links.Perm others := by
  refine ⟨perm_of_filter_key FileRow.fileId fun fileId => congrArg FilePart.files (same fileId),
    perm_of_filter_key VersionRow.fileId fun fileId => congrArg FilePart.versions (same fileId),
    fun links others isFirst isSecond => perm_of_filter_key TagLink.fileId fun fileId => ?_⟩
  have sameLinks := congrArg FilePart.links (same fileId)
  simpa only [part, isFirst, isSecond, Option.map_some, Option.some.injEq] using sameLinks

end Tables

end ContentVault
