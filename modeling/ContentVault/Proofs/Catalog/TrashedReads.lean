import ContentVault.Proofs.Catalog.Listing
import ContentVault.Proofs.Catalog.Tagging
import ContentVault.Proofs.Catalog.Trash
import ContentVault.Proofs.Vault.FileHistory

/-!
# What reads tell about the trash

What the reads of the catalog tell about a trashed file, in tables that any run of changes
reaches from empty ones.

* the lookup of live files and every listing answer as if the file had never been
  registered; the lookup of records returns it;
* the lookups of versions and of tags do not look at the row of the file: they tell of a
  trashed file what they tell of a live one.
-/

namespace ContentVault

/-! ## Rows that stay readable -/

/-- Tables in which every file can be read back and links can be asked for. -/
structure Tables.Readable (tables : Tables) : Prop where
  files : ∀ row ∈ tables.files, ∃ file : FileRecord, file.toRow = .ok row
  links : tables.links.isSome = true

/-- The tables stay readable if they were. -/
def Tables.StaysReadable (before after : Tables) : Prop :=
  before.Readable → after.Readable

namespace Tables.StaysReadable

variable {before after : Tables}

instance : IsPreorder Tables StaysReadable where
  refl := fun _ => id
  trans := fun _ _ _ left right readable => right (left readable)

theorem updateLive {fileId : String} {condition : FileRow → Bool} {change : FileRow → FileRow}
    (kept : ∀ (file : FileRecord) (row : FileRow), file.toRow = .ok row →
      ∃ changed : FileRecord, changed.toRow = .ok (change row))
    (tables : Tables) :
    tables.StaysReadable (tables.updateLive fileId condition change).2 := by
  intro readable
  refine ⟨fun row member => ?_, readable.links⟩
  obtain ⟨old, oldMember, rfl⟩ := Tables.mem_updateLive.1 member
  obtain ⟨file, encoded⟩ := readable.files old oldMember
  split
  · exact kept file old encoded
  · exact ⟨file, encoded⟩

theorem allowsTagging (fileId : String) : Work.AllowsTagging StaysReadable fileId where
  insert := by
    intro tables tag readable
    obtain ⟨tags, inserted⟩ := Tables.insertTag_eq tables tag
    rw [inserted]
    exact ⟨readable.files, readable.links⟩
  attach := by
    intro tables after tagId attached readable
    obtain ⟨_, _, rfl⟩ := Tables.attachTag_eq_ok attached
    exact ⟨readable.files, rfl⟩
  clear := by
    intro tables after cleared readable
    obtain ⟨_, _, rfl⟩ := Tables.clearTags_eq_ok cleared
    exact ⟨readable.files, rfl⟩

theorem createFile {file : FileRecord} {version : VersionRecord}
    (created : before.createFile file version = (.ok (), after)) :
    before.StaysReadable after := by
  intro readable
  obtain ⟨_, _, row, _, encoded, _, _, _, rfl⟩ := Tables.createFile_eq_ok.1 created
  refine ⟨fun other member => ?_, readable.links⟩
  rcases List.mem_append.1 member with isOld | isNew
  · exact readable.files other isOld
  · rw [List.mem_singleton] at isNew
    exact ⟨file, isNew ▸ encoded⟩

theorem appendVersion {version : VersionRecord} {expected : UInt32}
    (added : before.appendVersion version expected = (.ok (), after)) :
    before.StaysReadable after := by
  obtain ⟨_, row, encoded, _, _, rfl⟩ := Tables.appendVersion_eq_ok.1 added
  have bump : before.StaysReadable (before.bumpVersion row (encodeNumber expected)).2 :=
    updateLive (fun _ _ isRow => ⟨_, FileRecord.toRow_bumped isRow encoded⟩) before
  exact fun readable => ⟨(bump readable).files, readable.links⟩

theorem perform (change : CatalogChange) (before : Tables) :
    before.StaysReadable (change.perform before).2 := by
  cases change with
  | createFile file version =>
      rcases created : before.createFile file version with ⟨failure | _, after⟩
      · rw [CatalogChange.perform, created, Work.transaction_of_error created]
        exact id
      · rw [CatalogChange.perform, created]
        exact createFile created
  | appendVersion version expected =>
      rcases added : before.appendVersion version expected with ⟨failure | _, after⟩
      · rw [CatalogChange.perform, added, Work.transaction_of_error added]
        exact id
      · rw [CatalogChange.perform, added]
        exact appendVersion added
  | updateDetails fileId details tags changedAt =>
      refine Work.Within.transaction
        (Work.within_updateDetails (allowsTagging fileId) (fun tables => ?_) tags) before
      exact updateLive
        (fun _ _ encoded => ⟨_, FileRecord.toRow_described encoded _ _ _ changedAt⟩) tables
  | trash fileIds trashedAt =>
      refine Work.Within.transaction (Work.within_trashFiles (fun fileId tables => ?_) _ _) before
      exact updateLive
        (fun _ _ encoded => ⟨_, FileRecord.toRow_trashed encoded trashedAt⟩) tables
  | attachTags fileId names =>
      exact Work.Within.transaction (Work.within_linkTags (allowsTagging fileId) names []) before

end Tables.StaysReadable

theorem CatalogChange.readable_run (changes : List CatalogChange) {tables : Tables}
    (readable : tables.Readable) :
    (run changes tables).2.Readable := by
  refine run_keeps Tables.Readable (fun change _ before after performed => ?_) readable
  have stays := Tables.StaysReadable.perform change before
  rw [performed] at stays
  exact stays

/-! ## Reads that look at the row of the file -/

/-- The tables as if a file had never been registered. -/
def Tables.withoutFile (tables : Tables) (fileId : String) : Tables :=
  { tables with files := tables.files.filter fun row => decide (row.fileId ≠ fileId) }

section Hidden

variable {tables : Tables} {fileId : String} {query : FileQuery}

theorem FileQuery.admits_of_trashed (query : FileQuery) (links : List TagLink) {row : FileRow}
    (trashed : row.trashedAt ≠ none) :
    query.admits links row = .ok false := by
  have notEarly : query.admitsEarly links row = false := by
    simp [admitsEarly, trashed]
  rw [admits, if_neg (by rw [notEarly]; exact Bool.false_ne_true)]
  rfl

/-- Rows of trashed files are passed over before anything is compared that could fail. -/
theorem FileQuery.selectRows_filter {links : List TagLink} {files : List FileRow}
    (trashed : ∀ row ∈ files, row.fileId = fileId → row.trashedAt ≠ none) :
    query.selectRows links (files.filter fun row => decide (row.fileId ≠ fileId)) =
      query.selectRows links files := by
  induction files with
  | nil =>
      rfl
  | cons row rest inductionHypothesis =>
      have others := inductionHypothesis fun other member =>
        trashed other (List.mem_cons_of_mem row member)
      by_cases sameFile : row.fileId = fileId
      · have passedOver := query.admits_of_trashed links
          (trashed row List.mem_cons_self sameFile)
        rw [List.filter_cons_of_neg (by simp [sameFile]), others]
        conv => rhs; rw [selectRows, passedOver]
        rcases query.selectRows links rest with _ | _ <;> rfl
      · rw [List.filter_cons_of_pos (by simp [sameFile]), selectRows, selectRows, others]

theorem Tables.getFile_of_not_live (notLive : tables.liveFile? fileId = none) :
    tables.getFile fileId = .ok none := by
  rw [getFile, notLive]
  rfl

theorem Tables.IsTrashed.listFiles_eq (trashed : tables.IsTrashed fileId) (query : FileQuery) :
    tables.listFiles query = (tables.withoutFile fileId).listFiles query := by
  have sameRows : query.matchingRows (tables.withoutFile fileId) = query.matchingRows tables := by
    have passedOver : ∀ links : List TagLink,
        query.selectRows links (tables.withoutFile fileId).files =
          query.selectRows links tables.files :=
      fun links => FileQuery.selectRows_filter fun row member sameFile =>
        trashed.trashedAt_ne_none member sameFile
    simp only [FileQuery.matchingRows, passedOver]
    rfl
  rw [listFiles, listFiles, FileQuery.answer, FileQuery.answer, sameRows]

theorem Tables.IsTrashed.not_listed (trashed : tables.IsTrashed fileId) {page : Page FileRecord}
    (answered : tables.listFiles query = .ok page) {file : FileRecord}
    (listed : file ∈ page.items) :
    file.fileId ≠ fileId := by
  obtain ⟨rows, found, _, decoded⟩ := FileQuery.answer_eq_ok answered
  obtain ⟨row, inWindow, isFile⟩ := (mem_of_list_mapM_eq_ok decoded).2 file listed
  have isMatch : row ∈ rows := List.mem_of_mem_drop (List.mem_of_mem_take inWindow)
  rw [FileQuery.matchingRows_eq_ok found, List.mem_mergeSort, List.mem_filter] at isMatch
  have live := (FileQuery.selects_iff.1 isMatch.2).1
  rw [FileRow.fileId_of_toRecord isFile]
  exact fun sameFile => trashed.trashedAt_ne_none isMatch.1 sameFile live

end Hidden

/-- The reads that look at the row of a file do not show it. -/
structure Tables.Hides (tables : Tables) (fileId : String) : Prop where
  getFile : tables.getFile fileId = .ok none
  listFiles : ∀ query, tables.listFiles query = (tables.withoutFile fileId).listFiles query
  unlisted : ∀ query page, tables.listFiles query = .ok page →
    ∀ file ∈ page.items, file.fileId ≠ fileId

/-! ## Reads that do not -/

/-- What the reads tell of a file that do not ask whether it is trashed: its record, all
its versions, and the names of all its tags. -/
structure Tables.Reveals (tables : Tables) (fileId : String) (file : FileRecord)
    (versions : List VersionRecord) (names : List String) : Prop where
  record : tables.fileRecord fileId = .ok (some file)
  sameFile : file.fileId = fileId
  trashed : file.trashedAt.isSome = true
  history : tables.TellsVersions fileId versions
  current : ∃ version ∈ versions, version.number = file.currentVersion
  tagsForFile : tables.tagsForFile fileId = .ok names
  carried : names.Perm ((tables.links.getD []).filterMap (tables.nameOfLink fileId))
  tagsForFiles : ∀ fileIds, fileId ∈ fileIds →
    ∃ entries, tables.tagsForFiles fileIds = .ok entries ∧
      (entries.lookup fileId).getD [] = names

namespace Tables

variable {tables : Tables} {fileId : String}

theorem exists_record_of_trashed (readable : tables.Readable)
    (trashed : tables.IsTrashed fileId) :
    ∃ row file, tables.file? fileId = some row ∧ row.toRecord = .ok file ∧
      file.trashedAt.isSome = true := by
  rcases found : tables.file? fileId with _ | row
  · rw [file?_eq_none_iff, trashed.known] at found
    cases found
  obtain ⟨member, sameFile⟩ := mem_of_file?_eq_some found
  obtain ⟨stored, encoded⟩ := readable.files row member
  refine ⟨row, stored.inWholeSeconds, rfl, FileRow.toRecord_of_toRow encoded, ?_⟩
  have isTrashed := trashed.trashedAt_ne_none member sameFile
  obtain ⟨_, rfl⟩ := FileRecord.toRow_eq_ok.1 encoded
  rw [FileRecord.inWholeSeconds, Option.isSome_map]
  exact Option.isSome_iff_ne_none.2 fun absent => isTrashed (by rw [absent]; rfl)

theorem tagsForFile_of_present (present : tables.links.isSome = true) (fileId : String) :
    ∃ names, tables.tagsForFile fileId = .ok names ∧
      names.Perm ((tables.links.getD []).filterMap (tables.nameOfLink fileId)) := by
  obtain ⟨links, isLinks⟩ := Option.isSome_iff_exists.1 present
  refine ⟨sortedNames (links.filterMap (tables.nameOfLink fileId)), ?_, ?_⟩
  · rw [tagsForFile, tagNames, requireLinks, isLinks]
    rfl
  · rw [isLinks]
    exact List.mergeSort_perm _ _

theorem exists_reveals {log : List CatalogChange} (chronicle : Chronicle log tables)
    (encoded : tables.VersionsEncoded) (readable : tables.Readable)
    (trashed : tables.IsTrashed fileId) :
    ∃ file versions names, tables.Reveals fileId file versions names := by
  obtain ⟨row, file, found, isFile, isTrashed⟩ := exists_record_of_trashed readable trashed
  obtain ⟨member, sameFile⟩ := mem_of_file?_eq_some found
  obtain ⟨_, _, _, recorded⟩ := chronicle.known row member
  obtain ⟨versions, tells⟩ := exists_tellsVersions encoded recorded
  obtain ⟨names, named, carried⟩ := tagsForFile_of_present readable.links fileId
  subst sameFile
  refine ⟨file, versions, names, fileRecord_eq_some.2 ⟨row, found, isFile⟩,
    FileRow.fileId_of_toRecord isFile, isTrashed, tells, ?_, named, carried, ?_⟩
  · obtain ⟨stored, isStored, _, atCurrent⟩ := recorded.version?_eq_some
    obtain ⟨version, isVersion, decoded⟩ := (mem_of_forall₂ tells.decoded).1 stored isStored
    obtain ⟨_, isRow⟩ := FileRecord.toRow_eq_ok.1 (FileRow.toRow_of_toRecord isFile)
    refine ⟨version, isVersion, encodeNumber_injective ?_⟩
    rw [← number_of_toRecord decoded, atCurrent, isRow]
  · intro fileIds asked
    obtain ⟨entries, answered⟩ := exists_tagsForFiles readable.links fileIds
    refine ⟨entries, answered, ?_⟩
    have sameNames := tagNames_of_tagsForFiles answered asked
    rw [databaseError_eq_ok.1 named] at sameNames
    exact (Except.ok.inj sameNames).symm

end Tables

/-- After any run of changes from empty tables, a trashed file is hidden from the lookup of
live files and from every listing, and revealed by the lookups of its record, its versions
and its tags, whatever was done to it before. -/
theorem trashed_files_are_hidden_and_revealed (changes : List CatalogChange) (fileId : String)
    (trashed : (CatalogChange.run changes Tables.empty).2.IsTrashed fileId) :
    (CatalogChange.run changes Tables.empty).2.Hides fileId ∧
      ∃ file versions names,
        (CatalogChange.run changes Tables.empty).2.Reveals fileId file versions names := by
  have readable : (CatalogChange.run changes Tables.empty).2.Readable :=
    CatalogChange.readable_run changes ⟨fun _ member => absurd member List.not_mem_nil, rfl⟩
  have encoded : (CatalogChange.run changes Tables.empty).2.VersionsEncoded :=
    CatalogChange.versionsEncoded_run changes fun _ member => absurd member List.not_mem_nil
  refine ⟨⟨Tables.getFile_of_not_live trashed.notLive, trashed.listFiles_eq, ?_⟩, ?_⟩
  · intro query page answered file listed
    exact trashed.not_listed answered listed
  · exact Tables.exists_reveals (CatalogChange.chronicle_run changes Chronicle.empty) encoded
      readable trashed

/-- A file that is registered, tagged and moved to the trash. -/
def discardedFile : List CatalogChange :=
  let moment := Timestamp.epoch
  [.createFile
      ⟨"f", "alice", "notes.md", "md", "text/markdown", 5, "alice/197001/f", moment, moment, 1,
        "", .active, none⟩
      (.make "f" 1 5 "alice/197001/f" "text/markdown" moment "Initial upload"),
    .attachTags "f" ["home"],
    .trash ["f"] moment]

theorem discarded_file_is_hidden_and_revealed :
    (CatalogChange.run discardedFile Tables.empty).2.IsTrashed "f" ∧
      (CatalogChange.run discardedFile Tables.empty).2.Hides "f" ∧
        ∃ file versions names,
          (CatalogChange.run discardedFile Tables.empty).2.Reveals "f" file versions names := by
  have trashed : (CatalogChange.run discardedFile Tables.empty).2.IsTrashed "f" :=
    ⟨by decide +kernel, by decide +kernel⟩
  exact ⟨trashed, trashed_files_are_hidden_and_revealed discardedFile "f" trashed⟩

/-- All four reads that do not look at the row of a file tell of one in the trash. -/
theorem discarded_file_is_still_told_of :
    (CatalogChange.run discardedFile Tables.empty).2.IsTrashed "f" ∧
      (∃ version,
        (CatalogChange.run discardedFile Tables.empty).2.getVersion "f" 1 = .ok (some version) ∧
          (CatalogChange.run discardedFile Tables.empty).2.listVersions "f" = .ok [version]) ∧
      (CatalogChange.run discardedFile Tables.empty).2.tagsForFile "f" = .ok ["home"] ∧
      (CatalogChange.run discardedFile Tables.empty).2.tagsForFiles ["f"] =
        .ok [("f", ["home"])] := by
  refine ⟨⟨by decide +kernel, by decide +kernel⟩,
    ⟨.make "f" 1 5 "alice/197001/f" "text/markdown" .epoch "Initial upload", ?_, ?_⟩, ?_, ?_⟩
  · decide +kernel
  · decide +kernel
  · decide +kernel
  · decide +kernel

end ContentVault
