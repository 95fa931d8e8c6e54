import ContentVault.Proofs.Vault.Rows

/-!
# The history of a live file

What the lookups of the catalog tell about a live file, in tables that a run of operations
reaches from empty ones.

* its versions are listed with the numbers from 1 to the current one;
* each of them is found by its number, and nothing is found by another number;
* the row of the file repeats what its current version says.
-/

namespace ContentVault

/-! ## Versions that can be read back -/

/-- The versions of tables are rows of versions. -/
def Tables.VersionsEncoded (tables : Tables) : Prop :=
  ∀ row ∈ tables.versions, ∃ version : VersionRecord, version.toRow = .ok row

namespace CatalogChange

variable {before after : Tables}

theorem versionsEncoded_of_effect {change : CatalogChange} (effect : change.Effect before after)
    (encoded : before.VersionsEncoded) :
    after.VersionsEncoded := by
  have added : ∀ {version : VersionRecord} {row : VersionRow}, version.toRow = .ok row →
      ∀ stored ∈ before.versions ++ [row], ∃ version : VersionRecord,
        version.toRow = .ok stored := by
    intro version row isRow stored member
    rcases List.mem_append.1 member with isOld | isNew
    · exact encoded stored isOld
    · rw [List.mem_singleton] at isNew
      exact ⟨version, isNew ▸ isRow⟩
  cases effect with
  | kept same _ _ =>
      intro row member
      exact encoded row (same.1 ▸ member)
  | created _ _ _ versionEncoded _ =>
      exact added versionEncoded
  | appended _ versionEncoded _ _ _ _ =>
      exact added versionEncoded

theorem versionsEncoded_run (changes : List CatalogChange) {tables : Tables}
    (encoded : tables.VersionsEncoded) :
    (run changes tables).2.VersionsEncoded :=
  run_keeps Tables.VersionsEncoded
    (fun _ _ _ _ performed => versionsEncoded_of_effect (effect_of_perform performed)) encoded

end CatalogChange

theorem Tables.Evolves.versionsEncoded_of_empty {tables : Tables}
    (evolves : Tables.empty.Evolves tables) :
    tables.VersionsEncoded := by
  obtain ⟨changes, _, rfl⟩ := evolves
  exact CatalogChange.versionsEncoded_run changes fun _ member => by cases member

/-! ## Numbers in order -/

theorem pairwise_numbersThrough (first last : UInt32) :
    (numbersThrough first last).Pairwise fun earlier later => earlier.toInt < later.toInt := by
  rw [numbersThrough, List.pairwise_map]
  have bound := last.toNat_lt
  refine List.Pairwise.imp_of_mem ?_ List.pairwise_lt_range'
  intro earlier later isEarlier isLater inOrder
  rw [List.mem_range'_1] at isEarlier isLater
  rw [Int64.toInt_ofNat_of_lt (by omega), Int64.toInt_ofNat_of_lt (by omega)]
  omega

namespace Recorded

variable {log : List CatalogChange} {tables : Tables} {row : FileRow} {file : FileRecord}
  {version : VersionRecord} {current : UInt32}

theorem pairwise_history (recorded : Recorded log tables row file version current) :
    (tables.historyOf row.fileId).Pairwise
      fun earlier later => earlier.number.toInt < later.number.toInt := by
  have inOrder := pairwise_numbersThrough file.currentVersion current
  rw [← recorded.numbers, List.pairwise_map] at inOrder
  exact inOrder

/-- The versions of a file were added in the order of their numbers. -/
theorem versionsOf_eq (recorded : Recorded log tables row file version current) :
    tables.versionsOf row.fileId = tables.historyOf row.fileId := by
  refine List.mergeSort_of_pairwise ?_
  exact recorded.pairwise_history.imp fun inOrder => decide_eq_true (Int.le_of_lt inOrder)

theorem version?_of_mem (recorded : Recorded log tables row file version current)
    {stored : VersionRow} (member : stored ∈ tables.historyOf row.fileId) :
    tables.version? row.fileId stored.number = some stored := by
  obtain ⟨isVersion, sameFile⟩ := List.mem_filter.1 member
  have distinct : ((tables.historyOf row.fileId).map VersionRow.number).Nodup := by
    refine List.pairwise_map.2 (recorded.pairwise_history.imp ?_)
    intro earlier later inOrder same
    rw [same] at inOrder
    exact Int.lt_irrefl _ inOrder
  have found : (tables.version? row.fileId stored.number).isSome = true := by
    refine List.find?_isSome.2 ⟨stored, isVersion, ?_⟩
    simp [of_decide_eq_true sameFile]
  obtain ⟨first, isFirst⟩ := Option.isSome_iff_exists.1 found
  obtain ⟨firstVersion, firstFile, firstNumber⟩ := Tables.mem_of_version?_eq_some isFirst
  have firstMember : first ∈ tables.historyOf row.fileId :=
    List.mem_filter.2 ⟨firstVersion, decide_eq_true firstFile⟩
  rw [isFirst, List.inj_on_of_nodup_map distinct firstMember member firstNumber]

end Recorded

/-! ## What the catalog tells -/

/-- What the lookups of the catalog tell about a live file and its versions. -/
structure Tables.HasHistory (tables : Tables) (file : FileRecord)
    (versions : List VersionRecord) : Prop where
  live : tables.getFile file.fileId = .ok (some file)
  listed : tables.listVersions file.fileId = .ok versions
  numbers :
    versions.map (fun version => version.number.toNat) =
      List.range' 1 file.currentVersion.toNat
  found : ∀ version ∈ versions,
    tables.getVersion file.fileId version.number = .ok (some version)
  absent : ∀ number, (∀ version ∈ versions, version.number ≠ number) →
    tables.getVersion file.fileId number = .ok none
  current : ∃ version ∈ versions,
    version.number = file.currentVersion ∧ version.path = file.path ∧
      version.contentType = file.contentType ∧ version.size = file.size
  stored : ∀ version ∈ versions, ∃ row ∈ tables.versions, version.toRow = .ok row

namespace Tables.HasHistory

variable {tables : Tables} {file : FileRecord} {versions : List VersionRecord}
  {version other : VersionRecord}

theorem eq_of_number (history : tables.HasHistory file versions) (member : version ∈ versions)
    (otherMember : other ∈ versions) (same : version.number = other.number) :
    version = other := by
  have found := history.found version member
  rw [same, history.found other otherMember] at found
  exact (Option.some.inj (Except.ok.inj found)).symm

theorem number_pos (history : tables.HasHistory file versions) (member : version ∈ versions) :
    0 < version.number.toNat := by
  have inRange : version.number.toNat ∈ List.range' 1 file.currentVersion.toNat :=
    history.numbers ▸ List.mem_map_of_mem member
  rw [List.mem_range'_1] at inRange
  omega

theorem nodup_numbers (history : tables.HasHistory file versions) :
    (versions.map VersionRecord.number).Nodup := by
  refine List.Nodup.of_map UInt32.toNat ?_
  have numbers := history.numbers
  rw [List.map_map]
  exact numbers ▸ List.nodup_range'

end Tables.HasHistory

namespace Tables

variable {tables : Tables} {row : FileRow} {file : FileRecord} {version : VersionRecord}

theorem number_of_toRecord {stored : VersionRow} (decoded : stored.toRecord = .ok version) :
    stored.number = encodeNumber version.number := by
  obtain ⟨_, rfl⟩ := VersionRecord.toRow_eq_ok.1 (VersionRow.toRow_of_toRecord decoded)
  rfl

/-- The numbers of versions that were read are those of their rows. -/
theorem toNat_numbers_of_decoded {rows : List VersionRow} {versions : List VersionRecord}
    (decoded : List.Forall₂ (fun row version => row.toRecord = .ok version) rows versions) :
    versions.map (fun version => (version.number.toNat : Int)) =
      rows.map fun row => row.number.toInt := by
  induction decoded with
  | nil =>
      rfl
  | cons isVersion _ inductionHypothesis =>
      rw [List.map_cons, List.map_cons, inductionHypothesis, number_of_toRecord isVersion,
        toInt_encodeNumber]

/-- A file that agrees with a version on what is stored agrees with it as a whole. -/
theorem agrees_of_revision {stored : VersionRow} (same : stored.revision = row.revision)
    (isVersion : stored.toRecord = .ok version) (isFile : row.toRecord = .ok file) :
    version.number = file.currentVersion ∧ version.path = file.path ∧
      version.contentType = file.contentType ∧ version.size = file.size := by
  obtain ⟨_, rfl⟩ := VersionRecord.toRow_eq_ok.1 (VersionRow.toRow_of_toRecord isVersion)
  obtain ⟨_, rfl⟩ := FileRecord.toRow_eq_ok.1 (FileRow.toRow_of_toRecord isFile)
  have sameNumber := congrArg Revision.number same
  have sameSize : version.size = file.size :=
    congrArg (fun revision => revision.size.toUInt64) same
  exact ⟨encodeNumber_injective sameNumber, congrArg Revision.path same,
    congrArg Revision.contentType same, sameSize⟩

/-- What the lookups of versions tell about a registered file, whether or not it is live:
the rows of its history, as a list and one by one. -/
structure TellsVersions (tables : Tables) (fileId : String) (versions : List VersionRecord) :
    Prop where
  listed : tables.listVersions fileId = .ok versions
  found : ∀ version ∈ versions, tables.getVersion fileId version.number = .ok (some version)
  absent : ∀ number, (∀ version ∈ versions, version.number ≠ number) →
    tables.getVersion fileId number = .ok none
  decoded :
    List.Forall₂ (fun stored version => stored.toRecord = .ok version)
      (tables.historyOf fileId) versions

theorem exists_tellsVersions {log : List CatalogChange} {first : VersionRecord}
    {current : UInt32} (encoded : tables.VersionsEncoded)
    (recorded : Recorded log tables row file first current) :
    ∃ versions, tables.TellsVersions row.fileId versions := by
  have readable : ∀ stored ∈ tables.historyOf row.fileId,
      ∃ version, stored.toRecord = .ok version := by
    intro stored isStored
    obtain ⟨version, isVersion⟩ := encoded stored (List.mem_of_mem_filter isStored)
    exact ⟨_, VersionRow.toRecord_of_toRow isVersion⟩
  obtain ⟨versions, listed⟩ := exists_list_mapM_eq_ok readable
  obtain ⟨forwards, backwards⟩ := mem_of_list_mapM_eq_ok listed
  refine ⟨versions, ?_, ?_, ?_, list_mapM_eq_ok.1 listed⟩
  · rw [listVersions, recorded.versionsOf_eq]
    exact listed
  · intro version isVersion
    obtain ⟨stored, isStored, decoded⟩ := backwards version isVersion
    rw [getVersion_eq_some, ← number_of_toRecord decoded]
    exact ⟨stored, recorded.version?_of_mem isStored, decoded⟩
  · intro number others
    rcases found : tables.version? row.fileId (encodeNumber number) with _ | stored
    · rw [getVersion, found]
      rfl
    · obtain ⟨isVersion, sameFile, sameNumber⟩ := mem_of_version?_eq_some found
      obtain ⟨version, isListed, decoded⟩ := forwards stored
        (List.mem_filter.2 ⟨isVersion, decide_eq_true sameFile⟩)
      have known := (number_of_toRecord decoded).symm.trans sameNumber
      exact absurd (encodeNumber_injective known) (others version isListed)

/-- Every live file has a history, in tables that evolved from empty ones. -/
theorem Evolves.exists_history (evolves : Tables.empty.Evolves tables) (sound : tables.Sound)
    (member : row ∈ tables.files) (live : row.trashedAt = none) :
    ∃ file versions, row.toRecord = .ok file ∧ tables.HasHistory file versions := by
  obtain ⟨file, isFile⟩ := (sound.files row member).toRecord_eq_ok
  have sameId : file.fileId = row.fileId := FileRow.fileId_of_toRecord isFile
  obtain ⟨_, created, first, current, recorded, startsAtOne, samePath, sameSize, sameType⟩ :=
    evolves.recorded_of_empty member
  have isCurrent : file.currentVersion = current := by
    refine encodeNumber_injective ?_
    obtain ⟨_, isRow⟩ := FileRecord.toRow_eq_ok.1 (FileRow.toRow_of_toRecord isFile)
    rw [← recorded.reached, isRow]
  obtain ⟨versions, tells⟩ := exists_tellsVersions evolves.versionsEncoded_of_empty recorded
  obtain ⟨forwards, backwards⟩ := mem_of_forall₂ tells.decoded
  refine ⟨file, versions, isFile, ?_, ?_, ?_, ?_, ?_, ?_, ?_⟩
  · rw [sameId, getFile_eq_some]
    have keyed := evolves.keyed_of_empty
    exact ⟨row, (liveFile?_eq_some_iff keyed).2 ⟨member, rfl, live⟩, isFile⟩
  · rw [sameId]
    exact tells.listed
  · have inRows :
        (tables.historyOf row.fileId).map (fun stored => stored.number.toInt) =
          (List.range' 1 current.toNat).map Int.ofNat := by
      have numbers := congrArg (List.map Int64.toInt) recorded.numbers
      rw [List.map_map, startsAtOne, numbersThrough, List.map_map] at numbers
      refine numbers.trans (List.map_congr_left fun number inRange => ?_)
      have bound := current.toNat_lt
      change number ∈ List.range' 1 current.toNat at inRange
      rw [List.mem_range'_1] at inRange
      exact Int64.toInt_ofNat_of_lt (by omega)
    have counted := (toNat_numbers_of_decoded tells.decoded).trans inRows
    rw [isCurrent]
    refine List.map_injective_iff.2 (fun _ _ => Int.ofNat.inj) ?_
    rw [← counted, List.map_map]
    rfl
  · intro version isVersion
    rw [sameId]
    exact tells.found version isVersion
  · intro number others
    rw [sameId]
    exact tells.absent number others
  · obtain ⟨stored, isStored, _, atCurrent⟩ := recorded.version?_eq_some
    obtain ⟨version, isVersion, decoded⟩ := forwards stored isStored
    have agrees := recorded.agrees samePath sameSize sameType stored isStored atCurrent
    exact ⟨version, isVersion, agrees_of_revision agrees decoded isFile⟩
  · intro version isVersion
    obtain ⟨stored, isStored, decoded⟩ := backwards version isVersion
    exact ⟨stored, List.mem_of_mem_filter isStored, VersionRow.toRow_of_toRecord decoded⟩

end Tables

end ContentVault
