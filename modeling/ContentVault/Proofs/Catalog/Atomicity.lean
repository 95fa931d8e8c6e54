import ContentVault.Proofs.Catalog.Tagging
import ContentVault.Proofs.Catalog.Trash

/-!
# Units of work are atomic

* a unit of work that succeeds has applied all of its writes, which are stated on
  the tables before it;
* a unit of work that fails leaves the tables as they were, also if a statement
  fails that the tables would admit, after any number of earlier statements.
-/

namespace ContentVault

/-! ## Statements that fail by themselves -/

namespace Work

/-- The same work, parts of which fail although the tables admit them.  A part that
fails has no effect and ends the work. -/
inductive Disturbed : {α : Type} → Work α → Work α → Prop where
  | undisturbed {α : Type} (work : Work α) : Disturbed work work
  | fails {α : Type} (work : Work α) (failure : CatalogError) :
      Disturbed work (throw failure)
  | bind {α β : Type} {first disturbedFirst : Work α} {next disturbedNext : α → Work β} :
      Disturbed first disturbedFirst →
        (∀ value, Disturbed (next value) (disturbedNext value)) →
          Disturbed (first >>= next) (disturbedFirst >>= disturbedNext)

/-- Disturbed work that succeeds has met no failure. -/
theorem Disturbed.undisturbed_of_ok {α : Type} {work disturbed : Work α}
    (related : Disturbed work disturbed) {before after : Tables} {value : α}
    (succeeded : disturbed before = (.ok value, after)) :
    work before = (.ok value, after) := by
  induction related generalizing before after with
  | undisturbed work =>
      exact succeeded
  | fails work failure =>
      exact absurd succeeded throw_eq_ok.1
  | bind _ _ firstHypothesis nextHypothesis =>
      obtain ⟨middle, between, firstDone, nextDone⟩ := bind_eq_ok.1 succeeded
      exact bind_eq_ok.2
        ⟨middle, between, firstHypothesis firstDone, nextHypothesis middle nextDone⟩

end Work

/-- Either the outcome is a success with everything written, or it is an error and
the tables are as before. -/
def AllOrNothing {α : Type} (writes : Tables → α → Tables → Prop) (before : Tables) :
    Except CatalogError α × Tables → Prop
  | (.ok value, after) => writes before value after
  | (.error _, after) => after = before

/-- A unit of work that writes all or nothing, whichever of its statements fail. -/
structure AtomicUnit {α : Type} (unit : Tables → Except CatalogError α × Tables)
    (work : Work α) (writes : Tables → α → Tables → Prop) : Prop where
  answered : ∀ before, AllOrNothing writes before (unit before)
  disturbed :
    ∀ before disturbed, Work.Disturbed work disturbed →
      AllOrNothing writes before (disturbed.transaction before)

theorem AtomicUnit.of_ok {α : Type} {work : Work α} {writes : Tables → α → Tables → Prop}
    (written : ∀ {before value after}, work before = (.ok value, after) →
      writes before value after) :
    AtomicUnit work.transaction work writes := by
  have disturbed : ∀ before other, Work.Disturbed work other →
      AllOrNothing writes before (other.transaction before) := by
    intro before other related
    rcases outcome : other.transaction before with ⟨failure | value, after⟩
    · exact Work.transaction_of_error outcome
    · exact written (related.undisturbed_of_ok (Work.transaction_eq_ok.1 outcome))
  exact ⟨fun before => disturbed before work (.undisturbed work), disturbed⟩

/-! ## Moving several files to the trash -/

/-- An item that is kept need not be mentioned. -/
theorem firstMentions_filter_ne {α : Type} [DecidableEq α] {kept : List α} {item : α}
    (isKept : item ∈ kept) (items : List α) :
    firstMentions kept (items.filter fun other => decide (other ≠ item)) =
      firstMentions kept items := by
  induction items generalizing kept with
  | nil =>
      rfl
  | cons first rest inductionHypothesis =>
      by_cases same : first = item
      · rw [List.filter_cons_of_neg (by simpa using same), firstMentions, same, if_pos isKept,
          inductionHypothesis isKept]
      · rw [List.filter_cons_of_pos (by simpa using same), firstMentions, firstMentions]
        refine inductionHypothesis ?_
        split
        · exact isKept
        · exact List.mem_append_left _ isKept

namespace Tables

/-- Whether a file is live. -/
def isLive (tables : Tables) (fileId : String) : Bool := (tables.liveFile? fileId).isSome

/-- The tables after the live ones of some files have been moved to the trash. -/
def discarding (tables : Tables) (fileIds : List String) (trashedAt : Int64) : Tables :=
  { tables with
    files :=
      tables.files.map fun row =>
        if row.fileId ∈ fileIds ∧ row.trashedAt = none then
          { row with
            status := FileStatus.trashed.text
            trashedAt := some trashedAt
            updatedAt := trashedAt }
        else row }

variable {tables before after : Tables} {fileId : String} {trashedAt : Int64}

theorem trashFile_hits :
    (tables.trashFile fileId trashedAt).1 ≠ 0 ↔ tables.isLive fileId = true := by
  rw [trashFile, updateLive_count_ne_zero_iff, isLive, Option.isSome_iff_ne_none,
    liveFile?_ne_none_iff]
  simp only [and_true]

theorem trashFile_eq :
    (tables.trashFile fileId trashedAt).2 = tables.discarding [fileId] trashedAt := by
  simp [trashFile, updateLive, discarding]

theorem isLive_discarding {fileIds : List String} :
    (tables.discarding fileIds trashedAt).isLive fileId =
      (tables.isLive fileId && decide (fileId ∉ fileIds)) := by
  rw [Bool.eq_iff_iff, Bool.and_eq_true, decide_eq_true_eq]
  simp only [isLive, Option.isSome_iff_ne_none, liveFile?_ne_none_iff, discarding]
  constructor
  · rintro ⟨_, member, sameFile, notTrashed⟩
    obtain ⟨row, isRow, rfl⟩ := List.mem_map.1 member
    split at notTrashed
    · cases notTrashed
    · rename_i kept
      rw [if_neg kept] at sameFile
      exact ⟨⟨row, isRow, sameFile, notTrashed⟩,
        fun listed => kept ⟨sameFile ▸ listed, notTrashed⟩⟩
  · rintro ⟨⟨row, isRow, sameFile, notTrashed⟩, unlisted⟩
    refine ⟨row, List.mem_map.2 ⟨row, isRow, if_neg ?_⟩, sameFile, notTrashed⟩
    rintro ⟨listed, _⟩
    exact unlisted (sameFile ▸ listed)

theorem discarding_discarding {first second : List String} :
    (tables.discarding first trashedAt).discarding second trashedAt =
      tables.discarding (first ++ second) trashedAt := by
  unfold discarding
  rw [List.map_map]
  congr 1
  refine List.map_congr_left fun row _ => ?_
  rw [Function.comp_apply]
  by_cases live : row.trashedAt = none
  · by_cases listed : row.fileId ∈ first
    · simp [live, listed]
    · simp [live, listed]
  · simp [live]

/-- Moving files to the trash always succeeds, reports those that were live, each once, and
moves them. -/
theorem trashFiles_eq (trashedAt : Timestamp) (fileIds earlier : List String)
    (before : Tables) :
    Work.trashFiles trashedAt fileIds earlier before =
      (.ok (firstMentions earlier (fileIds.filter before.isLive)),
        before.discarding fileIds (encodeTime trashedAt)) := by
  induction fileIds generalizing before earlier with
  | nil =>
      rw [Work.trashFiles, Work.pure_eq_ok]
      refine ⟨rfl, ?_⟩
      simp [discarding]
  | cons fileId rest inductionHypothesis =>
      rw [Work.trashFiles, Work.bind_eq_ok]
      refine ⟨_, before.discarding [fileId] (encodeTime trashedAt),
        Work.counted_eq_ok.2 ⟨rfl, trashFile_eq⟩, ?_⟩
      rw [inductionHypothesis, discarding_discarding]
      have fewer :
          rest.filter (before.discarding [fileId] (encodeTime trashedAt)).isLive =
            (rest.filter before.isLive).filter fun other => decide (other ≠ fileId) := by
        rw [List.filter_filter]
        refine List.filter_congr fun other _ => ?_
        rw [isLive_discarding, Bool.and_comm]
        simp
      by_cases hits : (before.trashFile fileId (encodeTime trashedAt)).1 ≠ 0
      · have known : fileId ∈ if fileId ∈ earlier then earlier else earlier ++ [fileId] := by
          split
          · assumption
          · exact List.mem_append_right _ List.mem_cons_self
        have reported :
            (if (decide ((before.trashFile fileId (encodeTime trashedAt)).1 ≠ 0) &&
                !earlier.contains fileId) = true then earlier ++ [fileId] else earlier) =
              if fileId ∈ earlier then earlier else earlier ++ [fileId] := by
          by_cases isEarlier : fileId ∈ earlier
          · simp [isEarlier]
          · simp [isEarlier, hits]
        rw [List.filter_cons_of_pos (trashFile_hits.1 hits), firstMentions, fewer, reported,
          firstMentions_filter_ne known]
        rfl
      · have notLive : ¬ before.isLive fileId = true := fun live => hits (trashFile_hits.2 live)
        have same : (rest.filter before.isLive).filter (fun other => decide (other ≠ fileId)) =
            rest.filter before.isLive := by
          rw [List.filter_eq_self]
          intro other member
          refine decide_eq_true ?_
          rintro rfl
          exact notLive (List.mem_filter.1 member).2
        rw [List.filter_cons_of_neg notLive, fewer, same, decide_eq_false hits, Bool.false_and,
          if_neg Bool.false_ne_true]
        rfl
end Tables

/-! ## Changing the description -/

namespace Tables

variable {before after : Tables} {fileId : String}

/-- The tables after the given descriptive fields of a live file have been changed. -/
def describing (tables : Tables) (fileId : String) (details : FileDetails)
    (changedAt : Int64) : Tables :=
  { tables with
    files :=
      tables.files.map fun row =>
        if row.fileId = fileId ∧ row.trashedAt = none then
          { row with
            fileName := details.fileName.getD row.fileName
            fileType := details.fileType.getD row.fileType
            description := details.description.getD row.description
            updatedAt := changedAt }
        else row }

/-- The tables without the links of a file. -/
def unlinked (tables : Tables) (fileId : String) : Tables :=
  { tables with
    links := tables.links.map fun links => links.filter fun link => decide (link.fileId ≠ fileId) }

/-- What changing the description writes: nothing if the file is not live, else the given
fields and, if names are given, the links to the tags with these names and no others. -/
def Redescribed (fileId : String) (details : FileDetails) (tags : Option (List String))
    (changedAt : Timestamp) (before : Tables) (updated : Bool) (after : Tables) : Prop :=
  updated = before.isLive fileId ∧
    if updated then
      match tags with
      | none => after = before.describing fileId details (encodeTime changedAt)
      | some names =>
          before.links.isSome = true ∧
            ∃ found,
              Linked fileId names
                ((before.describing fileId details (encodeTime changedAt)).unlinked fileId)
                found after
    else
      after = before

theorem updateDescription_eq {details : FileDetails} {changedAt : Int64} :
    (before.updateDescription fileId details.fileName details.fileType details.description
        changedAt).2 =
      before.describing fileId details changedAt := by
  simp [updateDescription, updateLive, describing]

theorem updateDescription_hits {fileName fileType description : Option String}
    {changedAt : Int64} :
    (before.updateDescription fileId fileName fileType description changedAt).1 = 0 ↔
      before.isLive fileId = false := by
  rw [← not_iff_not, ← ne_eq, updateDescription, updateLive_count_ne_zero_iff,
    Bool.not_eq_false, isLive, Option.isSome_iff_ne_none, liveFile?_ne_none_iff]
  simp only [and_true]

/-- Where the file is not live, there is no row to change. -/
theorem describing_of_not_live {details : FileDetails} {changedAt : Int64}
    (notLive : before.isLive fileId = false) :
    before.describing fileId details changedAt = before := by
  have noRow : ∀ row ∈ before.files, ¬ (row.fileId = fileId ∧ row.trashedAt = none) := by
    intro row member live
    have found : before.liveFile? fileId ≠ none := liveFile?_ne_none_iff.2 ⟨row, member, live⟩
    rw [isLive, Option.isSome_eq_false_iff, Option.isNone_iff_eq_none] at notLive
    exact found notLive
  have sameRows :
      (before.describing fileId details changedAt).files = before.files := by
    refine (List.map_congr_left fun row member => if_neg (noRow row member)).trans ?_
    exact List.map_id before.files
  calc before.describing fileId details changedAt
    _ = { before with files := (before.describing fileId details changedAt).files } := rfl
    _ = before := by rw [sameRows]

theorem redescribed_of_updateDetails {details : FileDetails} {tags : Option (List String)}
    {changedAt : Timestamp} {updated : Bool}
    (done : Work.updateDetails fileId details tags changedAt before = (.ok updated, after)) :
    Redescribed fileId details tags changedAt before updated after := by
  obtain ⟨count, described, counted, onward⟩ := Work.bind_eq_ok.1 done
  obtain ⟨rfl, rfl⟩ := Work.counted_eq_ok.1 counted
  rw [updateDescription_eq] at onward
  split at onward
  · rename_i missed
    have notLive := updateDescription_hits.1 missed
    obtain ⟨rfl, rfl⟩ := Work.pure_eq_ok.1 onward
    exact ⟨notLive.symm, describing_of_not_live notLive⟩
  · rename_i hits
    have live : before.isLive fileId = true :=
      Bool.not_eq_false _ ▸ mt updateDescription_hits.2 hits
    cases tags with
    | none =>
        obtain ⟨rfl, rfl⟩ := Work.pure_eq_ok.1 onward
        exact ⟨live.symm, rfl⟩
    | some names =>
        simp only [Work.bind_eq_ok, Work.plain_eq_ok, Work.pure_eq_ok] at onward
        obtain ⟨_, cleared, clearing, _, _, linking, rfl, rfl⟩ := onward
        obtain ⟨links, present, isCleared⟩ := clearTags_eq_ok clearing
        obtain ⟨found, _, linked⟩ := linked_of_linkTags linking
        have isUnlinked :
            cleared =
              (before.describing fileId details (encodeTime changedAt)).unlinked fileId := by
          rw [isCleared, unlinked, present]
          rfl
        have linksPresent : before.links = some links := present
        refine ⟨live.symm, ?_, found, isUnlinked ▸ linked⟩
        rw [linksPresent]
        rfl

end Tables

/-! ## All units of work -/

namespace Tables

/-- What registering a file writes: the rows of the file and of its first version. -/
def Registered (file : FileRecord) (version : VersionRecord) (before : Tables) (_ : Unit)
    (after : Tables) : Prop :=
  ∃ fileRow versionRow,
    file.toRow = .ok fileRow ∧ version.toRow = .ok versionRow ∧
      after =
        { before with
          files := before.files ++ [fileRow]
          versions := before.versions ++ [versionRow] }

/-- What appending a version writes: its row, and a copy of it in the row of the live file,
whose current version was the expected one. -/
def Appended (version : VersionRecord) (expected : UInt32) (before : Tables) (_ : Unit)
    (after : Tables) : Prop :=
  ∃ row,
    version.toRow = .ok row ∧
      (∃ file ∈ before.files,
        file.fileId = row.fileId ∧ file.trashedAt = none ∧
          file.currentVersion = encodeNumber expected) ∧
      after =
        { before with
          files :=
            before.files.map fun file =>
              if file.fileId = row.fileId ∧ file.trashedAt = none ∧
                  file.currentVersion = encodeNumber expected then
                { file with
                  currentVersion := row.number
                  path := row.path
                  contentType := row.contentType
                  size := row.size
                  updatedAt := row.createdAt }
              else file
          versions := before.versions ++ [row] }

end Tables

/-- Every unit of work either applies all of its writes or leaves the tables as they were,
whatever the tables hold and whichever of its statements fails. -/
theorem units_of_work_are_atomic :
    (∀ file version,
      AtomicUnit (fun tables => tables.createFile file version)
        (Work.createFile file version) (Tables.Registered file version)) ∧
    (∀ fileId names,
      AtomicUnit (fun tables => tables.attachTags fileId names)
        (Work.linkTags fileId names [])
        fun before answer after =>
          ∃ tags,
            answer = firstMentions [] tags ∧ Tables.Linked fileId names before tags after) ∧
    (∀ version expected,
      AtomicUnit (fun tables => tables.appendVersion version expected)
        (Work.appendVersion version expected) (Tables.Appended version expected)) ∧
    (∀ fileId details tags changedAt,
      AtomicUnit (fun tables => tables.updateDetails fileId details tags changedAt)
        (Work.updateDetails fileId details tags changedAt)
        (Tables.Redescribed fileId details tags changedAt)) ∧
    (∀ fileIds trashedAt,
      AtomicUnit (fun tables => tables.trash fileIds trashedAt)
        (Work.trashFiles trashedAt fileIds [])
        fun before moved after =>
          moved = firstMentions [] (fileIds.filter before.isLive) ∧
            after = before.discarding fileIds (encodeTime trashedAt)) := by
  refine ⟨fun file version => AtomicUnit.of_ok ?_, fun fileId names => AtomicUnit.of_ok ?_,
    fun version expected => AtomicUnit.of_ok ?_,
    fun fileId details tags changedAt => AtomicUnit.of_ok ?_,
    fun fileIds trashedAt => AtomicUnit.of_ok ?_⟩
  · intro before _ after created
    obtain ⟨_, _, fileRow, versionRow, fileEncoded, versionEncoded, _, _, tables⟩ :=
      Tables.createFile_eq_ok.1 (Work.transaction_eq_ok.2 created)
    exact ⟨fileRow, versionRow, fileEncoded, versionEncoded, tables⟩
  · intro before answer after linked
    exact linked_of_linkTags linked
  · intro before _ after appended
    obtain ⟨_, row, encoded, current, _, tables⟩ :=
      Tables.appendVersion_eq_ok.1 (Work.transaction_eq_ok.2 appended)
    refine ⟨row, encoded, current, ?_⟩
    rw [tables, Tables.bumpVersion, Tables.updateLive]
    simp [and_assoc]
  · intro before updated after done
    exact Tables.redescribed_of_updateDetails done
  · intro before moved after done
    rw [Tables.trashFiles_eq] at done
    cases done
    exact ⟨rfl, rfl⟩

/-- The second tag cannot be created, when the old link is gone and the first tag linked. -/
example :
    let row : FileRow :=
      ⟨"f", "alice", "notes.md", "md", "text/markdown", 5, "p", 0, 0, 1, "", "active", none⟩
    let tables : Tables :=
      ⟨[row], [], [Tag.named "a", ⟨tagIdOf "c", "taken"⟩], some [⟨"f", tagIdOf "a"⟩]⟩
    let details : FileDetails := ⟨some "new.md", none, none⟩
    let now : Timestamp := ⟨0, 0, by decide, by decide⟩
    (Work.updateDetails "f" details (some ["b", "c"]) now tables).2.links =
        some [⟨"f", tagIdOf "b"⟩] ∧
      tables.updateDetails "f" details (some ["b", "c"]) now = (.error .database, tables) := by
  decide +kernel

end ContentVault
