import ContentVault.Catalog.Work
import ContentVault.Proofs.Catalog.Row
import Mathlib.Data.List.Nodup
import Mathlib.Order.Defs.Unbundled

/-!
# What units of work do

* a unit of work that fails leaves the tables as they were;
* registering a file and appending a version succeed exactly under stated guards,
  and then add exactly one version;
* a relation that every statement respects is respected by every unit of work.
-/

namespace ContentVault

/-! ## Running work -/

namespace Work

variable {α β : Type}

theorem bind_apply (first : Work α) (next : α → Work β) (before : Tables) :
    (first >>= next) before = ExceptT.bindCont next (first before).1 (first before).2 :=
  rfl

theorem bind_of_ok {first : Work α} {next : α → Work β} {before between : Tables} {value : α}
    (done : first before = (.ok value, between)) :
    (first >>= next) before = next value between := by
  rw [bind_apply, done]
  rfl

theorem bind_eq_ok
    {first : Work α} {next : α → Work β} {before after : Tables} {value : β} :
    (first >>= next) before = (.ok value, after) ↔
      ∃ middle between,
        first before = (.ok middle, between) ∧
          next middle between = (.ok value, after) := by
  rw [bind_apply]
  constructor
  · intro succeeded
    rcases outcome : first before with ⟨failure | middle, between⟩
    · rw [outcome] at succeeded
      cases succeeded
    · rw [outcome] at succeeded
      exact ⟨middle, between, rfl, succeeded⟩
  · rintro ⟨middle, between, outcome, succeeded⟩
    rw [outcome]
    exact succeeded

theorem pure_eq_ok {value result : α} {before after : Tables} :
    (pure value : Work α) before = (.ok result, after) ↔
      value = result ∧ before = after := by
  constructor
  · intro same
    cases same
    exact ⟨rfl, rfl⟩
  · rintro ⟨rfl, rfl⟩
    rfl

theorem throw_eq_ok
    {failure : CatalogError} {result : α} {before after : Tables} :
    (throw failure : Work α) before = (.ok result, after) ↔ False := by
  constructor
  · intro same
    cases same
  · exact False.elim

theorem query_eq_ok
    {read : Tables → Except CatalogError α} {result : α} {before after : Tables} :
    query read before = (.ok result, after) ↔
      read before = .ok result ∧ before = after :=
  Prod.ext_iff

theorem counted_eq_ok
    {change : Tables → Nat × Tables} {count : Nat} {before after : Tables} :
    counted change before = (.ok count, after) ↔
      (change before).1 = count ∧ (change before).2 = after := by
  unfold counted
  constructor
  · intro same
    cases same
    exact ⟨rfl, rfl⟩
  · rintro ⟨rfl, rfl⟩
    rfl

theorem statement_eq_ok
    {raise : StatementFailure → CatalogError}
    {change : Tables → Except StatementFailure Tables} {value : Unit}
    {before after : Tables} :
    statement raise change before = (.ok value, after) ↔ change before = .ok after := by
  unfold statement
  constructor
  · intro same
    split at same
    · cases same
      assumption
    · cases same
  · intro same
    rw [same]

theorem plain_eq_ok
    {change : Tables → Except StatementFailure Tables} {value : Unit}
    {before after : Tables} :
    plain change before = (.ok value, after) ↔ change before = .ok after :=
  statement_eq_ok

theorem transaction_eq_ok
    {work : Work α} {value : α} {before after : Tables} :
    work.transaction before = (.ok value, after) ↔ work before = (.ok value, after) := by
  unfold transaction
  rcases work before with ⟨failure | result, changed⟩
  · constructor <;> intro same <;> cases same
  · exact Iff.rfl

/-- A unit of work that fails leaves the tables as they were. -/
theorem transaction_of_error
    {work : Work α} {failure : CatalogError} {before after : Tables}
    (failed : work.transaction before = (.error failure, after)) :
    after = before := by
  unfold transaction at failed
  rcases outcome : work before with ⟨reason | result, changed⟩
  · rw [outcome] at failed
    cases failed
    rfl
  · rw [outcome] at failed
    cases failed

end Work

/-! ## Relations that work respects -/

namespace Work

variable {α β : Type} {relation : Tables → Tables → Prop}

/-- Whatever the work answers, the tables before and after it are related. -/
def Within (relation : Tables → Tables → Prop) (work : Work α) : Prop :=
  ∀ before, relation before (work before).2

namespace Within

theorem related {work : Work α} {outcome : Except CatalogError α} {before after : Tables}
    (within : Within relation work) (done : work before = (outcome, after)) :
    relation before after := by
  have step := within before
  rw [done] at step
  exact step

theorem counted
    {change : Tables → Nat × Tables}
    (respected : ∀ before, relation before (change before).2) :
    Within relation (Work.counted change) :=
  respected

variable [IsPreorder Tables relation]

theorem pure (value : α) : Within relation (Pure.pure value : Work α) :=
  fun before => refl_of relation before

theorem query (read : Tables → Except CatalogError α) : Within relation (Work.query read) :=
  fun before => refl_of relation before

theorem plain
    {change : Tables → Except StatementFailure Tables}
    (respected : ∀ before after, change before = .ok after → relation before after) :
    Within relation (Work.plain change) := by
  intro before
  unfold Work.plain Work.statement
  split
  · rename_i changed outcome
    exact respected before changed outcome
  · exact refl_of relation before

theorem bind
    {first : Work α} {next : α → Work β}
    (firstWithin : Within relation first)
    (nextWithin : ∀ value, Within relation (next value)) :
    Within relation (first >>= next) := by
  intro before
  have firstStep := firstWithin before
  rw [bind_apply]
  rcases outcome : first before with ⟨failure | value, between⟩
  · rw [outcome] at firstStep
    exact firstStep
  · rw [outcome] at firstStep
    exact trans_of relation firstStep (nextWithin value between)

theorem transaction {work : Work α} (within : Within relation work) :
    Within relation work.transaction := by
  intro before
  have step := within before
  unfold Work.transaction
  rcases outcome : work before with ⟨failure | value, after⟩
  · exact refl_of relation before
  · rw [outcome] at step
    exact step

theorem committed
    {work : Work α} {outcome : Except CatalogError α} {before after : Tables}
    (within : Within relation work) (done : work.transaction before = (outcome, after)) :
    relation before after :=
  within.transaction.related done

end Within

/-- A relation that the statements respect which tag a file. -/
structure AllowsTagging (relation : Tables → Tables → Prop) (fileId : String) : Prop where
  insert : ∀ tables tag, relation tables (tables.insertTag tag)
  attach : ∀ {tables after : Tables} {tagId : String},
    tables.attachTag fileId tagId = .ok after → relation tables after
  clear : ∀ {tables after : Tables}, tables.clearTags fileId = .ok after → relation tables after

section Tagging

variable [IsPreorder Tables relation] {fileId : String}

theorem within_linkTag (allows : AllowsTagging relation fileId) (name : String) :
    Within relation (linkTag fileId name) := by
  refine Within.bind (Within.plain ?_) fun _ => ?_
  · rintro before _ ⟨⟩
    exact allows.insert before (Tag.named name)
  · exact Within.bind (Within.query _) fun tag =>
      Within.bind (Within.plain fun _ _ => allows.attach) fun _ => Within.pure _

theorem within_linkTags (allows : AllowsTagging relation fileId) (names : List String)
    (linked : List Tag) :
    Within relation (linkTags fileId names linked) := by
  induction names generalizing linked with
  | nil =>
      exact Within.pure _
  | cons name rest inductionHypothesis =>
      exact Within.bind (within_linkTag allows name) fun tag => inductionHypothesis _

theorem within_updateDetails {details : FileDetails} {changedAt : Timestamp}
    (allows : AllowsTagging relation fileId)
    (describe : ∀ tables : Tables,
      relation tables
        (tables.updateDescription fileId details.fileName details.fileType
          details.description (encodeTime changedAt)).2)
    (tags : Option (List String)) :
    Within relation (updateDetails fileId details tags changedAt) := by
  refine Within.bind (Within.counted describe) fun updated => ?_
  split
  · exact Within.pure _
  cases tags with
  | none =>
      exact Within.pure _
  | some names =>
      exact Within.bind (Within.plain fun _ _ => allows.clear) fun _ =>
        Within.bind (within_linkTags allows names []) fun _ => Within.pure _

theorem within_trashFiles {trashedAt : Timestamp}
    (trash : ∀ fileId (tables : Tables),
      relation tables (tables.trashFile fileId (encodeTime trashedAt)).2)
    (fileIds trashed : List String) :
    Within relation (trashFiles trashedAt fileIds trashed) := by
  induction fileIds generalizing trashed with
  | nil =>
      exact Within.pure _
  | cons fileId rest inductionHypothesis =>
      exact Within.bind (Within.counted (trash fileId)) fun hit => inductionHypothesis _

end Tagging

end Work

/-! ## Single statements -/

namespace Tables

theorem hasFile_eq_true_iff {tables : Tables} {fileId : String} :
    tables.hasFile fileId = true ↔ ∃ row ∈ tables.files, row.fileId = fileId := by
  simp [hasFile]

theorem hasFile_eq_false_iff {tables : Tables} {fileId : String} :
    tables.hasFile fileId = false ↔ ∀ row ∈ tables.files, row.fileId ≠ fileId := by
  simp [hasFile]

theorem file?_eq_none_iff {tables : Tables} {fileId : String} :
    tables.file? fileId = none ↔ tables.hasFile fileId = false := by
  simp [file?, hasFile]

theorem mem_of_file?_eq_some {tables : Tables} {fileId : String} {row : FileRow}
    (found : tables.file? fileId = some row) :
    row ∈ tables.files ∧ row.fileId = fileId := by
  rw [file?] at found
  exact ⟨List.mem_of_find?_eq_some found, of_decide_eq_true (List.find?_some found :)⟩

/-- A file is looked up by its identifier and read from its row. -/
theorem fileRecord_eq_some {tables : Tables} {fileId : String} {file : FileRecord} :
    tables.fileRecord fileId = .ok (some file) ↔
      ∃ row, tables.file? fileId = some row ∧ row.toRecord = .ok file := by
  simp [fileRecord, option_mapM_eq_ok]

theorem fileRecord_eq_none {tables : Tables} {fileId : String} :
    tables.fileRecord fileId = .ok none ↔ tables.hasFile fileId = false := by
  simp [fileRecord, option_mapM_eq_ok, file?_eq_none_iff]

theorem getFile_eq_some {tables : Tables} {fileId : String} {file : FileRecord} :
    tables.getFile fileId = .ok (some file) ↔
      ∃ row, tables.liveFile? fileId = some row ∧ row.toRecord = .ok file := by
  simp [getFile, option_mapM_eq_ok]

theorem getVersion_eq_some
    {tables : Tables} {fileId : String} {number : UInt32} {version : VersionRecord} :
    tables.getVersion fileId number = .ok (some version) ↔
      ∃ row, tables.version? fileId (encodeNumber number) = some row ∧
        row.toRecord = .ok version := by
  simp [getVersion, option_mapM_eq_ok]

theorem mem_of_liveFile?_eq_some {tables : Tables} {fileId : String} {row : FileRow}
    (found : tables.liveFile? fileId = some row) :
    row ∈ tables.files ∧ row.fileId = fileId ∧ row.trashedAt = none := by
  rw [liveFile?] at found
  have satisfies := List.find?_some found
  rw [Bool.and_eq_true, decide_eq_true_eq, Option.isNone_iff_eq_none] at satisfies
  exact ⟨List.mem_of_find?_eq_some found, satisfies⟩

theorem liveFile?_ne_none_iff {tables : Tables} {fileId : String} :
    tables.liveFile? fileId ≠ none ↔
      ∃ row ∈ tables.files, row.fileId = fileId ∧ row.trashedAt = none := by
  simp [liveFile?]

/-- Where identifiers are unique, a file is live if its row is. -/
theorem liveFile?_eq_some_iff {tables : Tables} {fileId : String} {row : FileRow}
    (keyed : (tables.files.map FileRow.fileId).Nodup) :
    tables.liveFile? fileId = some row ↔
      row ∈ tables.files ∧ row.fileId = fileId ∧ row.trashedAt = none := by
  refine ⟨mem_of_liveFile?_eq_some, ?_⟩
  rintro ⟨member, sameFile, notTrashed⟩
  have found : (tables.liveFile? fileId).isSome = true := by
    refine List.find?_isSome.2 ⟨row, member, ?_⟩
    simp [sameFile, notTrashed]
  obtain ⟨first, isFirst⟩ := Option.isSome_iff_exists.1 found
  obtain ⟨firstMember, firstFile, _⟩ := mem_of_liveFile?_eq_some isFirst
  rw [isFirst, List.inj_on_of_nodup_map keyed firstMember member (firstFile.trans sameFile.symm)]

theorem mem_of_version?_eq_some
    {tables : Tables} {fileId : String} {number : Int64} {row : VersionRow}
    (found : tables.version? fileId number = some row) :
    row ∈ tables.versions ∧ row.fileId = fileId ∧ row.number = number := by
  rw [version?] at found
  have satisfies := List.find?_some found
  rw [Bool.and_eq_true, decide_eq_true_eq, decide_eq_true_eq] at satisfies
  exact ⟨List.mem_of_find?_eq_some found, satisfies⟩

/-- No version has the identifier of a row, or its number within the same file. -/
def FreshVersion (tables : Tables) (row : VersionRow) : Prop :=
  ∀ other ∈ tables.versions,
    other.versionId ≠ row.versionId ∧
      ¬ (other.fileId = row.fileId ∧ other.number = row.number)

theorem insertFile_eq_ok {tables after : Tables} {row : FileRow} :
    tables.insertFile row = .ok after ↔
      tables.hasFile row.fileId = false ∧
        after = { tables with files := tables.files ++ [row] } := by
  unfold insertFile
  split
  · rename_i taken
    simp [taken]
  · rename_i free
    simp only [Except.ok.injEq, Bool.not_eq_true] at free ⊢
    exact ⟨fun same => ⟨free, same.symm⟩, fun same => same.2.symm⟩

instance (tables : Tables) (row : VersionRow) : Decidable (tables.FreshVersion row) :=
  inferInstanceAs (Decidable (∀ other ∈ tables.versions, _))

theorem insertVersion_eq (tables : Tables) (row : VersionRow) :
    tables.insertVersion row =
      if tables.FreshVersion row then
        if tables.hasFile row.fileId then
          .ok { tables with versions := tables.versions ++ [row] }
        else
          .error .other
      else
        .error .uniqueViolation := by
  have fresh_iff :
      tables.FreshVersion row ↔
        ¬ (tables.versions.any fun other =>
          other.versionId = row.versionId ||
            (other.fileId = row.fileId && other.number = row.number)) = true := by
    simp [FreshVersion]
  rw [insertVersion]
  by_cases fresh : tables.FreshVersion row
  · rw [if_pos fresh, if_neg (fresh_iff.1 fresh)]
  · rw [if_neg fresh, if_pos (Decidable.not_not.1 (mt fresh_iff.2 fresh))]

theorem insertVersion_eq_ok {tables after : Tables} {row : VersionRow} :
    tables.insertVersion row = .ok after ↔
      tables.FreshVersion row ∧ tables.hasFile row.fileId = true ∧
        after = { tables with versions := tables.versions ++ [row] } := by
  rw [insertVersion_eq]
  split
  · rename_i fresh
    split
    · rename_i known
      simp only [Except.ok.injEq]
      exact ⟨fun same => ⟨fresh, known, same.symm⟩, fun same => same.2.2.symm⟩
    · rename_i unknown
      simp [unknown]
  · rename_i taken
    simp [taken]

theorem insertTag_eq (tables : Tables) (tag : Tag) :
    ∃ tags, tables.insertTag tag = { tables with tags } := by
  unfold insertTag
  split
  · exact ⟨tables.tags, rfl⟩
  · exact ⟨tables.tags ++ [tag], rfl⟩

theorem attachTag_eq_ok {before after : Tables} {fileId tagId : String}
    (attached : before.attachTag fileId tagId = .ok after) :
    ∃ links,
      before.links = some links ∧
        after =
          { before with
            links :=
              some (links ++ if ⟨fileId, tagId⟩ ∈ links then [] else [⟨fileId, tagId⟩]) } := by
  unfold attachTag requireLinks at attached
  rcases present : before.links with _ | links
  · rw [present] at attached
    cases attached
  · rw [present] at attached
    refine ⟨links, rfl, ?_⟩
    change (if links.contains ⟨fileId, tagId⟩ = true then _ else _) = _ at attached
    by_cases known : ⟨fileId, tagId⟩ ∈ links
    · rw [if_pos (List.contains_iff_mem.2 known)] at attached
      cases attached
      rw [if_pos known, List.append_nil, ← present]
    · rw [if_neg (by simpa using known)] at attached
      split at attached
      · cases attached
        rw [if_neg known]
      · cases attached

theorem clearTags_eq_ok {tables after : Tables} {fileId : String}
    (cleared : tables.clearTags fileId = .ok after) :
    ∃ links,
      tables.links = some links ∧
        after =
          { tables with
            links := some (links.filter fun link => decide (link.fileId ≠ fileId)) } := by
  unfold clearTags requireLinks at cleared
  rcases present : tables.links with _ | links
  · rw [present] at cleared
    cases cleared
  · rw [present] at cleared
    cases cleared
    exact ⟨links, rfl, rfl⟩

section UpdateLive

variable {tables : Tables} {fileId : String} {condition : FileRow → Bool}
  {change : FileRow → FileRow}

theorem updateLive_files :
    (tables.updateLive fileId condition change).2.files =
      tables.files.map fun row =>
        if row.fileId = fileId ∧ row.trashedAt = none ∧ condition row = true then change row
        else row := by
  simp [updateLive, and_assoc]

theorem mem_updateLive {row : FileRow} :
    row ∈ (tables.updateLive fileId condition change).2.files ↔
      ∃ old ∈ tables.files,
        (if old.fileId = fileId ∧ old.trashedAt = none ∧ condition old = true then
          change old else old) = row := by
  rw [updateLive_files, List.mem_map]

theorem updateLive_count_ne_zero_iff :
    (tables.updateLive fileId condition change).1 ≠ 0 ↔
      ∃ row ∈ tables.files,
        row.fileId = fileId ∧ row.trashedAt = none ∧ condition row = true := by
  simp [updateLive, List.countP_eq_zero, and_assoc]

/-- What a change of live files keeps of each file, it keeps of the whole table. -/
theorem map_updateLive {β : Type} {observe : FileRow → β}
    (kept : ∀ row, observe (change row) = observe row) :
    (tables.updateLive fileId condition change).2.files.map observe =
      tables.files.map observe := by
  simp only [updateLive, List.map_map]
  apply List.map_congr_left
  intro row _
  simp only [Function.comp_apply]
  split
  · exact kept row
  · rfl

end UpdateLive

theorem hasFile_of_map_fileId {first second : Tables}
    (same : first.files.map FileRow.fileId = second.files.map FileRow.fileId)
    (fileId : String) :
    first.hasFile fileId = second.hasFile fileId := by
  have counted : ∀ tables : Tables,
      tables.hasFile fileId = (tables.files.map FileRow.fileId).any (· = fileId) := by
    intro tables
    simp [hasFile, Function.comp_def]
  rw [counted, counted, same]

/-! ## Registering and appending -/

theorem bumpVersion_fileIds (tables : Tables) (row : VersionRow) (expected : Int64) :
    (tables.bumpVersion row expected).2.files.map FileRow.fileId =
      tables.files.map FileRow.fileId :=
  map_updateLive fun _ => rfl

theorem bumpVersion_count_ne_zero_iff
    {tables : Tables} {row : VersionRow} {expected : Int64} :
    (tables.bumpVersion row expected).1 ≠ 0 ↔
      ∃ file ∈ tables.files,
        file.fileId = row.fileId ∧ file.trashedAt = none ∧
          file.currentVersion = expected := by
  rw [bumpVersion, updateLive_count_ne_zero_iff]
  simp only [decide_eq_true_eq]

/-- Registering a file succeeds exactly if it and its version belong together, fit
into rows and are new, and adds the two rows. -/
theorem createFile_eq_ok {tables after : Tables} {file : FileRecord} {version : VersionRecord} :
    tables.createFile file version = (.ok (), after) ↔
      version.fileId = file.fileId ∧ version.number = file.currentVersion ∧
        ∃ fileRow versionRow,
          file.toRow = .ok fileRow ∧ version.toRow = .ok versionRow ∧
            tables.hasFile fileRow.fileId = false ∧ tables.FreshVersion versionRow ∧
              after =
                { tables with
                  files := tables.files ++ [fileRow]
                  versions := tables.versions ++ [versionRow] } := by
  rw [createFile, Work.transaction_eq_ok, Work.createFile]
  split
  · rename_i mismatched
    simp only [Work.bind_eq_ok, Work.throw_eq_ok, false_and, exists_false, false_iff]
    rintro ⟨sameFile, sameNumber, _⟩
    exact mismatched.elim (absurd sameFile) (absurd sameNumber)
  · rename_i matched
    simp only [ne_eq, not_or, Classical.not_not] at matched
    simp only [Work.bind_eq_ok, Work.query_eq_ok, Work.statement_eq_ok, Work.plain_eq_ok,
      insertFile_eq_ok, insertVersion_eq_ok]
    constructor
    · rintro ⟨fileRow, _, ⟨fileEncoded, rfl⟩, versionRow, _, ⟨versionEncoded, rfl⟩, _, _,
        ⟨free, rfl⟩, fresh, _, rfl⟩
      exact ⟨matched.1, matched.2, fileRow, versionRow, fileEncoded, versionEncoded, free,
        fresh, rfl⟩
    · rintro ⟨_, _, fileRow, versionRow, fileEncoded, versionEncoded, free, fresh, rfl⟩
      have sameFile : fileRow.fileId = versionRow.fileId := by
        obtain ⟨_, rfl⟩ := FileRecord.toRow_eq_ok.1 fileEncoded
        obtain ⟨_, rfl⟩ := VersionRecord.toRow_eq_ok.1 versionEncoded
        exact matched.1.symm
      refine ⟨fileRow, _, ⟨fileEncoded, rfl⟩, versionRow, _, ⟨versionEncoded, rfl⟩, (), _,
        ⟨free, rfl⟩, fresh, ?_, rfl⟩
      exact hasFile_eq_true_iff.2 ⟨fileRow, by simp, sameFile⟩

/-- Appending a version succeeds exactly if its number follows the expected one,
which is the current one of a live file, and its row is new. -/
theorem appendVersion_eq_ok
    {tables after : Tables} {version : VersionRecord} {expected : UInt32} :
    tables.appendVersion version expected = (.ok (), after) ↔
      expected.toNat + 1 = version.number.toNat ∧
        ∃ row,
          version.toRow = .ok row ∧
            (∃ file ∈ tables.files,
              file.fileId = row.fileId ∧ file.trashedAt = none ∧
                file.currentVersion = encodeNumber expected) ∧
              tables.FreshVersion row ∧
                after =
                  { (tables.bumpVersion row (encodeNumber expected)).2 with
                    versions := tables.versions ++ [row] } := by
  rw [appendVersion, Work.transaction_eq_ok, Work.appendVersion]
  split
  · rename_i misplaced
    simp [Work.throw_eq_ok, misplaced]
  · rename_i follows
    rw [ne_eq, Classical.not_not] at follows
    simp only [Work.bind_eq_ok, Work.query_eq_ok, Work.counted_eq_ok]
    constructor
    · rintro ⟨row, _, ⟨encoded, rfl⟩, _, _, ⟨rfl, rfl⟩, committed⟩
      split at committed
      · cases committed
      · rename_i found
        rw [Work.statement_eq_ok, insertVersion_eq_ok] at committed
        obtain ⟨fresh, _, rfl⟩ := committed
        exact ⟨follows, row, encoded, bumpVersion_count_ne_zero_iff.1 found, fresh, rfl⟩
    · rintro ⟨_, row, encoded, current, fresh, rfl⟩
      refine ⟨row, _, ⟨encoded, rfl⟩, (tables.bumpVersion row (encodeNumber expected)).1,
        (tables.bumpVersion row (encodeNumber expected)).2, ⟨rfl, rfl⟩, ?_⟩
      rw [if_neg (bumpVersion_count_ne_zero_iff.2 current), Work.statement_eq_ok,
        insertVersion_eq_ok]
      refine ⟨fresh, ?_, rfl⟩
      rw [hasFile_of_map_fileId (bumpVersion_fileIds _ row _)]
      obtain ⟨file, member, sameFile, _⟩ := current
      exact hasFile_eq_true_iff.2 ⟨file, member, sameFile⟩

end Tables

end ContentVault
