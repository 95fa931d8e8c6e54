import ContentVault.Proofs.Catalog.Work

/-!
# Changes of a catalog

A run is any sequence of units of work, some of which fail.

* describing, tagging and trashing files leaves all versions alone;
* a change that fails has no effect, and one that succeeds has one of three;
* versions are only ever added, and the current version of a file never goes back.
-/

namespace ContentVault

/-! ## What a file and its current version share -/

/-- The part of a file that its current version determines. -/
structure Revision where
  fileId : String
  number : Int64
  path : String
  contentType : String
  size : Int64
  deriving DecidableEq

/-- A file as its current version should describe it. -/
def FileRow.revision (row : FileRow) : Revision :=
  ⟨row.fileId, row.currentVersion, row.path, row.contentType, row.size⟩

/-- A version as its file should describe it while it is the current one. -/
def VersionRow.revision (row : VersionRow) : Revision :=
  ⟨row.fileId, row.number, row.path, row.contentType, row.size⟩

/-- The versions of a file in the order in which they were added. -/
def Tables.historyOf (tables : Tables) (fileId : String) : List VersionRow :=
  tables.versions.filter fun row => row.fileId = fileId

theorem Tables.historyOf_of_added {before after : Tables} {row : VersionRow}
    (added : after.versions = before.versions ++ [row]) :
    after.historyOf row.fileId = before.historyOf row.fileId ++ [row] := by
  simp [historyOf, added]

theorem Tables.historyOf_of_other {before after : Tables} {row : VersionRow} {fileId : String}
    (added : after.versions = before.versions ++ [row]) (other : row.fileId ≠ fileId) :
    after.historyOf fileId = before.historyOf fileId := by
  simp [historyOf, added, other]

/-- No version was added or changed, and no file refers to another version. -/
def Tables.SameHistory (before after : Tables) : Prop :=
  after.versions = before.versions ∧
    after.files.map FileRow.revision = before.files.map FileRow.revision

namespace Tables.SameHistory

theorem refl (tables : Tables) : tables.SameHistory tables :=
  ⟨rfl, rfl⟩

theorem trans {first second third : Tables}
    (left : first.SameHistory second) (right : second.SameHistory third) :
    first.SameHistory third :=
  ⟨right.1.trans left.1, right.2.trans left.2⟩

instance : IsPreorder Tables SameHistory where
  refl := refl
  trans := fun _ _ _ => trans

theorem fileIds_eq {before after : Tables} (same : before.SameHistory after) :
    after.files.map FileRow.fileId = before.files.map FileRow.fileId := by
  have fromRevisions : ∀ files : List FileRow,
      files.map FileRow.fileId = (files.map FileRow.revision).map Revision.fileId := by
    intro files
    rw [List.map_map]
    rfl
  rw [fromRevisions, fromRevisions, same.2]

theorem exists_before {before after : Tables} (same : before.SameHistory after)
    {row : FileRow} (member : row ∈ after.files) :
    ∃ old ∈ before.files, old.revision = row.revision := by
  have found : row.revision ∈ before.files.map FileRow.revision := by
    rw [← same.2]
    exact List.mem_map_of_mem member
  exact List.mem_map.1 found

end Tables.SameHistory

/-! ## Units of work that leave the history alone -/

namespace Work

open Tables

/-- Work that respects the history of every file. -/
abbrev KeepsHistory {α : Type} (work : Work α) : Prop :=
  Within Tables.SameHistory work

theorem keepsHistory_updateLive
    {fileId : String} {condition : FileRow → Bool} {change : FileRow → FileRow}
    (kept : ∀ row, (change row).revision = row.revision) (before : Tables) :
    before.SameHistory (before.updateLive fileId condition change).2 :=
  ⟨rfl, map_updateLive kept⟩

theorem keepsHistory_allowsTagging (fileId : String) :
    AllowsTagging Tables.SameHistory fileId where
  insert := by
    intro tables tag
    obtain ⟨tags, inserted⟩ := insertTag_eq tables tag
    rw [inserted]
    exact ⟨rfl, rfl⟩
  attach := by
    intro tables after tagId attached
    obtain ⟨_, _, rfl⟩ := attachTag_eq_ok attached
    exact ⟨rfl, rfl⟩
  clear := by
    intro tables after cleared
    obtain ⟨_, _, rfl⟩ := clearTags_eq_ok cleared
    exact ⟨rfl, rfl⟩

theorem keepsHistory_linkTags (fileId : String) (names : List String) (linked : List Tag) :
    KeepsHistory (linkTags fileId names linked) :=
  within_linkTags (keepsHistory_allowsTagging fileId) names linked

theorem keepsHistory_updateDetails
    (fileId : String) (details : FileDetails) (tags : Option (List String))
    (changedAt : Timestamp) :
    KeepsHistory (updateDetails fileId details tags changedAt) :=
  within_updateDetails (keepsHistory_allowsTagging fileId)
    (keepsHistory_updateLive fun _ => rfl) tags

theorem keepsHistory_trashFiles
    (trashedAt : Timestamp) (fileIds trashed : List String) :
    KeepsHistory (trashFiles trashedAt fileIds trashed) :=
  within_trashFiles (fun _ => keepsHistory_updateLive fun _ => rfl) fileIds trashed

end Work

/-! ## Runs of changes -/

/-- A unit of work that changes the catalog. -/
inductive CatalogChange where
  | createFile (file : FileRecord) (version : VersionRecord)
  | appendVersion (version : VersionRecord) (expected : UInt32)
  | updateDetails (fileId : String) (details : FileDetails)
      (tags : Option (List String)) (changedAt : Timestamp)
  | trash (fileIds : List String) (trashedAt : Timestamp)
  | attachTags (fileId : String) (names : List String)

namespace CatalogChange

/-- Whether work succeeded, and the tables after it. -/
def settle {α : Type} (outcome : Except CatalogError α × Tables) :
    Except CatalogError Unit × Tables :=
  (outcome.1.map fun _ => (), outcome.2)

/-- Carry out a change.  The answer is only whether it succeeded. -/
def perform : CatalogChange → Tables → Except CatalogError Unit × Tables
  | createFile file version, tables => tables.createFile file version
  | appendVersion version expected, tables => tables.appendVersion version expected
  | updateDetails fileId details tags changedAt, tables =>
      settle (tables.updateDetails fileId details tags changedAt)
  | trash fileIds trashedAt, tables => settle (tables.trash fileIds trashedAt)
  | attachTags fileId names, tables => settle (tables.attachTags fileId names)

/-- Whether a change registers a file. -/
def creates (fileId : String) : CatalogChange → Bool
  | createFile file _ => file.fileId = fileId
  | _ => false

/-- Whether a change appends a version to a file and expects a given current one. -/
def appends (fileId : String) (expected : UInt32) : CatalogChange → Bool
  | appendVersion version read => version.fileId = fileId && read = expected
  | _ => false

/-- Carry out changes one after another, whether or not they succeed.  The answer
lists those that did. -/
def run : List CatalogChange → Tables → List CatalogChange × Tables
  | [], tables => ([], tables)
  | change :: rest, tables =>
      match change.perform tables with
      | (.ok (), changed) =>
          let (accepted, after) := run rest changed
          (change :: accepted, after)
      | (.error _, changed) => run rest changed

/-- What a change that succeeds does to the history. -/
inductive Effect (before : Tables) : CatalogChange → Tables → Prop
  | kept {change : CatalogChange} {after : Tables}
      (same : before.SameHistory after)
      (createsNothing : ∀ fileId, change.creates fileId = false)
      (appendsNothing : ∀ fileId expected, change.appends fileId expected = false) :
      Effect before change after
  | created {file : FileRecord} {version : VersionRecord}
      {fileRow : FileRow} {versionRow : VersionRow}
      (sameFile : version.fileId = file.fileId)
      (sameNumber : version.number = file.currentVersion)
      (fileEncoded : file.toRow = .ok fileRow)
      (versionEncoded : version.toRow = .ok versionRow)
      (new : before.hasFile file.fileId = false) :
      Effect before (createFile file version)
        { before with
          files := before.files ++ [fileRow]
          versions := before.versions ++ [versionRow] }
  | appended {version : VersionRecord} {expected : UInt32}
      {file : FileRow} {row : VersionRow}
      (follows : expected.toNat + 1 = version.number.toNat)
      (encoded : version.toRow = .ok row)
      (member : file ∈ before.files)
      (sameFile : file.fileId = version.fileId)
      (live : file.trashedAt = none)
      (current : file.currentVersion = encodeNumber expected) :
      Effect before (appendVersion version expected)
        { (before.bumpVersion row (encodeNumber expected)).2 with
          versions := before.versions ++ [row] }

section Settle

variable {α : Type} {work : Work α} {before after : Tables}

theorem sameHistory_of_settle (keeps : work.KeepsHistory)
    {answer : Except CatalogError Unit}
    (performed : settle (work.transaction before) = (answer, after)) :
    before.SameHistory after := by
  cases performed
  exact keeps.transaction before

theorem settle_of_error {failure : CatalogError}
    (performed : settle (work.transaction before) = (.error failure, after)) :
    after = before := by
  rcases outcome : work.transaction before with ⟨reason | value, changed⟩
  · rw [outcome] at performed
    cases performed
    exact Work.transaction_of_error outcome
  · rw [outcome] at performed
    cases performed

end Settle

/-- A change that succeeds has one of the three effects. -/
theorem effect_of_perform {change : CatalogChange} {before after : Tables}
    (performed : change.perform before = (.ok (), after)) :
    Effect before change after := by
  cases change with
  | createFile file version =>
      obtain ⟨sameFile, sameNumber, fileRow, versionRow, fileEncoded, versionEncoded, new, _,
        rfl⟩ := Tables.createFile_eq_ok.1 performed
      refine Effect.created sameFile sameNumber fileEncoded versionEncoded ?_
      obtain ⟨_, rfl⟩ := FileRecord.toRow_eq_ok.1 fileEncoded
      exact new
  | appendVersion version expected =>
      obtain ⟨follows, row, encoded, ⟨file, member, sameFile, live, current⟩, _, rfl⟩ :=
        Tables.appendVersion_eq_ok.1 performed
      refine Effect.appended follows encoded member ?_ live current
      obtain ⟨_, rfl⟩ := VersionRecord.toRow_eq_ok.1 encoded
      exact sameFile
  | updateDetails fileId details tags changedAt =>
      refine Effect.kept ?_ (fun _ => rfl) fun _ _ => rfl
      exact sameHistory_of_settle (Work.keepsHistory_updateDetails fileId details tags changedAt)
        performed
  | trash fileIds trashedAt =>
      refine Effect.kept ?_ (fun _ => rfl) fun _ _ => rfl
      exact sameHistory_of_settle (Work.keepsHistory_trashFiles trashedAt fileIds [])
        performed
  | attachTags fileId names =>
      refine Effect.kept ?_ (fun _ => rfl) fun _ _ => rfl
      exact sameHistory_of_settle (Work.keepsHistory_linkTags fileId names [])
        performed

/-- A change that fails has no effect. -/
theorem perform_of_error {change : CatalogChange} {failure : CatalogError}
    {before after : Tables} (performed : change.perform before = (.error failure, after)) :
    after = before := by
  cases change with
  | createFile file version =>
      exact Work.transaction_of_error performed
  | appendVersion version expected =>
      exact Work.transaction_of_error performed
  | updateDetails fileId details tags changedAt =>
      exact settle_of_error performed
  | trash fileIds trashedAt =>
      exact settle_of_error performed
  | attachTags fileId names =>
      exact settle_of_error performed

/-- What every change that succeeds keeps, a run keeps. -/
theorem run_keeps (holds : Tables → Prop) {changes : List CatalogChange} {tables : Tables}
    (step : ∀ change ∈ changes, ∀ before after, change.perform before = (.ok (), after) →
      holds before → holds after)
    (start : holds tables) :
    holds (run changes tables).2 := by
  induction changes generalizing tables with
  | nil =>
      exact start
  | cons change rest inductionHypothesis =>
      have stepRest := fun other member => step other (List.mem_cons_of_mem change member)
      rw [run]
      rcases outcome : change.perform tables with ⟨failure | _, changed⟩
      · rw [perform_of_error outcome]
        exact inductionHypothesis stepRest start
      · exact inductionHypothesis stepRest
          (step change List.mem_cons_self tables changed outcome start)

end CatalogChange

/-! ## Versions are only added -/

/-- Versions were only added, and no file was lost or went back to an earlier
version. -/
structure Tables.Extends (before after : Tables) : Prop where
  versions : before.versions <+: after.versions
  files : ∀ row ∈ before.files, ∃ later ∈ after.files,
    later.fileId = row.fileId ∧ row.currentVersion.toInt ≤ later.currentVersion.toInt

namespace Tables.Extends

instance : IsPreorder Tables Extends where
  refl := fun tables => ⟨List.prefix_rfl, fun row member => ⟨row, member, rfl, Int.le_refl _⟩⟩
  trans := by
    intro first second third left right
    refine ⟨left.versions.trans right.versions, ?_⟩
    intro row member
    obtain ⟨next, nextMember, sameNext, nextLater⟩ := left.files row member
    obtain ⟨last, lastMember, sameLast, lastLater⟩ := right.files next nextMember
    exact ⟨last, lastMember, sameLast.trans sameNext, Int.le_trans nextLater lastLater⟩

theorem of_sameHistory {before after : Tables} (same : before.SameHistory after) :
    before.Extends after := by
  constructor
  · exact same.1 ▸ List.prefix_rfl
  · intro row member
    have found : row.revision ∈ after.files.map FileRow.revision := by
      rw [same.2]
      exact List.mem_map_of_mem member
    obtain ⟨later, laterMember, sameRevision⟩ := List.mem_map.1 found
    refine ⟨later, laterMember, congrArg Revision.fileId sameRevision, ?_⟩
    have sameNumber : later.currentVersion = row.currentVersion :=
      congrArg Revision.number sameRevision
    exact Int.le_of_eq (congrArg Int64.toInt sameNumber.symm)

theorem of_effect {before after : Tables} {change : CatalogChange}
    (effect : change.Effect before after) :
    before.Extends after := by
  cases effect with
  | kept same _ _ =>
      exact of_sameHistory same
  | created _ _ _ _ _ =>
      constructor
      · exact List.prefix_append _ _
      · intro row member
        exact ⟨row, List.mem_append_left _ member, rfl, Int.le_refl _⟩
  | @appended version expected file row follows encoded member sameFile live current =>
      obtain ⟨_, rfl⟩ := VersionRecord.toRow_eq_ok.1 encoded
      constructor
      · exact List.prefix_append _ _
      intro old oldMember
      refine ⟨_, Tables.mem_updateLive.2 ⟨old, oldMember, rfl⟩, ?_⟩
      split
      · rename_i bumped
        have oldCurrent : old.currentVersion = encodeNumber expected :=
          of_decide_eq_true bumped.2.2
        refine ⟨rfl, ?_⟩
        rw [oldCurrent, toInt_encodeNumber]
        change _ ≤ (encodeNumber version.number).toInt
        rw [toInt_encodeNumber]
        omega
      · exact ⟨rfl, Int.le_refl _⟩

end Tables.Extends

/-- Versions are only added however many changes are made. -/
theorem CatalogChange.extends_run (changes : List CatalogChange) (tables : Tables) :
    tables.Extends (run changes tables).2 := by
  refine run_keeps tables.Extends ?_ (refl_of Tables.Extends tables)
  intro change _ before after performed soFar
  exact trans_of Tables.Extends soFar (Tables.Extends.of_effect (effect_of_perform performed))

end ContentVault
