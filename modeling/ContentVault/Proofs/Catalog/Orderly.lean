import ContentVault.Proofs.Catalog.History
import ContentVault.Proofs.Catalog.Lockstep

/-!
# Orderly catalogs

What all rows of a catalog have in common, and what every statement keeps.

* a file and a version have a path that they may have, and the identifier of a version is
  made from its file and number;
* a tag has the identifier that belongs to its name, and every link leads to a tag;
* so equal orderly catalogs run in step, and stay equal and orderly.
-/

namespace ContentVault

/-- Versions of different files have different identifiers: what follows the last `v` of an
identifier are digits. -/
theorem fileId_eq_of_versionIdOf {first second : String} {number other : UInt32}
    (same : versionIdOf first number = versionIdOf second other) : first = second := by
  have noLetter : ∀ digits : Nat, 'v' ∉ digits.repr.toList := by
    intro digits member
    rw [Nat.repr, String.toList_ofList] at member
    exact absurd (Nat.isDigit_of_mem_toDigits (by decide) (by decide) member) (by decide)
  have split : ∀ {left right : List Char} {digits others : Nat},
      left ++ 'v' :: digits.repr.toList = right ++ 'v' :: others.repr.toList → left = right := by
    intro left right digits others sameText
    rcases List.append_eq_append_iff.1 sameText with ⟨between, rfl, rest⟩ | ⟨between, rfl, rest⟩
    · rcases between with _ | ⟨letter, between⟩
      · exact (List.append_nil left).symm
      · exact absurd ((List.cons.inj rest).2 ▸ by simp) (noLetter digits)
    · rcases between with _ | ⟨letter, between⟩
      · exact List.append_nil right
      · exact absurd ((List.cons.inj rest).2 ▸ by simp) (noLetter others)
  have spelled : ∀ (fileId : String) (version : UInt32), (versionIdOf fileId version).toList =
      (fileId.toList ++ [':']) ++ 'v' :: version.toNat.repr.toList := by
    intro fileId version
    rw [versionIdOf, String.toList_append, String.toList_append,
      show ":v".toList = [':', 'v'] from rfl]
    simp
  have sameText := congrArg String.toList same
  rw [spelled, spelled] at sameText
  exact String.toList_inj.1 (List.append_cancel_right (split sameText))

theorem VersionRow.IsDerived.fileId_eq {row other : VersionRow} (derived : row.IsDerived)
    (otherDerived : other.IsDerived) (same : row.versionId = other.versionId) :
    row.fileId = other.fileId := by
  obtain ⟨number, isId, _⟩ := derived
  obtain ⟨otherNumber, isOther, _⟩ := otherDerived
  rw [isId, isOther] at same
  exact fileId_eq_of_versionIdOf same

/-- Every row has a path and an identifier that it may have, and every link leads to a
tag. -/
structure Tables.Orderly (allowed : String → String → Prop) (tables : Tables) : Prop where
  files : ∀ row ∈ tables.files, allowed row.fileId row.path
  versions : ∀ row ∈ tables.versions, allowed row.fileId row.path ∧ row.IsDerived
  tags : ∀ tag ∈ tables.tags, tag = Tag.named tag.name
  links : ∃ links, tables.links = some links ∧
    ∀ link ∈ links, ∃ tag ∈ tables.tags, tag.tagId = link.tagId

namespace Tables.Orderly

variable {allowed : String → String → Prop} {tables after : Tables}

theorem empty : Tables.empty.Orderly allowed :=
  ⟨nofun, nofun, nofun, [], rfl, nofun⟩

theorem insertFile (orderly : tables.Orderly allowed) {row : FileRow}
    (isAllowed : allowed row.fileId row.path) (inserted : tables.insertFile row = .ok after) :
    after.Orderly allowed := by
  obtain ⟨_, rfl⟩ := Tables.insertFile_eq_ok.1 inserted
  refine ⟨fun other member => ?_, orderly.versions, orderly.tags, orderly.links⟩
  rcases List.mem_append.1 member with isOld | isNew
  · exact orderly.files other isOld
  · exact List.mem_singleton.1 isNew ▸ isAllowed

theorem insertVersion (orderly : tables.Orderly allowed) {row : VersionRow}
    (isAllowed : allowed row.fileId row.path) (derived : row.IsDerived)
    (inserted : tables.insertVersion row = .ok after) : after.Orderly allowed := by
  obtain ⟨_, _, rfl⟩ := Tables.insertVersion_eq_ok.1 inserted
  refine ⟨orderly.files, fun other member => ?_, orderly.tags, orderly.links⟩
  rcases List.mem_append.1 member with isOld | isNew
  · exact orderly.versions other isOld
  · exact List.mem_singleton.1 isNew ▸ ⟨isAllowed, derived⟩

theorem updateLive (orderly : tables.Orderly allowed) {fileId : String}
    {condition : FileRow → Bool} {change : FileRow → FileRow}
    (kept : ∀ row : FileRow, row.fileId = fileId → allowed row.fileId row.path →
      allowed (change row).fileId (change row).path) :
    (tables.updateLive fileId condition change).2.Orderly allowed := by
  refine ⟨fun row member => ?_, orderly.versions, orderly.tags, orderly.links⟩
  obtain ⟨old, oldMember, rfl⟩ := Tables.mem_updateLive.1 member
  split
  · rename_i hit
    exact kept old hit.1 (orderly.files old oldMember)
  · exact orderly.files old oldMember

theorem bumpVersion (orderly : tables.Orderly allowed) {row : VersionRow}
    (isAllowed : allowed row.fileId row.path) (expected : Int64) :
    (tables.bumpVersion row expected).2.Orderly allowed :=
  orderly.updateLive fun _ sameFile _ => sameFile ▸ isAllowed

theorem insertTag (orderly : tables.Orderly allowed) (name : String) :
    (tables.insertTag (Tag.named name)).Orderly allowed := by
  unfold Tables.insertTag
  split
  · exact orderly
  refine ⟨orderly.files, orderly.versions, fun tag member => ?_, ?_⟩
  · rcases List.mem_append.1 member with isOld | isNew
    · exact orderly.tags tag isOld
    · rw [List.mem_singleton.1 isNew]
      rfl
  · obtain ⟨links, present, lead⟩ := orderly.links
    refine ⟨links, present, fun link member => ?_⟩
    obtain ⟨tag, isTag, sameId⟩ := lead link member
    exact ⟨tag, List.mem_append_left _ isTag, sameId⟩

theorem attachTag (orderly : tables.Orderly allowed) {fileId tagId : String}
    (attached : tables.attachTag fileId tagId = .ok after) : after.Orderly allowed := by
  obtain ⟨links, present, lead⟩ := orderly.links
  unfold Tables.attachTag Tables.requireLinks at attached
  rw [present] at attached
  simp only [bind, Except.bind] at attached
  split at attached
  · cases attached
    exact orderly
  · split at attached
    · rename_i known
      cases attached
      refine ⟨orderly.files, orderly.versions, orderly.tags, _, rfl, fun link member => ?_⟩
      rcases List.mem_append.1 member with isOld | isNew
      · exact lead link isOld
      · rw [List.mem_singleton.1 isNew]
        simp only [Bool.and_eq_true, List.any_eq_true, decide_eq_true_eq] at known
        exact known.2
    · cases attached

theorem clearTags (orderly : tables.Orderly allowed) {fileId : String}
    (cleared : tables.clearTags fileId = .ok after) : after.Orderly allowed := by
  obtain ⟨links, present, lead⟩ := orderly.links
  unfold Tables.clearTags Tables.requireLinks at cleared
  rw [present] at cleared
  cases cleared
  exact ⟨orderly.files, orderly.versions, orderly.tags, _, rfl,
    fun link member => lead link (List.mem_of_mem_filter member)⟩

theorem path_of_getFile (orderly : tables.Orderly allowed) {fileId : String} {file : FileRecord}
    (found : tables.getFile fileId = .ok (some file)) : allowed fileId file.path := by
  obtain ⟨row, isRow, decoded⟩ := Tables.getFile_eq_some.1 found
  obtain ⟨member, rfl, _⟩ := Tables.mem_of_liveFile?_eq_some isRow
  have isAllowed := orderly.files row member
  obtain ⟨_, rfl⟩ := FileRecord.toRow_eq_ok.1 (FileRow.toRow_of_toRecord decoded)
  exact isAllowed

theorem path_of_getVersion (orderly : tables.Orderly allowed) {fileId : String}
    {number : UInt32} {version : VersionRecord}
    (found : tables.getVersion fileId number = .ok (some version)) :
    allowed fileId version.path := by
  obtain ⟨row, isRow, decoded⟩ := Tables.getVersion_eq_some.1 found
  obtain ⟨member, rfl, _⟩ := Tables.mem_of_version?_eq_some isRow
  have isAllowed := (orderly.versions row member).1
  obtain ⟨_, rfl⟩ := VersionRecord.toRow_eq_ok.1 (VersionRow.toRow_of_toRecord decoded)
  exact isAllowed

end Tables.Orderly

/-! ## Equal catalogs -/

section Equal

variable {invariant : Tables → Prop}

/-- A change of equal catalogs gives equal catalogs again. -/
theorem SameChange.of_eq {here there : Tables} (same : here = there)
    (change : Tables → Except StatementFailure Tables)
    (kept : ∀ after, change here = .ok after → invariant after) :
    SameChange (fun here there => here = there ∧ invariant here) (change here) (change there) := by
  subst same
  rcases changed : change here with failure | after
  · exact .failed failure
  · exact .changed ⟨rfl, kept after changed⟩

theorem Work.InStep.query_of_eq {α : Type} (read : Tables → Except CatalogError α) :
    (Work.query read).InStep (fun here there => here = there ∧ invariant here)
      (fun _ => True) := by
  rintro here _ ⟨rfl, holds⟩
  exact ⟨rfl, ⟨rfl, holds⟩, fun _ _ => trivial⟩

variable {allowed : String → String → Prop}

theorem linkTag_inStep_of_eq (fileId name : String) :
    (Work.linkTag fileId name).InStep
      (fun here there => here = there ∧ here.Orderly allowed) (fun _ => True) := by
  refine Work.InStep.bind (Work.InStep.statement fun _ _ ⟨same, orderly⟩ =>
    .of_eq same (fun tables => .ok (tables.insertTag (Tag.named name))) ?_) fun _ _ => ?_
  · rintro after inserted
    cases inserted
    exact orderly.insertTag name
  refine Work.InStep.bind (Work.InStep.query_of_eq _) fun tag _ => ?_
  refine Work.InStep.bind (Work.InStep.statement fun _ _ ⟨same, orderly⟩ =>
    .of_eq same (Tables.attachTag · fileId tag.tagId) fun _ => orderly.attachTag) fun _ _ => ?_
  exact Work.InStep.pure trivial

/-- Equal orderly catalogs run in step. -/
theorem catalogInStep_of_eq (allowed : String → String → Prop) :
    CatalogInStep ⟨fun _ => True, allowed, fun _ => True⟩
      fun here there => here = there ∧ here.Orderly allowed where
  fileRecord := fun ⟨same, _⟩ _ => same ▸ rfl
  getFile := fun ⟨same, _⟩ _ => same ▸ rfl
  getVersion := fun ⟨same, _⟩ _ => same ▸ rfl
  listVersions := fun ⟨same, _⟩ _ => same ▸ rfl
  tagsForFile := fun ⟨same, _⟩ _ => same ▸ rfl
  filePath := fun ⟨_, orderly⟩ _ => orderly.path_of_getFile
  versionPath := fun ⟨_, orderly⟩ _ => orderly.path_of_getVersion
  insertFile := fun ⟨same, orderly⟩ _ isAllowed =>
    .of_eq same (Tables.insertFile · _) fun _ => orderly.insertFile isAllowed
  insertVersion := fun ⟨same, orderly⟩ _ isAllowed derived =>
    .of_eq same (Tables.insertVersion · _) fun _ => orderly.insertVersion isAllowed derived
  bumpVersion := fun ⟨same, orderly⟩ _ isAllowed =>
    ⟨same ▸ rfl, same ▸ rfl, orderly.bumpVersion isAllowed _⟩
  updateDescription := fun ⟨same, orderly⟩ _ =>
    ⟨same ▸ rfl, same ▸ rfl, orderly.updateLive fun _ _ => id⟩
  trashFile := fun ⟨same, orderly⟩ _ =>
    ⟨same ▸ rfl, same ▸ rfl, orderly.updateLive fun _ _ => id⟩
  linkTag := fun _ _ => linkTag_inStep_of_eq _ _
  clearTags := fun ⟨same, orderly⟩ _ =>
    .of_eq same (Tables.clearTags · _) fun _ => orderly.clearTags

/-- Work that does the same in equal orderly catalogs leaves them orderly. -/
theorem Tables.Orderly.of_inStep {α : Type} {expects : α → Prop} {work : Work α} {value : α}
    {before after : Tables} (orderly : before.Orderly allowed)
    (inStep : work.InStep (fun here there => here = there ∧ here.Orderly allowed) expects)
    (done : work.transaction before = (.ok value, after)) : after.Orderly allowed := by
  have states := (inStep.transaction before before ⟨rfl, orderly⟩).states
  rw [done] at states
  exact states.2

end Equal

end ContentVault
