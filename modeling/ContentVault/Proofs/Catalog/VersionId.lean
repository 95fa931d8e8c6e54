import ContentVault.Proofs.Catalog.History
import ContentVault.Proofs.Catalog.Orderly
import Std.Data.String.ToNat

/-!
# Identifiers of versions

An identifier that is made from a file and a number tells both, whatever the file is called.

* a catalog that takes only versions with such identifiers has no others;
* where all identifiers are so made, two rows share one if and only if they share file and
  number;
* so an append that finds a key taken finds the version of that very file.
-/

namespace ContentVault

/-! ## Reading an identifier -/

theorem versionIdOf_inj {fileId otherId : String} {number other : UInt32} :
    versionIdOf fileId number = versionIdOf otherId other ↔ fileId = otherId ∧ number = other := by
  constructor
  · intro same
    have sameFile := fileId_eq_of_versionIdOf same
    subst sameFile
    rw [versionIdOf, versionIdOf, String.append_right_inj] at same
    exact ⟨rfl, UInt32.toNat_inj.1 (Nat.repr_injective same)⟩
  · rintro ⟨rfl, rfl⟩
    rfl

namespace VersionRow.IsDerived

variable {row other : VersionRow}

theorem versionId_eq_iff (derived : row.IsDerived) (otherDerived : other.IsDerived) :
    other.versionId = row.versionId ↔ other.fileId = row.fileId ∧ other.number = row.number := by
  obtain ⟨number, isId, isNumber⟩ := derived
  obtain ⟨otherNumber, isOther, isOtherNumber⟩ := otherDerived
  rw [isId, isOther, versionIdOf_inj, isNumber, isOtherNumber]
  exact and_congr_right fun _ => ⟨congrArg encodeNumber, encodeNumber_injective⟩

end VersionRow.IsDerived

/-! ## Catalogs with derived identifiers -/

/-- All versions have the identifiers that belong to their files and numbers. -/
def Tables.VersionsDerived (tables : Tables) : Prop :=
  ∀ row ∈ tables.versions, row.IsDerived

namespace CatalogChange

/-- A version that a change brings has the identifier that belongs to its file and number. -/
def BringsDerived : CatalogChange → Prop
  | createFile _ version => version.IsDerived
  | appendVersion version _ => version.IsDerived
  | _ => True

variable {before after : Tables} {change : CatalogChange}

theorem versionsDerived_of_effect (effect : change.Effect before after)
    (brings : change.BringsDerived) (derived : before.VersionsDerived) :
    after.VersionsDerived := by
  have added : ∀ {version : VersionRecord} {row : VersionRow}, version.IsDerived →
      version.toRow = .ok row → ∀ stored ∈ before.versions ++ [row], stored.IsDerived := by
    intro version row isDerived encoded stored member
    rcases List.mem_append.1 member with isOld | isNew
    · exact derived stored isOld
    · rw [List.mem_singleton.1 isNew]
      exact isDerived.row encoded
  cases effect with
  | kept same _ _ => exact fun row member => derived row (same.1 ▸ member)
  | created _ _ _ versionEncoded _ => exact added brings versionEncoded
  | appended _ encoded _ _ _ _ => exact added brings encoded

theorem versionsDerived_run {changes : List CatalogChange} {tables : Tables}
    (brings : ∀ change ∈ changes, change.BringsDerived) (derived : tables.VersionsDerived) :
    (run changes tables).2.VersionsDerived := by
  refine run_keeps Tables.VersionsDerived ?_ derived
  intro change member before after performed
  exact versionsDerived_of_effect (effect_of_perform performed) (brings change member)

end CatalogChange

namespace Tables

variable {tables : Tables} {row : VersionRow} {version : VersionRecord} {expected : UInt32}

theorem insertVersion_eq_uniqueViolation_iff :
    tables.insertVersion row = .error .uniqueViolation ↔ ¬ tables.FreshVersion row := by
  rw [insertVersion_eq]
  by_cases fresh : tables.FreshVersion row
  · by_cases known : tables.hasFile row.fileId = true <;> simp [fresh, known]
  · simp [fresh]

theorem isSome_version?_iff {fileId : String} {number : Int64} :
    (tables.version? fileId number).isSome = true ↔
      ∃ other ∈ tables.versions, other.fileId = fileId ∧ other.number = number := by
  simp [version?, List.find?_isSome]

/-- A version with a derived identifier is new unless its file has one with its number. -/
theorem VersionsDerived.freshVersion_iff (derived : tables.VersionsDerived)
    (rowDerived : row.IsDerived) :
    tables.FreshVersion row ↔ ¬ (tables.version? row.fileId row.number).isSome = true := by
  rw [isSome_version?_iff]
  constructor
  · rintro fresh ⟨other, member, same⟩
    exact (fresh other member).2 same
  · intro absent other member
    have different := fun same => absent ⟨other, member, same⟩
    exact ⟨mt (rowDerived.versionId_eq_iff (derived other member)).1 different, different⟩

/-! ## Appending to them -/

/-- An append moves the file on, and then a unique key of the version is taken. -/
structure AppendViolates (tables : Tables) (version : VersionRecord) (expected : UInt32)
    (row : VersionRow) : Prop where
  follows : expected.toNat + 1 = version.number.toNat
  encoded : version.toRow = .ok row
  bumped : (tables.bumpVersion row (encodeNumber expected)).1 ≠ 0
  taken : (tables.bumpVersion row (encodeNumber expected)).2.insertVersion row =
    .error .uniqueViolation

/-- A violation is told as a conflict and has no effect. -/
theorem AppendViolates.appendVersion_eq (violates : tables.AppendViolates version expected row) :
    tables.appendVersion version expected = (.error (.conflict version.fileId), tables) := by
  have fits : (Work.query fun _ => version.toRow) tables = (.ok row, tables) :=
    Work.query_eq_ok.2 ⟨violates.encoded, rfl⟩
  have moved : Work.counted (fun tables => tables.bumpVersion row (encodeNumber expected))
      tables = (.ok (tables.bumpVersion row (encodeNumber expected)).1,
        (tables.bumpVersion row (encodeNumber expected)).2) :=
    Work.counted_eq_ok.2 ⟨rfl, rfl⟩
  rw [appendVersion, Work.transaction, Work.appendVersion,
    if_neg (Classical.not_not.2 violates.follows)]
  dsimp only
  rw [Work.bind_of_ok fits, Work.bind_of_ok moved, if_neg violates.bumped, Work.statement,
    violates.taken]

/-- What an append finds taken is the version of that number of that very file. -/
theorem AppendViolates.exists_version (violates : tables.AppendViolates version expected row)
    (derived : tables.VersionsDerived) (versionDerived : version.IsDerived) :
    ∃ other, tables.version? version.fileId (encodeNumber version.number) = some other ∧
      other.versionId = version.versionId := by
  have rowDerived := versionDerived.row violates.encoded
  have taken := insertVersion_eq_uniqueViolation_iff.1 violates.taken
  -- Moving the file on has left the versions alone.
  have sameVersions : tables.FreshVersion row ↔
      (tables.bumpVersion row (encodeNumber expected)).2.FreshVersion row := Iff.rfl
  rw [← sameVersions, derived.freshVersion_iff rowDerived, Classical.not_not] at taken
  obtain ⟨other, found⟩ := Option.isSome_iff_exists.1 taken
  have isThere := mem_of_version?_eq_some found
  have sameId := (rowDerived.versionId_eq_iff (derived other isThere.1)).2 isThere.2
  obtain ⟨_, rfl⟩ := VersionRecord.toRow_eq_ok.1 violates.encoded
  exact ⟨other, found, sameId⟩

end Tables

/-- Identifiers of versions are equal if and only if file and number are. So in a catalog that
takes only versions with derived identifiers, which has no others however it is changed, an
identifier is taken only by the version of that number of that file; an insertion that meets a
unique key meets this version, and so does one that an append makes, which is then told as a
conflict. -/
theorem version_identifiers_never_collide :
    (∀ (fileId otherId : String) (number other : UInt32),
      versionIdOf fileId number = versionIdOf otherId other ↔
        fileId = otherId ∧ number = other) ∧
      (∀ (changes : List CatalogChange) (tables : Tables),
        (∀ change ∈ changes, change.BringsDerived) → tables.VersionsDerived →
          (CatalogChange.run changes tables).2.VersionsDerived) ∧
      ∀ tables : Tables, tables.VersionsDerived →
        (∀ row : VersionRow, row.IsDerived →
          (∀ other ∈ tables.versions, other.versionId = row.versionId →
            other.fileId = row.fileId ∧ other.number = row.number) ∧
            (tables.insertVersion row = .error .uniqueViolation →
              ∃ other ∈ tables.versions,
                other.fileId = row.fileId ∧ other.number = row.number)) ∧
          ∀ (version : VersionRecord) (expected : UInt32) (row : VersionRow),
            version.IsDerived → tables.AppendViolates version expected row →
              tables.appendVersion version expected =
                  (.error (.conflict version.fileId), tables) ∧
                ∃ other,
                  tables.version? version.fileId (encodeNumber version.number) = some other ∧
                    other.versionId = version.versionId := by
  refine ⟨fun _ _ _ _ => versionIdOf_inj,
    fun changes tables brings derived => CatalogChange.versionsDerived_run brings derived,
    fun tables derived => ⟨fun row rowDerived => ⟨?_, ?_⟩, ?_⟩⟩
  · exact fun other member => (rowDerived.versionId_eq_iff (derived other member)).1
  · intro violates
    have taken := Tables.insertVersion_eq_uniqueViolation_iff.1 violates
    rw [derived.freshVersion_iff rowDerived, Classical.not_not] at taken
    exact Tables.isSome_version?_iff.1 taken
  · intro version expected row versionDerived violates
    exact ⟨violates.appendVersion_eq, violates.exists_version derived versionDerived⟩

/-- A file with a version behind its current one, and a file called like that version. -/
def crowdedCatalog : Tables where
  files := [
    ⟨"f", "alice", "notes.md", "md", "text/markdown", 5, "alice/197001/f", 0, 0, 1, "", "active",
      none⟩,
    ⟨"f:v2", "bob", "notes.md", "md", "text/markdown", 5, "bob/197001/f", 0, 0, 1, "", "active",
      none⟩]
  versions := [
    ⟨"f:v1", "f", 1, 5, "alice/197001/f", "text/markdown", 0, "Initial upload"⟩,
    ⟨"f:v2", "f", 2, 5, "alice/197001/f", "text/markdown", 0, "Revert to version 1"⟩,
    ⟨"f:v2:v1", "f:v2", 1, 5, "bob/197001/f", "text/markdown", 0, "Initial upload"⟩]
  tags := []
  links := some []

theorem taken_version_belongs_to_its_file :
    let version := VersionRecord.make "f" 2 5 "alice/197001/f" "text/markdown" .epoch "Again"
    crowdedCatalog.VersionsDerived ∧ version.IsDerived ∧
      (∃ row, crowdedCatalog.AppendViolates version 1 row) ∧
        crowdedCatalog.appendVersion version 1 = (.error (.conflict "f"), crowdedCatalog) ∧
          ∃ other, crowdedCatalog.version? "f" (encodeNumber 2) = some other ∧
            other.versionId = "f:v2" := by
  intro version
  have derived : crowdedCatalog.VersionsDerived := by
    intro row member
    simp only [crowdedCatalog, List.mem_cons, List.not_mem_nil, or_false] at member
    rcases member with rfl | rfl | rfl
    · exact ⟨1, by decide +kernel, rfl⟩
    · exact ⟨2, by decide +kernel, rfl⟩
    · exact ⟨1, by decide +kernel, rfl⟩
  have violates : crowdedCatalog.AppendViolates version 1
      ⟨"f:v2", "f", 2, 5, "alice/197001/f", "text/markdown", 0, "Again"⟩ :=
    ⟨by decide, by decide +kernel, by decide +kernel, by decide +kernel⟩
  obtain ⟨told, other, found, sameId⟩ :=
    (version_identifiers_never_collide.2.2 crowdedCatalog derived).2 version 1 _ rfl violates
  exact ⟨derived, rfl, ⟨_, violates⟩, told, other, found, sameId.trans (by decide +kernel)⟩

end ContentVault
