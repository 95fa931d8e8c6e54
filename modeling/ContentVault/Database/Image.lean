import ContentVault.Database.Migration
import ContentVault.Document.Json
import ContentVault.Document.Pretty

/-!
# The file of a database

How everything that a database keeps is written to a file and read back.

* a row is the list of its columns in their order;
* a file without bytes is a database in which nothing has been done;
* other bytes that were not written in this way are no database.
-/

namespace ContentVault

/-- The columns of a file. -/
def FileRow.toDocument (row : FileRow) : Document :=
  .list [
    .text row.fileId, .text row.owner, .text row.fileName, .text row.fileType,
    .text row.contentType, .integer row.size.toInt, .text row.path,
    .integer row.createdAt.toInt, .integer row.updatedAt.toInt,
    .integer row.currentVersion.toInt, .text row.description, .text row.status,
    match row.trashedAt with
    | some time => .integer time.toInt
    | none => .absent]

/-- The file with given columns. -/
def FileRow.ofDocument? : Document → Option FileRow
  | .list [
      .text fileId, .text owner, .text fileName, .text fileType, .text contentType,
      .integer size, .text path, .integer createdAt, .integer updatedAt,
      .integer currentVersion, .text description, .text status, trashed] => do
      let trashedAt ←
        match trashed with
        | .integer time => some (some (Int64.ofInt time))
        | .absent => some none
        | _ => none
      return {
        fileId
        owner
        fileName
        fileType
        contentType
        size := Int64.ofInt size
        path
        createdAt := Int64.ofInt createdAt
        updatedAt := Int64.ofInt updatedAt
        currentVersion := Int64.ofInt currentVersion
        description
        status
        trashedAt }
  | _ => none

theorem FileRow.ofDocument?_toDocument (row : FileRow) :
    FileRow.ofDocument? row.toDocument = some row := by
  obtain ⟨_, _, _, _, _, _, _, _, _, _, _, _, trashedAt⟩ := row
  cases trashedAt <;> simp [FileRow.toDocument, FileRow.ofDocument?]

/-- The columns of a version. -/
def VersionRow.toDocument (row : VersionRow) : Document :=
  .list [
    .text row.versionId, .text row.fileId, .integer row.number.toInt,
    .integer row.size.toInt, .text row.path, .text row.contentType,
    .integer row.createdAt.toInt, .text row.commitMessage]

/-- The version with given columns. -/
def VersionRow.ofDocument? : Document → Option VersionRow
  | .list [
      .text versionId, .text fileId, .integer number, .integer size, .text path,
      .text contentType, .integer createdAt, .text commitMessage] =>
      some {
        versionId
        fileId
        number := Int64.ofInt number
        size := Int64.ofInt size
        path
        contentType
        createdAt := Int64.ofInt createdAt
        commitMessage }
  | _ => none

theorem VersionRow.ofDocument?_toDocument (row : VersionRow) :
    VersionRow.ofDocument? row.toDocument = some row := by
  simp [VersionRow.toDocument, VersionRow.ofDocument?]

/-- The columns of a tag. -/
def Tag.toDocument (tag : Tag) : Document :=
  .list [.text tag.tagId, .text tag.name]

/-- The tag with given columns. -/
def Tag.ofDocument? : Document → Option Tag
  | .list [.text tagId, .text name] => some { tagId, name }
  | _ => none

/-- The columns of a link. -/
def TagLink.toDocument (link : TagLink) : Document :=
  .list [.text link.fileId, .text link.tagId]

/-- The link with given columns. -/
def TagLink.ofDocument? : Document → Option TagLink
  | .list [.text fileId, .text tagId] => some { fileId, tagId }
  | _ => none

/-- The columns of a migration's record. -/
def MigrationRecord.toDocument (record : MigrationRecord) : Document :=
  .list [.integer record.version, .text record.checksum, .boolean record.succeeded]

/-- The record with given columns. -/
def MigrationRecord.ofDocument? : Document → Option MigrationRecord
  | .list [.integer version, .text checksum, .boolean succeeded] =>
      some { version := version.toNat, checksum, succeeded }
  | _ => none

namespace Snapshot

/-- Read every item of a list. -/
def rows? {α : Type} (read : Document → Option α) : Document → Option (List α)
  | .list items => items.mapM read
  | _ => none

/-- Everything that a database keeps, as a document. -/
def toDocument (snapshot : Snapshot) : Document :=
  .table [
    ("migrations", .list (snapshot.migrations.map MigrationRecord.toDocument)),
    ("files_are_view", .boolean snapshot.filesAreView),
    ("files", .list (snapshot.tables.files.map FileRow.toDocument)),
    ("file_versions", .list (snapshot.tables.versions.map VersionRow.toDocument)),
    ("tags", .list (snapshot.tables.tags.map Tag.toDocument)),
    ("file_tags",
      match snapshot.tables.links with
      | some links => .list (links.map TagLink.toDocument)
      | none => .absent)]

/-- The database that a document describes. -/
def ofDocument? : Document → Option Snapshot
  | .table [
      ("migrations", migrations), ("files_are_view", .boolean filesAreView),
      ("files", files), ("file_versions", versions), ("tags", tags),
      ("file_tags", links)] => do
      let links ←
        match links with
        | .absent => some none
        | present => (rows? TagLink.ofDocument? present).map some
      return {
        tables := {
          files := ← rows? FileRow.ofDocument? files
          versions := ← rows? VersionRow.ofDocument? versions
          tags := ← rows? Tag.ofDocument? tags
          links }
        filesAreView
        migrations := ← rows? MigrationRecord.ofDocument? migrations }
  | _ => none

theorem rows?_map {α : Type} (read : Document → Option α) (write : α → Document)
    (reads : ∀ row, read (write row) = some row) (rows : List α) :
    rows? read (.list (rows.map write)) = some rows := by
  rw [rows?]
  induction rows with
  | nil =>
      rfl
  | cons row rest inductionHypothesis =>
      rw [List.map_cons, List.mapM_cons, reads, inductionHypothesis]
      rfl

/-- Nothing that a database keeps is lost in its document. -/
theorem ofDocument?_toDocument (snapshot : Snapshot) :
    ofDocument? snapshot.toDocument = some snapshot := by
  obtain ⟨⟨files, versions, tags, links⟩, filesAreView, migrations⟩ := snapshot
  have readFiles := rows?_map _ _ FileRow.ofDocument?_toDocument files
  have readVersions := rows?_map _ _ VersionRow.ofDocument?_toDocument versions
  have readTags := rows?_map Tag.ofDocument? Tag.toDocument (fun _ => rfl) tags
  have readRecords :=
    rows?_map MigrationRecord.ofDocument? MigrationRecord.toDocument (fun _ => rfl) migrations
  cases links with
  | none =>
      simp [toDocument, ofDocument?, readFiles, readVersions, readTags, readRecords]
  | some links =>
      have readLinks := rows?_map TagLink.ofDocument? TagLink.toDocument (fun _ => rfl) links
      simp [toDocument, ofDocument?, readFiles, readVersions, readTags, readRecords, readLinks]

/-- The bytes of the file of a database. -/
def toBytes (snapshot : Snapshot) : ByteArray :=
  snapshot.toDocument.pretty.toUTF8

/-- The database in a file. -/
def ofBytes? (content : ByteArray) : Option Snapshot :=
  if content.isEmpty then
    some new
  else
    (Utf8.decode? content).bind fun text => (Document.ofJson? text).bind ofDocument?

end Snapshot

end ContentVault
