import ContentVault.Catalog.Tables

/-!
# Damaged tables

Ways in which the stored tables can stop being what the vault wrote, for studying
how its operations answer then.

* a single column of a single row is overwritten, with no check at all;
* the table of links is dropped.
-/

namespace ContentVault

/-- A value for a column. -/
inductive Cell where
  | integer (value : Int64)
  | text (value : String)
  deriving DecidableEq

/-- The value as a column of texts holds it. -/
def Cell.asText : Cell → String
  | .integer value => toString value.toInt
  | .text value => value

/-- The value as a column of integers holds it, if it can. -/
def Cell.asInteger? : Cell → Option Int64
  | .integer value => some value
  | .text value => value.toInt?.map Int64.ofInt

/-- The columns of the table of files. -/
inductive FileColumn where
  | fileId
  | owner
  | fileName
  | fileType
  | contentType
  | size
  | path
  | createdAt
  | updatedAt
  | currentVersion
  | description
  | status
  | trashedAt
  deriving DecidableEq, Repr

/-- The columns of the table of versions. -/
inductive VersionColumn where
  | versionId
  | fileId
  | number
  | size
  | path
  | contentType
  | createdAt
  | commitMessage
  deriving DecidableEq, Repr

/-- The column of files with a name. -/
def FileColumn.ofName? : String → Option FileColumn
  | "file_id" => some .fileId
  | "user_id" => some .owner
  | "file_name" => some .fileName
  | "file_type" => some .fileType
  | "content_type" => some .contentType
  | "size" => some .size
  | "path" => some .path
  | "created_at" => some .createdAt
  | "updated_at" => some .updatedAt
  | "current_version" => some .currentVersion
  | "description" => some .description
  | "status" => some .status
  | "trashed_at" => some .trashedAt
  | _ => none

/-- The column of versions with a name. -/
def VersionColumn.ofName? : String → Option VersionColumn
  | "version_id" => some .versionId
  | "file_id" => some .fileId
  | "version_number" => some .number
  | "size" => some .size
  | "path" => some .path
  | "content_type" => some .contentType
  | "created_at" => some .createdAt
  | "commit_message" => some .commitMessage
  | _ => none

/-- The row with another value in one column. -/
def FileRow.overwrite (row : FileRow) (column : FileColumn) (cell : Cell) : FileRow :=
  match column with
  | .fileId => { row with fileId := cell.asText }
  | .owner => { row with owner := cell.asText }
  | .fileName => { row with fileName := cell.asText }
  | .fileType => { row with fileType := cell.asText }
  | .contentType => { row with contentType := cell.asText }
  | .size => { row with size := cell.asInteger?.getD row.size }
  | .path => { row with path := cell.asText }
  | .createdAt => { row with createdAt := cell.asInteger?.getD row.createdAt }
  | .updatedAt => { row with updatedAt := cell.asInteger?.getD row.updatedAt }
  | .currentVersion => { row with currentVersion := cell.asInteger?.getD row.currentVersion }
  | .description => { row with description := cell.asText }
  | .status => { row with status := cell.asText }
  | .trashedAt => { row with trashedAt := cell.asInteger? }

/-- The row with another value in one column. -/
def VersionRow.overwrite (row : VersionRow) (column : VersionColumn) (cell : Cell) :
    VersionRow :=
  match column with
  | .versionId => { row with versionId := cell.asText }
  | .fileId => { row with fileId := cell.asText }
  | .number => { row with number := cell.asInteger?.getD row.number }
  | .size => { row with size := cell.asInteger?.getD row.size }
  | .path => { row with path := cell.asText }
  | .contentType => { row with contentType := cell.asText }
  | .createdAt => { row with createdAt := cell.asInteger?.getD row.createdAt }
  | .commitMessage => { row with commitMessage := cell.asText }

namespace Tables

/-- Overwrite a column of a file, and count the rows. -/
def damageFile (tables : Tables) (fileId : String) (column : FileColumn) (cell : Cell) :
    Nat × Tables :=
  (tables.files.countP fun row => row.fileId = fileId,
    { tables with
      files := tables.files.map fun row =>
        if row.fileId = fileId then row.overwrite column cell else row })

/-- Overwrite a column of a version, and count the rows. -/
def damageVersion (tables : Tables) (versionId : String) (column : VersionColumn)
    (cell : Cell) : Nat × Tables :=
  (tables.versions.countP fun row => row.versionId = versionId,
    { tables with
      versions := tables.versions.map fun row =>
        if row.versionId = versionId then row.overwrite column cell else row })

/-- Drop the table of links. -/
def dropLinks (tables : Tables) : Tables :=
  { tables with links := none }

end Tables

end ContentVault
