import ContentVault.Catalog.Error
import ContentVault.Catalog.Record

/-!
# Rows

Records as the catalog stores them: texts and signed 64-bit integers, points in
time as whole seconds.

* a record becomes a row exactly if its size fits into a signed integer;
* a row becomes a record exactly if it is the row of some record, and is refused
  with the first datum that is wrong otherwise.
-/

namespace ContentVault

/-- A file as it is stored. -/
structure FileRow where
  fileId : String
  owner : String
  fileName : String
  fileType : String
  contentType : String
  size : Int64
  path : String
  createdAt : Int64
  updatedAt : Int64
  currentVersion : Int64
  description : String
  status : String
  trashedAt : Option Int64
  deriving DecidableEq

/-- A version as it is stored. -/
structure VersionRow where
  versionId : String
  fileId : String
  number : Int64
  size : Int64
  path : String
  contentType : String
  createdAt : Int64
  commitMessage : String
  deriving DecidableEq

/-- A size as a stored integer. -/
def encodeSize (size : UInt64) (datum : InvalidDatum) : Except CatalogError Int64 :=
  if size.toNat < 0x8000000000000000 then .ok size.toInt64 else .error (.invalidData datum)

/-- A stored integer as a size. -/
def decodeSize (stored : Int64) (datum : InvalidDatum) : Except CatalogError UInt64 :=
  if 0 ≤ stored.toInt then .ok stored.toUInt64 else .error (.invalidData datum)

/-- A stored integer as a version number. -/
def decodeNumber (stored : Int64) (datum : InvalidDatum) : Except CatalogError UInt32 :=
  if 0 ≤ stored.toInt ∧ stored.toInt < 0x100000000 then
    .ok (UInt32.ofNat stored.toInt.toNat)
  else
    .error (.invalidData datum)

/-- A version number as a stored integer. -/
def encodeNumber (number : UInt32) : Int64 :=
  Int64.ofNat number.toNat

/-- A point in time as a stored integer, its fraction of a second dropped. -/
def encodeTime (timestamp : Timestamp) : Int64 :=
  Int64.ofInt timestamp.seconds

/-- A stored integer as a point in time. -/
def decodeTime (stored : Int64) (datum : InvalidDatum) : Except CatalogError Timestamp :=
  match Timestamp.ofSeconds? stored.toInt with
  | some timestamp => .ok timestamp
  | none => .error (.invalidData datum)

/-- A stored text as a status. -/
def decodeStatus (stored : String) : Except CatalogError FileStatus :=
  match FileStatus.ofText? stored with
  | some status => .ok status
  | none => .error (.invalidData .fileStatus)

/-- The row of a file. -/
def FileRecord.toRow (file : FileRecord) : Except CatalogError FileRow := do
  let size ← encodeSize file.size .fileSize
  return {
    fileId := file.fileId
    owner := file.owner
    fileName := file.fileName
    fileType := file.fileType
    contentType := file.contentType
    size
    path := file.path
    createdAt := encodeTime file.createdAt
    updatedAt := encodeTime file.updatedAt
    currentVersion := encodeNumber file.currentVersion
    description := file.description
    status := file.status.text
    trashedAt := file.trashedAt.map encodeTime }

/-- The file of a row. -/
def FileRow.toRecord (row : FileRow) : Except CatalogError FileRecord := do
  let size ← decodeSize row.size .fileSize
  let createdAt ← decodeTime row.createdAt .createdAt
  let updatedAt ← decodeTime row.updatedAt .updatedAt
  let currentVersion ← decodeNumber row.currentVersion .currentVersion
  let status ← decodeStatus row.status
  let trashedAt ←
    match row.trashedAt with
    | none => pure none
    | some stored => some <$> decodeTime stored .trashedAt
  return {
    fileId := row.fileId
    owner := row.owner
    fileName := row.fileName
    fileType := row.fileType
    contentType := row.contentType
    size
    path := row.path
    createdAt
    updatedAt
    currentVersion
    description := row.description
    status
    trashedAt }

/-- The row of a version. -/
def VersionRecord.toRow (version : VersionRecord) : Except CatalogError VersionRow := do
  let size ← encodeSize version.size .versionSize
  return {
    versionId := version.versionId
    fileId := version.fileId
    number := encodeNumber version.number
    size
    path := version.path
    contentType := version.contentType
    createdAt := encodeTime version.createdAt
    commitMessage := version.commitMessage }

/-- The version of a row. -/
def VersionRow.toRecord (row : VersionRow) : Except CatalogError VersionRecord := do
  let number ← decodeNumber row.number .versionNumber
  let size ← decodeSize row.size .versionSize
  let createdAt ← decodeTime row.createdAt .versionCreatedAt
  return {
    versionId := row.versionId
    fileId := row.fileId
    number
    size
    path := row.path
    contentType := row.contentType
    createdAt
    commitMessage := row.commitMessage }

end ContentVault
