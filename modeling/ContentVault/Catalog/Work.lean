import ContentVault.Catalog.Query

/-!
# Reads and units of work

What callers ask of the catalog.

* a read leaves the tables alone;
* a unit of work is a sequence of statements inside a transaction: if any of them
  fails, the tables are as they were before the first.
-/

namespace ContentVault

/-- Descriptive fields to change; those that are not given stay. -/
structure FileDetails where
  fileName : Option String
  fileType : Option String
  description : Option String

/-- Statements that change the tables and may fail on the way. -/
abbrev Work (α : Type) := ExceptT CatalogError (StateM Tables) α

namespace Work

/-- Run a statement that may fail, raising its failure as an error. -/
def statement
    (raise : StatementFailure → CatalogError)
    (change : Tables → Except StatementFailure Tables) : Work Unit :=
  fun tables =>
    match change tables with
    | .ok changed => (.ok (), changed)
    | .error failure => (.error (raise failure), tables)

/-- Run a statement whose every failure is a failure of the database. -/
def plain (change : Tables → Except StatementFailure Tables) : Work Unit :=
  statement (fun _ => .database) change

/-- Run a statement that counts the rows it changes. -/
def counted (change : Tables → Nat × Tables) : Work Nat :=
  fun tables =>
    let (count, changed) := change tables
    (.ok count, changed)

/-- Read from the tables. -/
def query {α : Type} (read : Tables → Except CatalogError α) : Work α :=
  fun tables => (read tables, tables)

/-- Run a unit of work as a transaction: after an error nothing has changed. -/
def transaction {α : Type} (work : Work α) (tables : Tables) :
    Except CatalogError α × Tables :=
  match work tables with
  | (.ok value, changed) => (.ok value, changed)
  | (.error failure, _) => (.error failure, tables)

end Work

namespace Tables

/-- Raise any failure of a statement as a failure of the database. -/
def databaseError {α : Type} : Except StatementFailure α → Except CatalogError α
  | .ok value => .ok value
  | .error _ => .error .database

/-- The file with an identifier, trashed or not. -/
def fileRecord (tables : Tables) (fileId : String) :
    Except CatalogError (Option FileRecord) :=
  (tables.file? fileId).mapM FileRow.toRecord

/-- The file with an identifier, unless it is trashed. -/
def getFile (tables : Tables) (fileId : String) : Except CatalogError (Option FileRecord) :=
  (tables.liveFile? fileId).mapM FileRow.toRecord

/-- One version of a file. -/
def getVersion (tables : Tables) (fileId : String) (number : UInt32) :
    Except CatalogError (Option VersionRecord) :=
  (tables.version? fileId (encodeNumber number)).mapM VersionRow.toRecord

/-- All versions of a file in ascending order. -/
def listVersions (tables : Tables) (fileId : String) :
    Except CatalogError (List VersionRecord) :=
  (tables.versionsOf fileId).mapM VersionRow.toRecord

/-- The names of a file's tags in order. -/
def tagsForFile (tables : Tables) (fileId : String) : Except CatalogError (List String) :=
  databaseError (tables.tagNames fileId)

/-- Add a name to those of a file. -/
def addName : List (String × List String) → String × String → List (String × List String)
  | [], (fileId, name) => [(fileId, [name])]
  | (other, names) :: rest, (fileId, name) =>
      if other = fileId then
        (other, names ++ [name]) :: rest
      else
        (other, names) :: addName rest (fileId, name)

/-- A link of one of several files as the file and the name of the tag. -/
def namedLink (tables : Tables) (fileIds : List String) (link : TagLink) :
    Option (String × String) :=
  if fileIds.contains link.fileId then
    (tables.tags.find? fun tag => tag.tagId = link.tagId).map fun tag => (link.fileId, tag.name)
  else
    none

/-- The names of the tags of several files, which one query finds in order and which are then
grouped by file; files without tags are left out. -/
def tagsForFiles (tables : Tables) (fileIds : List String) :
    Except CatalogError (List (String × List String)) :=
  if fileIds = [] then
    .ok []
  else do
    let links ← databaseError tables.requireLinks
    let rows := (links.filterMap (tables.namedLink fileIds)).mergeSort
      fun first second => first.2 ≤ second.2
    return rows.foldl addName []

/-- The tag with a name. -/
def findTag (tables : Tables) (name : String) : Except CatalogError (Option Tag) :=
  .ok (tables.tag? name)

/-- The window of a listing. -/
def listFiles (tables : Tables) (query : FileQuery) :
    Except CatalogError (Page FileRecord) :=
  query.answer tables

end Tables

namespace Work

/-- Find or create the tag with a name and link it to a file. -/
def linkTag (fileId name : String) : Work Tag := do
  plain fun tables => .ok (tables.insertTag (Tag.named name))
  let tag ← query fun tables =>
    match tables.tag? name with
    | some tag => .ok tag
    | none => .error .database
  plain fun tables => tables.attachTag fileId tag.tagId
  return tag

/-- Link a file to the tags with given names; the answer names each tag once, in
the order of first mention. -/
def linkTags (fileId : String) : List String → List Tag → Work (List Tag)
  | [], linked => return linked
  | name :: rest, linked => do
      let tag ← linkTag fileId name
      linkTags fileId rest (if linked.contains tag then linked else linked ++ [tag])

/-- Register a file with its first version. -/
def createFile (file : FileRecord) (version : VersionRecord) : Work Unit := do
  if version.fileId ≠ file.fileId ∨ version.number ≠ file.currentVersion then
    throw (.invalidData .firstVersion)
  let fileRow ← query fun _ => file.toRow
  let versionRow ← query fun _ => version.toRow
  statement
    (fun
      | .uniqueViolation => .duplicate file.fileId
      | .other => .database)
    fun tables => tables.insertFile fileRow
  plain fun tables => tables.insertVersion versionRow

/-- Append a version and make it current, if the file's current version is the
expected one. -/
def appendVersion (version : VersionRecord) (expected : UInt32) : Work Unit := do
  if expected.toNat + 1 ≠ version.number.toNat then
    throw (.invalidData .versionOrder)
  let row ← query fun _ => version.toRow
  let bumped ← counted fun tables => tables.bumpVersion row (encodeNumber expected)
  if bumped = 0 then
    throw (.conflict version.fileId)
  statement
    (fun
      | .uniqueViolation => .conflict version.fileId
      | .other => .database)
    fun tables => tables.insertVersion row

/-- Change the description of a live file and, if tags are given, replace its
tags.  The answer is whether there was such a file. -/
def updateDetails
    (fileId : String) (details : FileDetails) (tags : Option (List String))
    (changedAt : Timestamp) : Work Bool := do
  let updated ← counted fun tables =>
    tables.updateDescription fileId details.fileName details.fileType details.description
      (encodeTime changedAt)
  if updated = 0 then
    return false
  match tags with
  | none => return true
  | some names => do
      plain fun tables => tables.clearTags fileId
      let _ ← linkTags fileId names []
      return true

/-- Move live files to the trash; the answer names those that were moved. -/
def trashFiles (trashedAt : Timestamp) : List String → List String → Work (List String)
  | [], trashed => return trashed
  | fileId :: rest, trashed => do
      let hit ← counted fun tables => tables.trashFile fileId (encodeTime trashedAt)
      trashFiles trashedAt rest
        (if hit ≠ 0 && !trashed.contains fileId then trashed ++ [fileId] else trashed)

end Work

namespace Tables

/-- Register a file with its first version. -/
def createFile (tables : Tables) (file : FileRecord) (version : VersionRecord) :
    Except CatalogError Unit × Tables :=
  (Work.createFile file version).transaction tables

/-- Link a file to the tags with given names, which are created if missing. -/
def attachTags (tables : Tables) (fileId : String) (names : List String) :
    Except CatalogError (List Tag) × Tables :=
  (Work.linkTags fileId names []).transaction tables

/-- Append a version and make it current. -/
def appendVersion (tables : Tables) (version : VersionRecord) (expected : UInt32) :
    Except CatalogError Unit × Tables :=
  (Work.appendVersion version expected).transaction tables

/-- Change the description and the tags of a live file. -/
def updateDetails
    (tables : Tables) (fileId : String) (details : FileDetails)
    (tags : Option (List String)) (changedAt : Timestamp) :
    Except CatalogError Bool × Tables :=
  (Work.updateDetails fileId details tags changedAt).transaction tables

/-- Move live files to the trash. -/
def trash (tables : Tables) (fileIds : List String) (trashedAt : Timestamp) :
    Except CatalogError (List String) × Tables :=
  (Work.trashFiles trashedAt fileIds []).transaction tables

end Tables

end ContentVault
