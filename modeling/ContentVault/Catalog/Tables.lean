import ContentVault.Catalog.Row

/-!
# Tables and statements

The four tables of the catalog and the single statements on them.

* a statement that fails has no effect;
* keys are unique: the identifier of a file, the identifier of a version, the
  number of a version within its file, the identifier and the name of a tag, and
  each link;
* a version and a link refer to a file that exists, a link also to a tag;
* the table of links may be missing, and then every statement on it fails.
-/

namespace ContentVault

/-- That a file carries a tag. -/
structure TagLink where
  fileId : String
  tagId : String
  deriving DecidableEq, Repr

/-- Everything that the catalog stores. -/
structure Tables where
  files : List FileRow
  versions : List VersionRow
  tags : List Tag
  /-- Missing if the table has been dropped. -/
  links : Option (List TagLink)
  deriving DecidableEq

/-- How a statement failed. -/
inductive StatementFailure where
  | uniqueViolation
  | other
  deriving DecidableEq, Repr

namespace Tables

/-- The tables of a new catalog. -/
def empty : Tables := ⟨[], [], [], some []⟩

/-- The row of a file, trashed or not. -/
def file? (tables : Tables) (fileId : String) : Option FileRow :=
  tables.files.find? fun row => row.fileId = fileId

/-- The row of a file that is not trashed. -/
def liveFile? (tables : Tables) (fileId : String) : Option FileRow :=
  tables.files.find? fun row => row.fileId = fileId && row.trashedAt.isNone

/-- Whether a file is registered. -/
def hasFile (tables : Tables) (fileId : String) : Bool :=
  tables.files.any fun row => row.fileId = fileId

/-- The row of one version. -/
def version? (tables : Tables) (fileId : String) (number : Int64) : Option VersionRow :=
  tables.versions.find? fun row => row.fileId = fileId && row.number = number

/-- The rows of a file's versions in ascending order. -/
def versionsOf (tables : Tables) (fileId : String) : List VersionRow :=
  (tables.versions.filter fun row => row.fileId = fileId).mergeSort
    fun first second => first.number.toInt ≤ second.number.toInt

/-- The row of the tag with a name. -/
def tag? (tables : Tables) (name : String) : Option Tag :=
  tables.tags.find? fun tag => tag.name = name

/-- The links, unless their table is missing. -/
def requireLinks (tables : Tables) : Except StatementFailure (List TagLink) :=
  match tables.links with
  | some links => .ok links
  | none => .error .other

/-- The names of the tags with given identifiers, in the order of the names. -/
def sortedNames (names : List String) : List String :=
  names.mergeSort fun first second => first ≤ second

/-- The names of a file's tags in order. -/
def tagNames (tables : Tables) (fileId : String) :
    Except StatementFailure (List String) := do
  let links ← tables.requireLinks
  let names := links.filterMap fun link =>
    if link.fileId = fileId then
      (tables.tags.find? fun tag => tag.tagId = link.tagId).map Tag.name
    else
      none
  return sortedNames names

/-- Every link as a file and the name of a tag, in order, unless their table is
missing. -/
def namedLinks (tables : Tables) : Option (List (String × String)) :=
  tables.links.map fun links =>
    let named := links.filterMap fun link =>
      (tables.tags.find? fun tag => tag.tagId = link.tagId).map fun tag => (link.fileId, tag.name)
    named.mergeSort fun first second =>
      first.1 < second.1 || (first.1 = second.1 && first.2 ≤ second.2)

/-- Insert the row of a file. -/
def insertFile (tables : Tables) (row : FileRow) : Except StatementFailure Tables :=
  if tables.hasFile row.fileId then
    .error .uniqueViolation
  else
    .ok { tables with files := tables.files ++ [row] }

/-- Insert the row of a version. -/
def insertVersion (tables : Tables) (row : VersionRow) : Except StatementFailure Tables :=
  if tables.versions.any fun other =>
      other.versionId = row.versionId ||
        (other.fileId = row.fileId && other.number = row.number) then
    .error .uniqueViolation
  else if tables.hasFile row.fileId then
    .ok { tables with versions := tables.versions ++ [row] }
  else
    .error .other

/-- Insert a tag unless its identifier or its name is taken. -/
def insertTag (tables : Tables) (tag : Tag) : Tables :=
  if tables.tags.any fun other => other.tagId = tag.tagId || other.name = tag.name then
    tables
  else
    { tables with tags := tables.tags ++ [tag] }

/-- Link a tag to a file unless it is linked already. -/
def attachTag (tables : Tables) (fileId tagId : String) : Except StatementFailure Tables := do
  let links ← tables.requireLinks
  if links.contains ⟨fileId, tagId⟩ then
    return tables
  else if tables.hasFile fileId && tables.tags.any fun tag => tag.tagId = tagId then
    return { tables with links := some (links ++ [⟨fileId, tagId⟩]) }
  else
    throw .other

/-- Remove all links of a file. -/
def clearTags (tables : Tables) (fileId : String) : Except StatementFailure Tables := do
  let links ← tables.requireLinks
  return { tables with links := some (links.filter fun link => decide (link.fileId ≠ fileId)) }

/-- Change the live rows of a file that satisfy a condition, and count them. -/
def updateLive
    (tables : Tables) (fileId : String) (condition : FileRow → Bool)
    (change : FileRow → FileRow) : Nat × Tables :=
  let hit := fun row : FileRow => row.fileId = fileId && row.trashedAt.isNone && condition row
  (tables.files.countP hit,
    { tables with files := tables.files.map fun row => if hit row then change row else row })

/-- Make a version the current one of its file, if the file's current version is
the expected one. -/
def bumpVersion (tables : Tables) (row : VersionRow) (expected : Int64) : Nat × Tables :=
  tables.updateLive row.fileId (fun file => file.currentVersion = expected) fun file =>
    { file with
      currentVersion := row.number
      path := row.path
      contentType := row.contentType
      size := row.size
      updatedAt := row.createdAt }

/-- Change the descriptive fields that are given. -/
def updateDescription
    (tables : Tables) (fileId : String)
    (fileName fileType description : Option String) (changedAt : Int64) : Nat × Tables :=
  tables.updateLive fileId (fun _ => true) fun file =>
    { file with
      fileName := fileName.getD file.fileName
      fileType := fileType.getD file.fileType
      description := description.getD file.description
      updatedAt := changedAt }

/-- Move a file to the trash. -/
def trashFile (tables : Tables) (fileId : String) (trashedAt : Int64) : Nat × Tables :=
  tables.updateLive fileId (fun _ => true) fun file =>
    { file with
      status := FileStatus.trashed.text
      trashedAt := some trashedAt
      updatedAt := trashedAt }

end Tables

end ContentVault
