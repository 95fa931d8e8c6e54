import ContentVault.Calendar
import ContentVault.Digest.Blake3
import ContentVault.Text.Hexadecimal
import ContentVault.Text.Utf8

/-!
# Records of the catalog

* a file is the snapshot of its current version with its owner and description;
* a version is one entry of a file's history, which only grows;
* a tag is a label whose identifier is derived from its name.
-/

namespace ContentVault

/-- Whether a file takes part in normal reads. -/
inductive FileStatus where
  | active
  | trashed
  deriving DecidableEq, Repr

/-- The stored text of a status. -/
def FileStatus.text : FileStatus → String
  | .active => "active"
  | .trashed => "trashed"

/-- The status with a stored text. -/
def FileStatus.ofText? (text : String) : Option FileStatus :=
  if text = "active" then some .active
  else if text = "trashed" then some .trashed
  else none

/-- One registered file. -/
structure FileRecord where
  /-- The content address of the first version; it never changes. -/
  fileId : String
  owner : String
  fileName : String
  fileType : String
  contentType : String
  size : UInt64
  /-- The path of the current version's blob. -/
  path : String
  createdAt : Timestamp
  updatedAt : Timestamp
  currentVersion : UInt32
  description : String
  status : FileStatus
  trashedAt : Option Timestamp
  deriving DecidableEq

/-- One entry of a file's history. -/
structure VersionRecord where
  versionId : String
  fileId : String
  number : UInt32
  size : UInt64
  /-- The path of the blob with this version's bytes, which versions may share. -/
  path : String
  contentType : String
  createdAt : Timestamp
  commitMessage : String
  deriving DecidableEq

/-- The identifier of a version. -/
def versionIdOf (fileId : String) (number : UInt32) : String :=
  fileId ++ ":v" ++ toString number.toNat

/-- A version with the identifier that belongs to its file and number. -/
def VersionRecord.make
    (fileId : String) (number : UInt32) (size : UInt64) (path contentType : String)
    (createdAt : Timestamp) (commitMessage : String) : VersionRecord where
  versionId := versionIdOf fileId number
  fileId
  number
  size
  path
  contentType
  createdAt
  commitMessage

/-- A label of files. -/
structure Tag where
  tagId : String
  name : String
  deriving DecidableEq, Repr

/-- The identifier of the tag with a name: half of the digest of the name. -/
def tagIdOf (name : String) : String :=
  "tag_" ++ String.ofList ((Hexadecimal.ofBytes (Digest.Blake3.digest name.toUTF8)).take 32)

/-- The tag with a name. -/
def Tag.named (name : String) : Tag where
  tagId := tagIdOf name
  name

end ContentVault
