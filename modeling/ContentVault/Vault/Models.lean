import ContentVault.Blob.Basic
import ContentVault.Catalog.Record
import ContentVault.Vault.Error

/-!
# Requests and results of the vault
-/

namespace ContentVault

/-- A file submitted for storage. -/
structure UploadRequest where
  owner : String
  fileName : String
  /-- The declared file type; without one the name's extension counts. -/
  fileType : Option String
  /-- The declared content type, which counts only if nothing else tells. -/
  contentType : Option String
  /-- Names of tags between commas. -/
  tags : String
  description : String
  payload : ByteArray

/-- What went wrong after an upload had been committed. -/
inductive UploadWarning where
  | tagAssociation (tags : List String) (reason : String)
  deriving DecidableEq, Repr

/-- The text of a warning. -/
def UploadWarning.message : UploadWarning → String
  | .tagAssociation tags reason =>
      "tags " ++ ", ".intercalate tags ++ " were not attached: " ++ reason

/-- The answer to an upload. -/
structure UploadReceipt where
  fileId : String
  fileName : String
  contentType : String
  size : UInt64
  version : UInt32
  warnings : List UploadWarning

/-- A version that a selector stands for. -/
structure Resolved where
  version : UInt32
  path : String
  contentType : String
  size : UInt64
  commitMessage : String
  deriving DecidableEq

/-- A version opened for reading. -/
structure Download where
  fileName : String
  contentType : String
  size : UInt64
  version : UInt32
  /-- The chunks in order; an error is the last item. -/
  stream : List (Except VaultError ByteArray)

/-- The description of a file at one of its versions. -/
structure FileMetadata where
  fileId : String
  owner : String
  fileName : String
  fileType : String
  contentType : String
  size : UInt64
  /-- The version that the content type and the size belong to. -/
  version : UInt32
  currentVersion : UInt32
  createdAt : Timestamp
  updatedAt : Timestamp
  description : String
  tags : List String
  commitMessage : Option String
  deriving DecidableEq

/-- The description of a file at its current version. -/
def FileMetadata.current (file : FileRecord) (tags : List String) : FileMetadata where
  fileId := file.fileId
  owner := file.owner
  fileName := file.fileName
  fileType := file.fileType
  contentType := file.contentType
  size := file.size
  version := file.currentVersion
  currentVersion := file.currentVersion
  createdAt := file.createdAt
  updatedAt := file.updatedAt
  description := file.description
  tags
  commitMessage := none

/-- The description of a file at the version that a selector stands for. -/
def FileMetadata.at (file : FileRecord) (resolved : Resolved) (tags : List String) :
    FileMetadata :=
  { FileMetadata.current file tags with
    version := resolved.version
    contentType := resolved.contentType
    size := resolved.size
    commitMessage := some resolved.commitMessage }

/-- Filters, order and window of a listing as a caller gives them. -/
structure ListRequest where
  owner : Option String
  name : Option String
  fileType : Option String
  tag : Option String
  createdFrom : Option Timestamp
  createdTo : Option Timestamp
  updatedFrom : Option Timestamp
  updatedTo : Option Timestamp
  sort : Option String
  direction : Option String
  page : Int
  pageSize : Int

/-- One page of a listing. -/
structure Listing where
  items : List FileMetadata
  page : UInt32
  pageSize : UInt32
  total : Nat

/-- The answer to a revert. -/
structure RevertReceipt where
  fileId : String
  newVersion : UInt32
  revertedTo : UInt32
  deriving DecidableEq

/-- One entry of a file's history. -/
structure VersionInfo where
  version : UInt32
  size : UInt64
  contentType : String
  createdAt : Timestamp
  commitMessage : String
  isCurrent : Bool
  deriving DecidableEq

/-- How many lines a text gained and lost. -/
structure LineChanges where
  added : Nat
  removed : Nat
  deriving DecidableEq, Repr

/-- How two versions of a file differ. -/
structure VersionDiff where
  fromVersion : UInt32
  toVersion : UInt32
  sameContent : Bool
  sizeDelta : Int64
  contentTypeChanged : Bool
  /-- Counted only if both versions are text. -/
  lines : Option LineChanges
  deriving DecidableEq

/-- Descriptive changes of a file; what is not given stays. -/
structure MetadataUpdate where
  fileName : Option String
  fileType : Option String
  description : Option String
  /-- Names of tags between commas, which replace all tags of the file. -/
  tags : Option String

/-- The answer to a deletion of several files. -/
structure BatchDeletion where
  deleted : List String
  /-- The files that were unknown or deleted before. -/
  missing : List String
  deriving DecidableEq

end ContentVault
