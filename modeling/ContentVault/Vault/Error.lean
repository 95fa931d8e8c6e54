import ContentVault.Blob.Error
import ContentVault.Catalog.Error
import ContentVault.Text.Quoted

/-!
# Errors of the vault

What a caller of the vault learns when an operation fails, and the failures of
the stores below it.

* an invalid request is refused before any store is asked;
* a failure of a store says which store and whether it was read or written, and
  keeps what the store said;
* an operation that would have to count beyond the range of its numbers breaks off.
-/

namespace ContentVault

/-- Why a call to a store gave no answer. -/
inductive StoreFailure where
  | timedOut
  | catalog (error : CatalogError)
  | blob (error : BlobError)
  deriving DecidableEq, Repr

/-- Why an operation of the vault failed. -/
inductive VaultError where
  | validation (reason : String)
  /-- The content is stored already; the catalog may have said so only when the
  file was registered. -/
  | duplicateContent (fileId : String) (cause : Option CatalogError)
  | notFound (subject : String)
  | storageWrite (cause : StoreFailure)
  | storageRead (cause : StoreFailure)
  | catalogWrite (cause : StoreFailure)
  | catalogRead (cause : StoreFailure)
  /-- A number would have left its range.  The caller gets no answer at all: the operation
  broke off where it stood. -/
  | overflow
  deriving DecidableEq, Repr

namespace VaultError

/-- The text of an error. -/
def message : VaultError → String
  | .validation reason => "invalid request: " ++ reason
  | .duplicateContent fileId _ => "content already stored as " ++ fileId
  | .notFound subject => "not found: " ++ subject
  | .storageWrite _ => "blob store write failed"
  | .storageRead _ => "blob store read failed"
  | .catalogWrite _ => "metadata store write failed"
  | .catalogRead _ => "metadata store read failed"
  | .overflow => "attempt to add with overflow"

/-- Whether a second attempt might succeed. -/
def retryable : VaultError → Bool
  | .storageWrite _ | .storageRead _ | .catalogWrite _ | .catalogRead _ => true
  | .validation _ | .duplicateContent _ _ | .notFound _ | .overflow => false

/-- What the stores said, if the error came from a store. -/
def cause? : VaultError → Option StoreFailure
  | .storageWrite cause | .storageRead cause | .catalogWrite cause | .catalogRead cause =>
      some cause
  | .duplicateContent _ cause => cause.map .catalog
  | .validation _ | .notFound _ | .overflow => none

/-- The refusal of an owner that cannot be a segment of a path. -/
def badOwner (owner : String) : VaultError :=
  .validation ("owner " ++ quoted owner ++ " is not a valid path segment")

/-- The refusal of a file without a name. -/
def emptyFileName : VaultError := .validation "file name is empty"

/-- The refusal of a payload without bytes. -/
def emptyPayload : VaultError := .validation "payload is empty"

/-- The refusal of a payload above the limit. -/
def payloadTooLarge (size limit : Nat) : VaultError :=
  .validation
    ("payload of " ++ toString size ++ " bytes exceeds the limit of " ++ toString limit ++
      " bytes")

/-- The refusal of a version number that no version can have. -/
def badVersion (number : Int) : VaultError :=
  .validation ("version " ++ toString number ++ " is not a positive number")

/-- The refusal of a deletion that names no file. -/
def noFileIds : VaultError := .validation "no file ids given"

/-- The refusal of an update that changes nothing. -/
def nothingToUpdate : VaultError := .validation "nothing to update"

/-- The absence of a live file. -/
def noFile (fileId : String) : VaultError := .notFound ("file " ++ fileId)

/-- The absence of a version. -/
def noVersion (number : Int) (fileId : String) : VaultError :=
  .notFound ("version " ++ toString number ++ " of file " ++ fileId)

end VaultError

end ContentVault
