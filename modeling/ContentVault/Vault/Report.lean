import ContentVault.Document.Basic
import ContentVault.Vault.Operation

/-!
# Reports

What the vault's answers look like as data, for printing.

* times are whole seconds since the start of 1970;
* what is optional and not there is left out.
-/

namespace ContentVault

namespace Report

/-- A number. -/
def number (value : Nat) : Document := .integer value

/-- A point in time. -/
def time (timestamp : Timestamp) : Document := .integer timestamp.seconds

/-- A list of texts. -/
def texts (values : List String) : Document := .list (values.map .text)

/-- An entry that is left out if it has no value. -/
def optional (name : String) (value : Option Document) : List (String × Document) :=
  match value with
  | some document => [(name, document)]
  | none => []

end Report

open Report

/-- A warning as data. -/
def UploadWarning.report : UploadWarning → Document
  | .tagAssociation tags reason =>
      .table [("kind", .text "tag_association"), ("tags", texts tags), ("reason", .text reason)]

/-- The answer to an upload as data. -/
def UploadReceipt.report (receipt : UploadReceipt) : Document :=
  .table ([
    ("file_id", .text receipt.fileId),
    ("file_name", .text receipt.fileName),
    ("content_type", .text receipt.contentType),
    ("size", number receipt.size.toNat),
    ("version", number receipt.version.toNat)] ++
    optional "warnings"
      (if receipt.warnings.isEmpty then
        none
      else
        some (.list (receipt.warnings.map UploadWarning.report))))

/-- A resolved version as data. -/
def Resolved.report (resolved : Resolved) : Document :=
  .table [
    ("version", number resolved.version.toNat),
    ("path", .text resolved.path),
    ("content_type", .text resolved.contentType),
    ("size", number resolved.size.toNat),
    ("commit_message", .text resolved.commitMessage)]

/-- The description of a file as data. -/
def FileMetadata.report (file : FileMetadata) : Document :=
  .table ([
    ("file_id", .text file.fileId),
    ("owner", .text file.owner),
    ("file_name", .text file.fileName),
    ("file_type", .text file.fileType),
    ("content_type", .text file.contentType),
    ("size", number file.size.toNat),
    ("version", number file.version.toNat),
    ("current_version", number file.currentVersion.toNat),
    ("created_at", time file.createdAt),
    ("updated_at", time file.updatedAt),
    ("description", .text file.description),
    ("tags", texts file.tags)] ++
    optional "commit_message" (file.commitMessage.map .text))

/-- A page of a listing as data. -/
def Listing.report (listing : Listing) : Document :=
  .table [
    ("items", .list (listing.items.map FileMetadata.report)),
    ("page", number listing.page.toNat),
    ("page_size", number listing.pageSize.toNat),
    ("total", number listing.total)]

/-- The answer to a revert as data. -/
def RevertReceipt.report (receipt : RevertReceipt) : Document :=
  .table [
    ("file_id", .text receipt.fileId),
    ("new_version", number receipt.newVersion.toNat),
    ("reverted_to", number receipt.revertedTo.toNat)]

/-- An entry of a file's history as data. -/
def VersionInfo.report (version : VersionInfo) : Document :=
  .table [
    ("version", number version.version.toNat),
    ("size", number version.size.toNat),
    ("content_type", .text version.contentType),
    ("created_at", time version.createdAt),
    ("commit_message", .text version.commitMessage),
    ("current", .boolean version.isCurrent)]

/-- Changed lines as data. -/
def LineChanges.report (lines : LineChanges) : Document :=
  .table [("added", number lines.added), ("removed", number lines.removed)]

/-- The difference of two versions as data. -/
def VersionDiff.report (difference : VersionDiff) : Document :=
  .table ([
    ("from", number difference.fromVersion.toNat),
    ("to", number difference.toVersion.toNat),
    ("same_content", .boolean difference.sameContent),
    ("size_delta", .integer difference.sizeDelta.toInt),
    ("content_type_changed", .boolean difference.contentTypeChanged)] ++
    optional "lines" (difference.lines.map LineChanges.report))

/-- The answer to a deletion of several files as data. -/
def BatchDeletion.report (deletion : BatchDeletion) : Document :=
  .table [("deleted", texts deletion.deleted), ("missing", texts deletion.missing)]

end ContentVault
