import ContentVault.MediaType
import ContentVault.Vault.LineChanges
import ContentVault.Vault.Resolve

/-!
# History

Listing and comparing the versions of a file.

* two versions with the same path have the same content, and nothing is read;
* lines are counted only if both versions are text, which means reading both;
* other versions are read only if their sizes agree.
-/

namespace ContentVault.Vault

/-- Every version of a live file, oldest first. -/
def versions (fileId : String) : VaultAction (List VersionInfo) := do
  let file ← liveFile fileId
  let rows ← bounded .catalogRead (.listVersions fileId)
  return rows.map fun row =>
    { version := row.number
      size := row.size
      contentType := row.contentType
      createdAt := row.createdAt
      commitMessage := row.commitMessage
      isCurrent := row.number == file.currentVersion }

/-- One version of a file by its number. -/
def version (fileId : String) (number : Int) : VaultAction VersionRecord := do
  if number ≤ 0 then
    throw (.badVersion number)
  match versionNumber? number with
  | none => throw (.noVersion number fileId)
  | some wanted =>
      match ← bounded .catalogRead (.getVersion fileId wanted) with
      | some found => return found
      | none => throw (.noVersion number fileId)

/-- The bytes of a blob. -/
def blobContent (path : String) : VaultAction ByteArray :=
  bounded .storageRead (.readBlob path)

/-- Whether two versions have the same content, and how their lines differ. -/
def compareContent (before after : VersionRecord) :
    VaultAction (Bool × Option LineChanges) := do
  let textual := MediaType.isTextual before.contentType && MediaType.isTextual after.contentType
  if before.path = after.path then
    return (true, if textual then some ⟨0, 0⟩ else none)
  else if textual then
    let old ← blobContent before.path
    let new ← blobContent after.path
    return (old == new, some (lineChanges (Utf8.decodeLossy old) (Utf8.decodeLossy new)))
  else if before.size = after.size then
    let old ← blobContent before.path
    let new ← blobContent after.path
    return (old == new, none)
  else
    return (false, none)

/-- Compare two versions of a live file. -/
def diff (fileId : String) (fromNumber toNumber : Int) : VaultAction VersionDiff := do
  let _ ← liveFile fileId
  let before ← version fileId fromNumber
  let after ← version fileId toNumber
  let (sameContent, lines) ← compareContent before after
  return {
    fromVersion := before.number
    toVersion := after.number
    sameContent
    sizeDelta := after.size.toInt64 - before.size.toInt64
    contentTypeChanged := before.contentType ≠ after.contentType
    lines }

end ContentVault.Vault
