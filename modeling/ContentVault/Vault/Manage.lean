import ContentVault.Text.Blank
import ContentVault.Vault.Resolve
import ContentVault.Vault.Tags

/-!
# Trash and description

* a deleted file keeps its blobs and versions and is found by no later read;
* a deletion of several files happens as a whole; files that were not live are
  reported and do not stop it;
* an update changes the given fields and, if tags are given, replaces them all.
-/

namespace ContentVault.Vault

/-- Move a file to the trash. -/
def delete (fileId : String) : VaultAction Unit := do
  let trashed ← bounded .catalogWrite (.trash [fileId] (← wallClock))
  if trashed = [] then
    throw (.noFile fileId)

/-- Move several files to the trash. -/
def batchDelete (fileIds : List String) : VaultAction BatchDeletion := do
  let unique := firstMentions [] (fileIds.filterMap nonBlank?)
  if unique = [] then
    throw .noFileIds
  let deleted ← bounded .catalogWrite (.trash unique (← wallClock))
  return { deleted, missing := unique.filter fun fileId => !deleted.contains fileId }

/-- The fields of an update, or why it is refused. -/
def checkUpdate (update : MetadataUpdate) : Except VaultError FileDetails :=
  if update.fileName.isNone && update.fileType.isNone && update.description.isNone &&
      update.tags.isNone then
    .error .nothingToUpdate
  else
    let fileName := update.fileName.map trim
    if fileName = some "" then
      .error .emptyFileName
    else
      .ok ⟨fileName, update.fileType.map trim, update.description⟩

/-- Change the description of a file. -/
def updateMetadata (fileId : String) (update : MetadataUpdate) : VaultAction FileMetadata := do
  match checkUpdate update with
  | .error refusal => throw refusal
  | .ok details =>
      let tags := update.tags.map parseTags
      let updated ←
        bounded .catalogWrite (.updateDetails fileId details tags (← wallClock))
      if !updated then
        throw (.noFile fileId)
      metadata fileId none

end ContentVault.Vault
