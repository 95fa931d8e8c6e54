import ContentVault.Vault.World

/-!
# Selecting, describing and reading versions

* a selector that is absent or not positive stands for the current version, which
  the file's own row describes;
* a download is opened before the deadline and read at the reader's pace; its
  stream ends with the first error.
-/

namespace ContentVault.Vault

/-- The number that an integer stands for, if versions can have it. -/
def versionNumber? (number : Int) : Option UInt32 :=
  if 0 ≤ number ∧ number < 0x100000000 then some (UInt32.ofNat number.toNat) else none

/-- The live file with an identifier. -/
def liveFile (fileId : String) : VaultAction FileRecord := do
  match ← bounded .catalogRead (.getFile fileId) with
  | some file => return file
  | none => throw (.noFile fileId)

/-- The current version of a file as its row describes it. -/
def resolveCurrent (file : FileRecord) : VaultAction Resolved := do
  let version ← bounded .catalogRead (.getVersion file.fileId file.currentVersion)
  return {
    version := file.currentVersion
    path := file.path
    contentType := file.contentType
    size := file.size
    commitMessage := (version.map VersionRecord.commitMessage).getD "" }

/-- The version of a file with a positive number. -/
def resolveNumber (file : FileRecord) (number : Int) : VaultAction Resolved := do
  match versionNumber? number with
  | none => throw (.noVersion number file.fileId)
  | some wanted =>
      match ← bounded .catalogRead (.getVersion file.fileId wanted) with
      | none => throw (.noVersion number file.fileId)
      | some version =>
          return {
            version := version.number
            path := version.path
            contentType := version.contentType
            size := version.size
            commitMessage := version.commitMessage }

/-- The version of a file that a selector stands for. -/
def resolveIn (file : FileRecord) (selector : Option Int) : VaultAction Resolved :=
  match selector with
  | none => resolveCurrent file
  | some number => if 0 < number then resolveNumber file number else resolveCurrent file

/-- The version that a selector stands for. -/
def resolve (fileId : String) (selector : Option Int) : VaultAction Resolved := do
  let file ← liveFile fileId
  resolveIn file selector

/-- The stream of a download: the first error ends it and is a failed read. -/
def downloadStream : BlobStream → List (Except VaultError ByteArray)
  | [] => []
  | .ok chunk :: rest => .ok chunk :: downloadStream rest
  | .error failure :: _ => [.error (.storageRead (.blob failure))]

/-- Open a version for reading. -/
def download (fileId : String) (selector : Option Int) : VaultAction Download := do
  let file ← liveFile fileId
  let resolved ← resolveIn file selector
  let stream ← bounded .storageRead (.openBlob resolved.path)
  return {
    fileName := file.fileName
    contentType := resolved.contentType
    size := resolved.size
    version := resolved.version
    stream := downloadStream stream }

/-- Describe a version of a file with its tags. -/
def metadata (fileId : String) (selector : Option Int) : VaultAction FileMetadata := do
  let file ← liveFile fileId
  let resolved ← resolveIn file selector
  let tags ← bounded .catalogRead (.tagsForFile fileId)
  return FileMetadata.at file resolved tags

end ContentVault.Vault
