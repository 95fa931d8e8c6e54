import ContentVault.Address
import ContentVault.MediaType
import ContentVault.Vault.Saga
import ContentVault.Vault.Tags
import ContentVault.Vault.World

/-!
# Uploads

Storing new content under its address.

* a request is checked before any store is asked;
* content that the catalog or the blob store already knows is refused;
* the blob is written first and the file registered second; if that fails, the
  blob is removed again, unless a rival's file refers to it;
* tags are attached after the commit, and a failure there is only a warning.
-/

namespace ContentVault

/-- The message of a file's first version. -/
def initialCommitMessage : String := "Initial upload"

/-- A control character. -/
def isControl (character : Char) : Bool :=
  character.toNat < 0x20 || (0x7F ≤ character.toNat && character.toNat < 0xA0)

/-- Whether an owner can be exactly one segment of a path. -/
def isSafeOwner (owner : String) : Bool :=
  owner ≠ "" && owner ≠ "." && owner ≠ ".." &&
    owner.toList.all fun character =>
      character ≠ '/' && character ≠ '\\' && !isControl character

/-- The type of a file: what was declared, or the name's extension in lowercase. -/
def fileTypeOf (fileName : String) (declared : Option String) : String :=
  match declared.bind nonBlank? with
  | some fileType => fileType
  | none =>
      match pathExtension? (Utf8.encode fileName) with
      | some extension => lowercase (Utf8.decodeBytesLossy extension)
      | none => ""

namespace Vault

/-- Check a request against the settings; the answer is the trimmed file name. -/
def checkUpload (settings : VaultSettings) (request : UploadRequest) :
    Except VaultError String :=
  if !isSafeOwner request.owner then
    .error (.badOwner request.owner)
  else
    match nonBlank? request.fileName with
    | none => .error .emptyFileName
    | some fileName =>
        if request.payload.size = 0 then
          .error .emptyPayload
        else if settings.maxUploadSize.toNat < request.payload.size then
          .error (.payloadTooLarge request.payload.size settings.maxUploadSize.toNat)
        else
          .ok fileName

/-- The file that an upload registers. -/
def uploadedFile (request : UploadRequest) (fileName : String) (now : Timestamp) :
    FileRecord :=
  let fileId := fileIdOf request.payload
  { fileId
    owner := request.owner
    fileName
    fileType := fileTypeOf fileName request.fileType
    contentType := MediaType.classify request.payload fileName request.contentType
    size := request.payload.size.toUInt64
    path := storagePath request.owner now fileId
    createdAt := now
    updatedAt := now
    currentVersion := 1
    description := request.description
    status := .active
    trashedAt := none }

/-- The first version of a file that an upload registers. -/
def firstVersionOf (file : FileRecord) : VersionRecord :=
  .make file.fileId 1 file.size file.path file.contentType file.createdAt
    initialCommitMessage

/-- Refuse content that the catalog or the blob store knows. -/
def ensureUnique (fileId path : String) : VaultAction Unit := do
  let existing ← bounded .catalogRead (.fileRecord fileId)
  if existing.isSome then
    throw (.duplicateContent fileId none)
  match ← attempt (.statBlob path) with
  | .ok _ => throw (.duplicateContent fileId none)
  | .error (.blob failure) =>
      if failure.isNotFound then
        return ()
      else
        throw (.storageRead (.blob failure))
  | .error failure => throw (.storageRead failure)

/-- Remove a blob whose file was not registered, unless a registered file has the
same path. -/
def removeOrphan (fileId path : String) : VaultAction Unit :=
  fun conditions world =>
    match detached .catalogRead (.fileRecord fileId) conditions world with
    | (.ok (some winner), world) =>
        if winner.path = path then
          (.ok (), world)
        else
          detached .storageWrite (.deleteBlob path) conditions world
    | (_, world) => detached .storageWrite (.deleteBlob path) conditions world

/-- Register a file; that it is known already is told apart from other failures. -/
def registerFile (file : FileRecord) (version : VersionRecord) : VaultAction Unit := do
  match ← attempt (.createFile file version) with
  | .ok () => return ()
  | .error (.catalog (.duplicate fileId)) =>
      throw (.duplicateContent file.fileId (some (.duplicate fileId)))
  | .error failure => throw (.catalogWrite failure)

/-- Write the blob and register the file, or leave nothing behind. -/
def storeContent (file : FileRecord) (payload : ByteArray) : VaultAction Unit :=
  fun conditions world =>
    let write : VaultAction Unit :=
      bounded .storageWrite (.writeBlob file.path payload file.contentType)
    let register := registerFile file (firstVersionOf file)
    match Saga.start.runCompensable (write conditions)
        (fun _ => removeOrphan file.fileId file.path conditions) world with
    | (.error failure, _, world) => (.error failure, world)
    | (.ok (), saga, world) =>
        let (outcome, _, world) := saga.run (register conditions) world
        (outcome, world)

/-- Attach tags to a file that was just committed. -/
def attachUploadTags (fileId : String) (tags : List String) :
    VaultAction (List UploadWarning) := do
  if tags = [] then
    return []
  match ← attempt (.attachTags fileId tags) with
  | .ok _ => return []
  | .error failure =>
      return [.tagAssociation tags (VaultError.catalogWrite failure).message]

/-- Store a new file as its version 1. -/
def upload (request : UploadRequest) : VaultAction UploadReceipt := do
  let conditions ← read
  let fileName ← liftExcept (checkUpload conditions.settings request)
  let file := uploadedFile request fileName conditions.now
  ensureUnique file.fileId file.path
  storeContent file request.payload
  let warnings ← attachUploadTags file.fileId (parseTags request.tags)
  return {
    fileId := file.fileId
    fileName := file.fileName
    contentType := file.contentType
    size := file.size
    version := 1
    warnings }
where
  /-- Raise a refusal. -/
  liftExcept {α : Type} (checked : Except VaultError α) : VaultAction α :=
    fun _ world => (checked, world)

end Vault

end ContentVault
