import ContentVault.CommandLine.Command
import ContentVault.CommandLine.Error
import ContentVault.Configuration.Load
import ContentVault.Database.Connection
import ContentVault.Document.Pretty
import ContentVault.Vault.History
import ContentVault.Vault.Listing
import ContentVault.Vault.Manage
import ContentVault.Vault.Report
import ContentVault.Vault.Revert
import ContentVault.Vault.Upload

/-!
# Carrying out commands

How a command runs on files, on a bucket service and on the wall clock.

* the catalog is opened before the blobs, and both before the command is looked at;
* the directory of a database is created, where a plain path names the database;
* a download that breaks off keeps what was read until then;
* every other result is printed as indented JSON.
-/

namespace ContentVault

/-- Everything that a command can reach. -/
structure Machine where
  tree : FileTree
  environment : Environment
  service : BucketService
  now : Timestamp
  /-- The number of the running process. -/
  process : UInt32
  /-- What has been printed so far. -/
  printed : ByteArray

/-- A step of a command. -/
abbrev CommandAction (α : Type) := ExceptT CommandError (StateM Machine) α

/-- The stores of a vault with its settings. -/
structure Stores where
  connection : Connection
  blobs : BlobStore
  settings : VaultSettings

namespace CommandLine

/-- Do something with the files and raise its failure as an error. -/
def onFiles {ε α : Type} (raise : ε → CommandError)
    (run : FileTree → List PathName → Except ε α × FileTree) : CommandAction α :=
  fun machine =>
    let (outcome, tree) := run machine.tree machine.environment.workingDirectory
    (outcome.mapError raise, { machine with tree })

/-- Create the directory of a database that a plain path names. -/
def prepareDirectory (database : DatabaseSettings) : CommandAction Unit :=
  if database.driver = .sqlite ∧ ¬ database.dsn.startsWith "sqlite:" then
    match parentPath? (Utf8.encode database.dsn) with
    | none => pure ()
    | some parent => do
        let _ ← onFiles
          (fun _ : FileFailure => .inputOutput (Utf8.decodeBytesLossy parent))
          fun tree workingDirectory => tree.createPath workingDirectory parent
  else
    pure ()

/-- Connect to the catalog. -/
def openCatalog (database : DatabaseSettings) : CommandAction Connection := do
  prepareDirectory database
  onFiles .catalogOpening fun tree workingDirectory =>
    Connection.establish tree workingDirectory database.driver database.dsn

/-- Open a bucket, and create it where the settings say so. -/
def openBucket (storage : StorageSettings) : CommandAction BlobStore :=
  fun machine =>
    match BucketStore.normalPrefix? storage.keyPrefix with
    | .error failure => (.error (.blobOpening failure), machine)
    | .ok keyPrefix =>
        let store : BucketStore := ⟨machine.service, storage.region, keyPrefix⟩
        if storage.createBucket then
          let (outcome, store) := store.ensureBucket
          ((outcome.mapError .blobOpening).map fun () => .bucket store,
            { machine with service := store.service })
        else
          (.ok (.bucket store), machine)

/-- Open the store of the blobs. -/
def openBlobs (storage : StorageSettings) : CommandAction BlobStore :=
  match storage.kind with
  | .directory => fun machine =>
      let (outcome, tree) :=
        DirectoryStore.openAt machine.tree (Utf8.encode storage.root) machine.process
      ((outcome.mapError .blobOpening).map .directory, { machine with tree })
  | .bucket => openBucket storage

/-- Open both stores. -/
def openStores (configuration : Configuration) : CommandAction Stores := do
  let connection ← openCatalog configuration.database
  let blobs ← openBlobs configuration.storage
  return {
    connection
    blobs
    settings := {
      maxUploadSize := configuration.engine.maxUploadSize
      operationTimeout := configuration.engine.operationTimeoutSeconds.toNat * 1000 } }

/-- The machine after the vault has worked on its stores. -/
def afterVault (connection : Connection) (world : World) (machine : Machine) : Machine :=
  let tree :=
    match world.blobs with
    | .directory store => store.tree
    | _ => machine.tree
  let service :=
    match world.blobs with
    | .bucket store => store.service
    | _ => machine.service
  let snapshot := { connection.snapshot with tables := world.tables }
  { machine with tree := { connection with snapshot }.save tree, service }

/-- Carry out an operation of the vault.  A database that cannot be written fails
whatever would change it. -/
def runVault {α : Type} (stores : Stores) (action : VaultAction α) : CommandAction α :=
  fun machine =>
    let isWritable := stores.connection.isWritable
    let conditions : Conditions := {
      settings := stores.settings
      deadline := none
      now := machine.now
      faults := fun call _ =>
        if call.changes && !isWritable then some (.fail .database) else none }
    let world : World := {
      tables := stores.connection.snapshot.tables
      blobs := stores.blobs
      clock := 0
      calls := [] }
    let (outcome, world) := action conditions world
    (outcome.mapError .vault, afterVault stores.connection world machine)

/-- Print bytes. -/
def printBytes (content : ByteArray) : CommandAction Unit :=
  modify fun machine => { machine with printed := machine.printed ++ content }

/-- Print a document on lines of its own. -/
def print (document : Document) : CommandAction Unit :=
  printBytes (document.pretty ++ "\n").toUTF8

/-- The entry at a path. -/
def entryAt (path : String) (tree : FileTree) (workingDirectory : List PathName) :
    Except FileFailure FileEntry :=
  (tree.locate workingDirectory (Utf8.encode path)).bind tree.find

/-- The size that the operating system gives for a directory. -/
def directorySize : Nat := 4096

/-- Read the file to upload, unless it is too large. -/
def readPayload (path : String) (limit : UInt64) : CommandAction ByteArray := do
  let machine ← get
  match entryAt path machine.tree machine.environment.workingDirectory with
  | .error _ => throw (.inputOutput path)
  | .ok .directory =>
      if limit.toNat < directorySize then
        throw (.tooLarge path directorySize limit.toNat)
      else
        throw (.inputOutput path)
  | .ok (.file content) =>
      if limit.toNat < content.size then
        throw (.tooLarge path content.size limit.toNat)
      else
        return content

/-- The name under which a file is stored. -/
def storedName (file : UploadCommand) : CommandAction String :=
  match file.name, (lastName? (Utf8.encode file.path)).bind (Utf8.decode? ⟨·.toArray⟩) with
  | some name, _ => pure name
  | none, some name => pure name
  | none, none => throw (.usage "--name is required when the path has no file name")

/-- Upload a file. -/
def upload (stores : Stores) (owner? : Option String) (file : UploadCommand) :
    CommandAction Unit := do
  let some owner := owner?
    | throw (.usage "--owner (or CAIRN_OWNER) is required")
  let fileName ← storedName file
  let payload ← readPayload file.path stores.settings.maxUploadSize
  let receipt ← runVault stores (Vault.upload {
    owner
    fileName
    fileType := file.fileType
    contentType := file.contentType
    tags := file.tags
    description := file.description
    payload })
  print receipt.report

/-- What a stream yields up to its end or its first error, and that error. -/
def readStream (before : ByteArray) :
    List (Except VaultError ByteArray) → ByteArray × Option VaultError
  | [] => (before, none)
  | .ok chunk :: rest => readStream (before ++ chunk) rest
  | .error failure :: _ => (before, some failure)

/-- Write a file at a path. -/
def writeOutput (path : String) (content : ByteArray) : CommandAction Unit :=
  onFiles (fun _ : FileFailure => .inputOutput path) fun tree workingDirectory =>
    match (tree.locate workingDirectory (Utf8.encode path)).bind (tree.writeFile · content) with
    | .ok written => (.ok (), written)
    | .error failure => (.error failure, tree)

/-- Download a version to a file, or print it. -/
def download (stores : Stores) (fileId : String) (version : Option Int)
    (output : Option String) : CommandAction Unit := do
  let opened ← runVault stores (Vault.download fileId version)
  let (content, failure?) := readStream ByteArray.empty opened.stream
  match output with
  | some path => writeOutput path content
  | none => printBytes content
  match failure? with
  | some failure => throw (.vault failure)
  | none => pure ()

/-- A point in time that is given in seconds. -/
def timeOf (seconds : Option Int) : CommandAction (Option Timestamp) :=
  match seconds with
  | none => pure none
  | some seconds =>
      match Timestamp.ofSeconds? seconds with
      | some timestamp => pure (some timestamp)
      | none => throw (.usage "timestamp out of range")

/-- List files. -/
def list (stores : Stores) (owner : Option String) (filters : ListCommand) :
    CommandAction Unit := do
  let request : ListRequest := {
    owner
    name := filters.name
    fileType := filters.fileType
    tag := filters.tag
    createdFrom := ← timeOf filters.createdFrom
    createdTo := ← timeOf filters.createdTo
    updatedFrom := ← timeOf filters.updatedFrom
    updatedTo := ← timeOf filters.updatedTo
    sort := filters.sort
    direction := filters.direction
    page := filters.page
    pageSize := filters.pageSize }
  print (← runVault stores (Vault.list request)).report

/-- Delete one file, or several ones at once. -/
def delete (stores : Stores) : List String → CommandAction Unit
  | [fileId] => do
      runVault stores (Vault.delete fileId)
      print (.table [("deleted", .list [.text fileId])])
  | fileIds => do
      print (← runVault stores (Vault.batchDelete fileIds)).report

/-- Carry out a command on open stores. -/
def perform (stores : Stores) (owner : Option String) : Command → CommandAction Unit
  | .upload file => upload stores owner file
  | .download fileId version output => download stores fileId version output
  | .metadata fileId version => do
      print (← runVault stores (Vault.metadata fileId version)).report
  | .list filters => list stores owner filters
  | .revert fileId version => do
      print (← runVault stores (Vault.revert fileId version)).report
  | .delete fileIds => delete stores fileIds
  | .versions fileId => do
      let history ← runVault stores (Vault.versions fileId)
      print (.list (history.map VersionInfo.report))
  | .diff fileId fromNumber toNumber => do
      print (← runVault stores (Vault.diff fileId fromNumber toNumber)).report
  | .update fileId changes => do
      print (← runVault stores (Vault.updateMetadata fileId changes)).report

end CommandLine

open CommandLine in
/-- Carry out a command line with a configuration. -/
def Invocation.run (invocation : Invocation) (configuration : Configuration) :
    CommandAction Unit := do
  let stores ← openStores configuration
  perform stores invocation.owner invocation.command

/-- Read a command line, load the configuration and do what is asked for. -/
def Machine.execute (machine : Machine) (words : List String) :
    Except CommandLineError Unit × Machine :=
  match Invocation.read machine.environment.bindings words with
  | .error reason => (.error (.usage reason), machine)
  | .ok invocation =>
      match Configuration.load machine.tree machine.environment invocation.configurationFile with
      | .error reason => (.error (.configuration reason), machine)
      | .ok configuration =>
          let (outcome, machine) := invocation.run configuration machine
          (outcome.mapError .command, machine)

end ContentVault
