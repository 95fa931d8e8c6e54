import ContentVault.Blob.Store
import ContentVault.Catalog.Work
import ContentVault.Vault.Models

/-!
# Two stores, a clock and a deadline

The state on which the vault's operations run, and how they call the stores.

* the state holds the catalog's tables, the blobs, a clock that only waiting
  moves, and the calls made so far;
* the conditions of an operation are its settings, deadline, reading of the wall
  clock and the faults that the catalog will show;
* a call that would wait longer than it may is given up at the limit and has no
  effect.
-/

namespace ContentVault

/-- The calls that the vault makes to the catalog. -/
inductive CatalogCall where
  | fileRecord
  | getFile
  | getVersion
  | listVersions
  | createFile
  | attachTags
  | findTag
  | tagsForFile
  | tagsForFiles
  | listFiles
  | appendVersion
  | updateDetails
  | trash
  deriving DecidableEq, Repr

/-- Whether a call can change what the catalog stores. -/
def CatalogCall.changes : CatalogCall → Bool
  | .createFile | .attachTags | .appendVersion | .updateDetails | .trash => true
  | _ => false

/-- The name of a call. -/
def CatalogCall.name : CatalogCall → String
  | .fileRecord => "file_record"
  | .getFile => "get_file"
  | .getVersion => "get_version"
  | .listVersions => "list_versions"
  | .createFile => "create_file"
  | .attachTags => "attach_tags"
  | .findTag => "find_tag"
  | .tagsForFile => "tags_for_file"
  | .tagsForFiles => "tags_for_files"
  | .listFiles => "list_files"
  | .appendVersion => "append_version"
  | .updateDetails => "update_details"
  | .trash => "trash"

/-- The calls that the vault makes to either store. -/
inductive StoreCall where
  | catalog (call : CatalogCall)
  | blob (operation : BlobOperation) (path : String)
  deriving DecidableEq, Repr

/-- How a call to the catalog goes wrong. -/
inductive Fault where
  /-- The call fails at once. -/
  | fail (error : CatalogError)
  /-- The call never returns. -/
  | hang
  /-- The call waits before it is carried out. -/
  | delay (milliseconds : Nat)
  /-- Somebody else registers the file first, as an owner and under a path. -/
  | loseRace (owner : String) (path : Option String)
  deriving DecidableEq, Repr

/-- Limits of a vault. -/
structure VaultSettings where
  /-- The size of the largest payload, in bytes. -/
  maxUploadSize : UInt64
  /-- The time that a single call may take, in milliseconds. -/
  operationTimeout : Nat

/-- The settings of a vault that was not configured. -/
def VaultSettings.default : VaultSettings := ⟨16777216, 30000⟩

/-- What an operation of the vault runs under. -/
structure Conditions where
  settings : VaultSettings
  /-- The reading of the clock at which every call is given up. -/
  deadline : Option Nat
  /-- The reading of the wall clock. -/
  now : Timestamp
  /-- The fault of a call, by how many calls of its kind came before it. -/
  faults : CatalogCall → Nat → Option Fault

/-- The catalog without faults. -/
def noFaults : CatalogCall → Nat → Option Fault := fun _ _ => none

/-- The state on which operations run. -/
structure World where
  tables : Tables
  blobs : BlobStore
  /-- Milliseconds that have passed by waiting. -/
  clock : Nat
  /-- The calls made so far, newest first. -/
  calls : List StoreCall

/-- An operation of the vault. -/
abbrev VaultAction (α : Type) := ReaderT Conditions (ExceptT VaultError (StateM World)) α

/-- A call to a store that may take a limited time. -/
abbrev StoreRequest (α : Type) := Conditions → Nat → World → Except StoreFailure α × World

namespace World

/-- Let time pass. -/
def advance (world : World) (milliseconds : Nat) : World :=
  { world with clock := world.clock + milliseconds }

/-- Wait for some time, or forever, but no longer than a limit; the answer is
whether the waiting came to its end. -/
def waitAtMost (world : World) (limit : Nat) (wait : Option Nat) : Bool × World :=
  match wait with
  | some milliseconds =>
      if milliseconds ≤ limit then
        (true, world.advance milliseconds)
      else
        (false, world.advance limit)
  | none => (false, world.advance limit)

/-- Note a call. -/
def record (world : World) (call : StoreCall) : World :=
  { world with calls := call :: world.calls }

/-- How often a call to the catalog has been made. -/
def callCount (world : World) (call : CatalogCall) : Nat :=
  world.calls.count (.catalog call)

end World

namespace StoreRequest

/-- Carry out a call on the tables. -/
def onTables {α : Type} (run : Tables → Except CatalogError α × Tables) (world : World) :
    Except StoreFailure α × World :=
  let (answer, tables) := run world.tables
  (answer.mapError .catalog, { world with tables })

/-- Carry out a call on the tables after a wait that may be too long. -/
def afterWaiting {α : Type} (limit : Nat) (wait : Option Nat)
    (run : World → Except StoreFailure α × World) (world : World) :
    Except StoreFailure α × World :=
  match world.waitAtMost limit wait with
  | (true, world) => run world
  | (false, world) => (.error .timedOut, world)

/-- A call to the catalog.  A rival changes the tables first where a fault says
so. -/
def toCatalog {α : Type} (call : CatalogCall)
    (rival : String → Option String → Tables → Tables)
    (run : Tables → Except CatalogError α × Tables) : StoreRequest α :=
  fun conditions limit world =>
    let fault := conditions.faults call (world.callCount call)
    let world := world.record (.catalog call)
    match fault with
    | none => onTables run world
    | some (.fail error) => (.error (.catalog error), world)
    | some .hang => afterWaiting limit none (onTables run) world
    | some (.delay milliseconds) =>
        afterWaiting limit (some milliseconds) (onTables run) world
    | some (.loseRace owner path) =>
        onTables run { world with tables := rival owner path world.tables }

/-- A call to the catalog that nobody else interferes with. -/
def change {α : Type} (call : CatalogCall)
    (run : Tables → Except CatalogError α × Tables) : StoreRequest α :=
  toCatalog call (fun _ _ tables => tables) run

/-- A call to the catalog that leaves the tables alone. -/
def read {α : Type} (call : CatalogCall) (run : Tables → Except CatalogError α) :
    StoreRequest α :=
  change call fun tables => (run tables, tables)

/-- A call to the blob store. -/
def toBlobs {α : Type} (operation : BlobOperation) (path : String)
    (run : List UInt8 → Timestamp → BlobStore → Except BlobError α × BlobStore) :
    StoreRequest α :=
  fun conditions limit world =>
    let world := world.record (.blob operation path)
    afterWaiting limit (some world.blobs.latency)
      (fun world =>
        let (answer, blobs) := run (Utf8.encode path) conditions.now world.blobs
        (answer.mapError .blob, { world with blobs }))
      world

/-- Look up a file, trashed or not. -/
def fileRecord (fileId : String) : StoreRequest (Option FileRecord) :=
  read .fileRecord fun tables => tables.fileRecord fileId

/-- Look up a live file. -/
def getFile (fileId : String) : StoreRequest (Option FileRecord) :=
  read .getFile fun tables => tables.getFile fileId

/-- Look up a version. -/
def getVersion (fileId : String) (number : UInt32) : StoreRequest (Option VersionRecord) :=
  read .getVersion fun tables => tables.getVersion fileId number

/-- List the versions of a file. -/
def listVersions (fileId : String) : StoreRequest (List VersionRecord) :=
  read .listVersions fun tables => tables.listVersions fileId

/-- Look up a tag by its name. -/
def findTag (name : String) : StoreRequest (Option Tag) :=
  read .findTag fun tables => tables.findTag name

/-- List the tags of a file. -/
def tagsForFile (fileId : String) : StoreRequest (List String) :=
  read .tagsForFile fun tables => tables.tagsForFile fileId

/-- List the tags of several files. -/
def tagsForFiles (fileIds : List String) : StoreRequest (List (String × List String)) :=
  read .tagsForFiles fun tables => tables.tagsForFiles fileIds

/-- List files. -/
def listFiles (query : FileQuery) : StoreRequest (Page FileRecord) :=
  read .listFiles fun tables => tables.listFiles query

/-- Register a file with its first version.  A rival registers the same file and
version under another owner and path. -/
def createFile (file : FileRecord) (version : VersionRecord) : StoreRequest Unit :=
  toCatalog .createFile
    (fun owner path tables =>
      let path := path.getD file.path
      (tables.createFile { file with owner, path } { version with path }).2)
    fun tables => tables.createFile file version

/-- Link a file to tags. -/
def attachTags (fileId : String) (names : List String) : StoreRequest (List Tag) :=
  change .attachTags fun tables => tables.attachTags fileId names

/-- Append a version. -/
def appendVersion (version : VersionRecord) (expected : UInt32) : StoreRequest Unit :=
  change .appendVersion fun tables => tables.appendVersion version expected

/-- Change the description and the tags of a live file. -/
def updateDetails
    (fileId : String) (details : FileDetails) (tags : Option (List String))
    (changedAt : Timestamp) : StoreRequest Bool :=
  change .updateDetails fun tables => tables.updateDetails fileId details tags changedAt

/-- Move live files to the trash. -/
def trash (fileIds : List String) (trashedAt : Timestamp) : StoreRequest (List String) :=
  change .trash fun tables => tables.trash fileIds trashedAt

/-- Describe a blob. -/
def statBlob (path : String) : StoreRequest BlobStat :=
  toBlobs .stat path fun bytes now blobs => blobs.stat bytes now

/-- Open a blob for reading. -/
def openBlob (path : String) : StoreRequest BlobStream :=
  toBlobs .read path fun bytes _ blobs => blobs.reader bytes

/-- Read a whole blob. -/
def readBlob (path : String) : StoreRequest ByteArray :=
  toBlobs .read path fun bytes _ blobs => blobs.read bytes

/-- Store a blob. -/
def writeBlob (path : String) (content : ByteArray) (contentType : String) :
    StoreRequest Unit :=
  toBlobs .write path fun bytes now blobs => blobs.write bytes content (some contentType) now

/-- Delete a blob. -/
def deleteBlob (path : String) : StoreRequest Unit :=
  toBlobs .delete path fun bytes _ blobs => blobs.delete bytes

end StoreRequest

namespace Vault

/-- The time that the next call may take: what the settings allow, and no more
than is left until the deadline. -/
def timeLimit (conditions : Conditions) (world : World) : Nat :=
  match conditions.deadline with
  | none => conditions.settings.operationTimeout
  | some deadline => min conditions.settings.operationTimeout (deadline - world.clock)

/-- Make a call before the deadline and hand on its outcome. -/
def attempt {α : Type} (request : StoreRequest α) : VaultAction (Except StoreFailure α) :=
  fun conditions world =>
    let (outcome, world) := request conditions (timeLimit conditions world) world
    (.ok outcome, world)

/-- Raise the failure of a call as an error of the vault. -/
def raiseAs {α : Type} (raise : StoreFailure → VaultError) :
    Except StoreFailure α → Except VaultError α
  | .ok value => .ok value
  | .error failure => .error (raise failure)

/-- Make a call before the deadline and raise its failure as an error. -/
def bounded {α : Type} (raise : StoreFailure → VaultError) (request : StoreRequest α) :
    VaultAction α :=
  fun conditions world =>
    let (outcome, world) := request conditions (timeLimit conditions world) world
    (raiseAs raise outcome, world)

/-- Make a call that takes no notice of the deadline, so that it can undo what an
operation did before it ran out of time. -/
def detached {α : Type} (raise : StoreFailure → VaultError) (request : StoreRequest α) :
    VaultAction α :=
  fun conditions world =>
    let (outcome, world) := request conditions conditions.settings.operationTimeout world
    (raiseAs raise outcome, world)

/-- The reading of the wall clock. -/
def wallClock : VaultAction Timestamp :=
  fun conditions world => (.ok conditions.now, world)

end Vault

end ContentVault
