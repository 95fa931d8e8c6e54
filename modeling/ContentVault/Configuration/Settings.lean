import ContentVault.Address
import ContentVault.BlobKey
import ContentVault.Configuration.Error
import ContentVault.Database.Driver
import ContentVault.Text.Utf8

/-!
# Settings

Everything that can be configured, with its defaults.

* unconfigured state lives in a data directory, which the defaults depend on;
* settings that can be read may still be unusable, and the first reason found is
  reported.
-/

namespace ContentVault

/-- Where the catalog is kept and how it is connected to. -/
structure DatabaseSettings where
  driver : Driver
  /-- A connection address, or the path of a file. -/
  dsn : String
  maxOpenConnections : UInt32
  maxIdleConnections : UInt32
  /-- Zero keeps connections forever. -/
  maxLifetimeSeconds : UInt64
  deriving DecidableEq

/-- The kind of store that keeps the blobs. -/
inductive StorageKind where
  | directory
  | bucket
  deriving DecidableEq, Repr

/-- Where blobs are kept. -/
structure StorageSettings where
  kind : StorageKind
  /-- The root of a store in a directory. -/
  root : String
  bucket : Option String
  region : String
  /-- The address of a service other than the usual one. -/
  endpoint : Option String
  keyId : Option String
  keySecret : Option String
  keyPrefix : Option String
  /-- Whether a missing bucket is created. -/
  createBucket : Bool
  deriving DecidableEq

/-- Limits of the vault. -/
structure EngineSettings where
  maxUploadSize : UInt64
  operationTimeoutSeconds : UInt64
  deriving DecidableEq

/-- What is logged. -/
structure LogSettings where
  filter : String
  deriving DecidableEq

/-- All settings. -/
structure Configuration where
  database : DatabaseSettings
  storage : StorageSettings
  engine : EngineSettings
  log : LogSettings
  deriving DecidableEq

/-- A path below a directory. -/
def joinPath (directory name : String) : String :=
  if directory = "" ∨ directory.endsWith "/" then
    directory ++ name
  else
    directory ++ "/" ++ name

/-- The bounds of the pool of connections. -/
def DatabaseSettings.pool (settings : DatabaseSettings) : PoolBounds where
  maxOpen := settings.maxOpenConnections
  minIdle := settings.maxIdleConnections
  maxLifetime :=
    if settings.maxLifetimeSeconds = 0 then none else some settings.maxLifetimeSeconds

namespace Configuration

/-- The settings of a vault that was not configured. -/
def default (dataDirectory : String) : Configuration where
  database := {
    driver := .sqlite
    dsn := joinPath dataDirectory "cairn.db"
    maxOpenConnections := 10
    maxIdleConnections := 2
    maxLifetimeSeconds := 3600 }
  storage := {
    kind := .directory
    root := joinPath dataDirectory "blobs"
    bucket := none
    region := "us-east-1"
    endpoint := none
    keyId := none
    keySecret := none
    keyPrefix := none
    createBucket := true }
  engine := {
    maxUploadSize := defaultUploadLimit
    operationTimeoutSeconds := 30 }
  log := { filter := "info" }

/-- Whether a setting has a value that is not blank. -/
def isPresent (value : Option String) : Bool :=
  value.any fun text => trim text ≠ ""

/-- Why a store cannot be opened with these settings. -/
def storageObjection? (storage : StorageSettings) : Option String :=
  match storage.kind with
  | .directory =>
      if isAbsolutePath (Utf8.encode storage.root) then
        none
      else
        some "storage.root must be an absolute path"
  | .bucket =>
      if !isPresent storage.bucket then
        some "storage.bucket is required for s3 storage"
      else if !isPresent storage.keyId then
        some "storage.key_id is required for s3 storage"
      else if !isPresent storage.keySecret then
        some "storage.key_secret is required for s3 storage"
      else
        none

/-- The first reason why the settings cannot work. -/
def objection? (configuration : Configuration) : Option String :=
  if configuration.engine.maxUploadSize = 0 then
    some "engine.max_upload_size must be greater than zero"
  else if configuration.engine.operationTimeoutSeconds = 0 then
    some "engine.operation_timeout_secs must be greater than zero"
  else if trim configuration.database.dsn = "" then
    some "database.dsn is required"
  else if configuration.database.maxOpenConnections = 0 then
    some "database.max_open_connections must be greater than zero"
  else
    storageObjection? configuration.storage

/-- Refuse settings that cannot work. -/
def validate (configuration : Configuration) : Except ConfigurationError Unit :=
  match configuration.objection? with
  | some reason => .error (.unusable reason)
  | none => .ok ()

end Configuration

end ContentVault
