import ContentVault.Configuration.Settings
import ContentVault.Document.Basic

/-!
# Settings from a document

How settings are taken from a tree of data.

* a section is a table of settings by name, or a list of them in order; what is
  not mentioned keeps its default, and unknown names are ignored;
* no value is converted: a number is no text, and a text is no number;
* a setting without a default can be absent, every other one has to have a value
  of its type.
-/

namespace ContentVault

/-- Settings of a section, taken from it or from its defaults. -/
abbrev Extraction (α : Type) := Except ConfigurationError α

namespace Extraction

/-- The value for a setting that stands at a place of its section. -/
def entry? (section? : Option Document) (place : Nat) (name : String) : Option Document :=
  match section? with
  | some (.table entries) => Table.get? entries name
  | some (.list items) => items[place]?
  | _ => none

/-- A value that does not have the type of its setting. -/
def mismatch {α : Type} (name expected : String) : Extraction α :=
  .error (.malformed (name ++ " is not " ++ expected))

/-- Take a setting, or keep its default. -/
def setting {α : Type}
    (section? : Option Document) (place : Nat) (name : String)
    (read : String → Document → Extraction α) (default : α) : Extraction α :=
  match entry? section? place name with
  | some value => read name value
  | none => .ok default

/-- A text. -/
def text (name : String) : Document → Extraction String
  | .text value => .ok value
  | _ => mismatch name "a text"

/-- A text that may be absent. -/
def optionalText (name : String) : Document → Extraction (Option String)
  | .absent => .ok none
  | .text value => .ok (some value)
  | _ => mismatch name "a text"

/-- A truth value. -/
def boolean (name : String) : Document → Extraction Bool
  | .boolean value => .ok value
  | _ => mismatch name "a truth value"

/-- An integer from zero up to below a bound. -/
def natural (bound : Nat) (name : String) : Document → Extraction Nat
  | .integer value =>
      if 0 ≤ value ∧ value < bound then .ok value.toNat else mismatch name "in range"
  | _ => mismatch name "an integer"

/-- An integer of 32 bits. -/
def word32 (name : String) (value : Document) : Extraction UInt32 :=
  (natural 0x100000000 name value).map UInt32.ofNat

/-- An integer of 64 bits. -/
def word64 (name : String) (value : Document) : Extraction UInt64 :=
  (natural 0x10000000000000000 name value).map UInt64.ofNat

/-- A database driver. -/
def driver (name : String) (value : Document) : Extraction Driver := do
  match Driver.ofName (← text name value) with
  | .ok found => return found
  | .error _ => mismatch name "a database driver"

/-- The kind of store with a name. -/
def kindOfName (setting name : String) : Extraction StorageKind :=
  if name = "local" then .ok .directory
  else if name = "s3" then .ok .bucket
  else mismatch setting "a kind of store"

/-- A kind of store: its name, or a table whose first name is the kind and has no
value. -/
def storageKind (name : String) : Document → Extraction StorageKind
  | .text value => kindOfName name value
  | .table entries =>
      match entries.mergeSort fun first second => first.1 ≤ second.1 with
      | (kind, .absent) :: _ => kindOfName name kind
      | _ => mismatch name "a kind of store"
  | _ => mismatch name "a kind of store"

/-- A section has to be a table or a list, if it is there at all. -/
def checkSection (document : Document) (name : String) : Extraction (Option Document) :=
  match document.get? name with
  | none => .ok none
  | some (.table entries) => .ok (some (.table entries))
  | some (.list items) => .ok (some (.list items))
  | some _ => mismatch name "a table"

/-- The settings of the database section. -/
def database (document : Document) (default : DatabaseSettings) :
    Extraction DatabaseSettings := do
  let found ← checkSection document "database"
  return {
    driver := ← setting found 0 "driver" driver default.driver
    dsn := ← setting found 1 "dsn" text default.dsn
    maxOpenConnections :=
      ← setting found 2 "max_open_connections" word32 default.maxOpenConnections
    maxIdleConnections :=
      ← setting found 3 "max_idle_connections" word32 default.maxIdleConnections
    maxLifetimeSeconds :=
      ← setting found 4 "max_lifetime_secs" word64 default.maxLifetimeSeconds }

/-- The settings of the storage section. -/
def storage (document : Document) (default : StorageSettings) :
    Extraction StorageSettings := do
  let found ← checkSection document "storage"
  return {
    kind := ← setting found 0 "kind" storageKind default.kind
    root := ← setting found 1 "root" text default.root
    bucket := ← setting found 2 "bucket" optionalText default.bucket
    region := ← setting found 3 "region" text default.region
    endpoint := ← setting found 4 "endpoint" optionalText default.endpoint
    keyId := ← setting found 5 "key_id" optionalText default.keyId
    keySecret := ← setting found 6 "key_secret" optionalText default.keySecret
    keyPrefix := ← setting found 7 "prefix" optionalText default.keyPrefix
    createBucket := ← setting found 8 "create_bucket" boolean default.createBucket }

/-- The settings of the engine section. -/
def engine (document : Document) (default : EngineSettings) : Extraction EngineSettings := do
  let found ← checkSection document "engine"
  return {
    maxUploadSize := ← setting found 0 "max_upload_size" word64 default.maxUploadSize
    operationTimeoutSeconds :=
      ← setting found 1 "operation_timeout_secs" word64 default.operationTimeoutSeconds }

/-- The settings of the log section. -/
def log (document : Document) (default : LogSettings) : Extraction LogSettings := do
  let found ← checkSection document "log"
  return { filter := ← setting found 0 "filter" text default.filter }

end Extraction

/-- Take settings from a document. -/
def Configuration.ofDocument (default : Configuration) (document : Document) :
    Extraction Configuration := do
  return {
    database := ← Extraction.database document default.database
    storage := ← Extraction.storage document default.storage
    engine := ← Extraction.engine document default.engine
    log := ← Extraction.log document default.log }

end ContentVault
