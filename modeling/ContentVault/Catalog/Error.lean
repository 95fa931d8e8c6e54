/-!
# Errors of the catalog

What the catalog says when it cannot answer.  A row that does not decode, or a
record that does not fit into a row, is named by the datum that is wrong.
-/

namespace ContentVault

/-- The datum that makes a record or a row invalid. -/
inductive InvalidDatum where
  | fileSize
  | versionSize
  | createdAt
  | updatedAt
  | trashedAt
  | versionCreatedAt
  | currentVersion
  | versionNumber
  | fileStatus
  | firstVersion
  | versionOrder
  | offset
  | injected
  deriving DecidableEq, Repr

/-- The text that names a datum. -/
def InvalidDatum.text : InvalidDatum → String
  | .fileSize => "file size"
  | .versionSize => "version size"
  | .createdAt => "created at"
  | .updatedAt => "updated at"
  | .trashedAt => "trashed at"
  | .versionCreatedAt => "version created at"
  | .currentVersion => "current version"
  | .versionNumber => "version number"
  | .fileStatus => "file status"
  | .firstVersion => "first version does not belong to file"
  | .versionOrder => "version number must follow the current version"
  | .offset => "offset"
  | .injected => "injected"

/-- Why the catalog refused or failed. -/
inductive CatalogError where
  | database
  | migration
  | unsupportedDriver (name : String)
  | invalidDsn (driver : String)
  | duplicate (fileId : String)
  | conflict (fileId : String)
  | invalidData (datum : InvalidDatum)
  deriving DecidableEq, Repr

namespace CatalogError

/-- The text of an error. -/
def message : CatalogError → String
  | .database => "database error"
  | .migration => "database migration error"
  | .unsupportedDriver name => "unsupported database driver: " ++ name
  | .invalidDsn driver => "invalid database connection string for " ++ driver
  | .duplicate fileId => "duplicate file: " ++ fileId
  | .conflict fileId => "concurrent modification of file: " ++ fileId
  | .invalidData datum => "invalid metadata: " ++ datum.text

/-- Whether a second attempt might succeed. -/
def retryable : CatalogError → Bool
  | .database | .conflict _ => true
  | _ => false

end CatalogError

end ContentVault
