import ContentVault.Catalog.Error
import ContentVault.Text.Blank
import ContentVault.Text.Lowercase

/-!
# Database drivers

Which database engine keeps the catalog, and the connection string that it takes.

* a driver's name may be padded and written in any case;
* SQLite takes a plain path as well, which is then created if missing;
* PostgreSQL takes its own kind of address only.
-/

namespace ContentVault

/-- A database engine. -/
inductive Driver where
  | sqlite
  | postgres
  deriving DecidableEq, Repr

namespace Driver

/-- The driver with a name. -/
def ofName (name : String) : Except CatalogError Driver :=
  let plain := lowercase (trim name)
  if plain = "sqlite" ∨ plain = "sqlite3" then
    .ok .sqlite
  else if plain = "postgres" ∨ plain = "postgresql" ∨ plain = "pg" then
    .ok .postgres
  else
    .error (.unsupportedDriver name)

/-- The address of the database that a connection string denotes. -/
def address (driver : Driver) (dsn : String) : Except CatalogError String :=
  let dsn := trim dsn
  match driver with
  | .sqlite =>
      if dsn.startsWith "sqlite:" then
        .ok dsn
      else if dsn = "" then
        .error (.invalidDsn "sqlite")
      else
        .ok ("sqlite://" ++ dsn ++ "?mode=rwc")
  | .postgres =>
      if dsn.startsWith "postgres://" || dsn.startsWith "postgresql://" then
        .ok dsn
      else
        .error (.invalidDsn "postgres")

end Driver

/-- Bounds of a pool of connections. -/
structure PoolBounds where
  maxOpen : UInt32
  minIdle : UInt32
  /-- Seconds after which a connection is replaced. -/
  maxLifetime : Option UInt64
  deriving DecidableEq

/-- The bounds of a pool that was not configured. -/
def PoolBounds.default : PoolBounds := ⟨10, 2, some 3600⟩

end ContentVault
