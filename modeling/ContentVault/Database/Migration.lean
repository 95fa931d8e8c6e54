import ContentVault.Catalog.Tables

/-!
# Migrations

How the tables of a catalog come into being, and what a database records about it.

* a database records every migration that was run on it, with a checksum and
  whether it succeeded;
* a failed or unknown record, or another checksum, stops everything;
* a migration without a record is run; it keeps tables that are there already, but
  fails where a view stands in their place.
-/

namespace ContentVault

/-- One step in the history of the tables. -/
structure Migration where
  version : Nat
  /-- Tells this step from another one with the same version. -/
  checksum : String
  deriving DecidableEq, Repr

/-- All migrations in the order in which they are run. -/
def Migration.all : List Migration := [⟨20260301000000, "initial schema"⟩]

/-- What a database records about a migration. -/
structure MigrationRecord where
  version : Nat
  checksum : String
  succeeded : Bool
  deriving DecidableEq, Repr

/-- Everything that a database keeps. -/
structure Snapshot where
  tables : Tables
  /-- Whether a view stands in the place of the table of files. -/
  filesAreView : Bool
  migrations : List MigrationRecord
  deriving DecidableEq

namespace Snapshot

/-- A database in which nothing has been done. -/
def new : Snapshot := ⟨.empty, false, []⟩

/-- Whether a migration stopped half way. -/
def isDirty (snapshot : Snapshot) : Bool :=
  snapshot.migrations.any fun record => !record.succeeded

/-- Whether all recorded migrations are known. -/
def knowsRecords (snapshot : Snapshot) : Bool :=
  snapshot.migrations.all fun record =>
    Migration.all.any fun migration => migration.version = record.version

/-- Run a migration on a database that can be written. -/
def run? (snapshot : Snapshot) (migration : Migration) : Option Snapshot :=
  if snapshot.filesAreView then
    none
  else
    some { snapshot with
      tables := { snapshot.tables with links := some (snapshot.tables.links.getD []) }
      migrations := snapshot.migrations ++ [⟨migration.version, migration.checksum, true⟩] }

/-- Check the record of a migration, or run the migration if it has none. -/
def checkOrRun? (isWritable : Bool) (snapshot : Snapshot) (migration : Migration) :
    Option Snapshot :=
  match snapshot.migrations.find? fun record => record.version = migration.version with
  | some record => if record.checksum = migration.checksum then some snapshot else none
  | none => if isWritable then snapshot.run? migration else none

/-- Bring a database up to date. -/
def migrate? (snapshot : Snapshot) (isWritable : Bool) : Option Snapshot :=
  if snapshot.isDirty || !snapshot.knowsRecords then
    none
  else
    Migration.all.foldlM (checkOrRun? isWritable) snapshot

end Snapshot

end ContentVault
