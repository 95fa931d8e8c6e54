import ContentVault.Database.Connection

/-!
# Damaged bookkeeping

Ways in which the records about migrations can stop being what the catalog wrote,
for studying how connecting answers then.
-/

namespace ContentVault

/-- What happens to the records about migrations. -/
inductive BookkeepingDamage where
  /-- The checksums are altered. -/
  | checksum
  /-- The migrations are recorded as failed. -/
  | failed
  /-- The migrations are recorded under versions that do not exist. -/
  | unknown
  /-- The records are removed. -/
  | forgotten
  /-- The records are removed and a view takes the place of the table of files. -/
  | conflict
  deriving DecidableEq, Repr

/-- The damage with a name. -/
def BookkeepingDamage.ofName? : String → Option BookkeepingDamage
  | "checksum" => some .checksum
  | "failed" => some .failed
  | "unknown" => some .unknown
  | "forgotten" => some .forgotten
  | "conflict" => some .conflict
  | _ => none

/-- The database after damage to its records. -/
def Snapshot.damage (snapshot : Snapshot) : BookkeepingDamage → Snapshot
  | .checksum =>
      { snapshot with
        migrations := snapshot.migrations.map fun record => { record with checksum := "" } }
  | .failed =>
      { snapshot with
        migrations := snapshot.migrations.map fun record => { record with succeeded := false } }
  | .unknown =>
      { snapshot with
        migrations := snapshot.migrations.map fun record =>
          { record with version := record.version + 1 } }
  | .forgotten => { snapshot with migrations := [] }
  | .conflict => { snapshot with migrations := [], filesAreView := true }

/-- Damage the records of an open database and write them to its file. -/
def Connection.damage (connection : Connection) (damage : BookkeepingDamage)
    (tree : FileTree) : FileTree :=
  { connection with snapshot := connection.snapshot.damage damage }.save tree

end ContentVault
