import ContentVault.Database.Address
import ContentVault.Database.Driver
import ContentVault.Database.Image
import ContentVault.FileTree

/-!
# Connections

Opening the database that keeps the catalog.

* a database in a file is created if its address says so, but the directory of the
  file is not;
* a connected database is up to date;
* a database in memory starts anew with every connection;
* no server can be reached.
-/

namespace ContentVault

/-- An open database. -/
structure Connection where
  driver : Driver
  snapshot : Snapshot
  /-- The names that lead to the file, if the database outlives the connection. -/
  place : Option (List PathName)
  isWritable : Bool

namespace Connection

/-- The longest path of a file in which a database can be kept. -/
def longestPlace : Nat := 504

/-- Find the file of a database, and create it where the address asks for that. -/
def openFile (tree : FileTree) (place : List PathName) (createsFile : Bool) :
    Except CatalogError ByteArray × FileTree :=
  if longestPlace < FileTree.pathLength place then
    (.error .database, tree)
  else
    match tree.find place with
    | .ok (.file content) => (.ok content, tree)
    | .error .missing =>
        if createsFile then
          match tree.writeFile place ByteArray.empty with
          | .ok created => (.ok ByteArray.empty, created)
          | .error _ => (.error .database, tree)
        else
          (.error .database, tree)
    | _ => (.error .database, tree)

/-- The database that a file holds, which a reader cannot start. -/
def readContent (address : SqliteAddress) (content : ByteArray) :
    Except CatalogError Snapshot :=
  if content.isEmpty && address.readOnly && !address.immutable then
    .error .database
  else
    match Snapshot.ofBytes? content with
    | some snapshot => .ok snapshot
    | none => .error .database

/-- Bring a database up to date. -/
def bringUpToDate (snapshot : Snapshot) (isWritable : Bool) : Except CatalogError Snapshot :=
  match snapshot.migrate? isWritable with
  | some current => .ok current
  | none => .error .migration

/-- Write what a database keeps to its file. -/
def save (connection : Connection) (tree : FileTree) : FileTree :=
  match connection.place with
  | some place =>
      if connection.isWritable then
        tree.put place (.file connection.snapshot.toBytes)
      else
        tree
  | none => tree

/-- Open a SQLite database. -/
def openSqlite (tree : FileTree) (workingDirectory : List PathName) (address : SqliteAddress) :
    Except CatalogError Connection × FileTree :=
  let isWritable := !address.readOnly && !address.immutable
  if address.isTransient then
    ((bringUpToDate .new true).map fun snapshot => ⟨.sqlite, snapshot, none, true⟩, tree)
  else
    let place := address.place workingDirectory
    let (content, tree) := openFile tree place (address.createsFile && !address.readOnly)
    let opened : Except CatalogError Connection := do
      let snapshot ← readContent address (← content)
      return ⟨.sqlite, ← bringUpToDate snapshot isWritable, some place, isWritable⟩
    match opened with
    | .ok connection => (.ok connection, connection.save tree)
    | .error failure => (.error failure, tree)

/-- Connect to the database that a connection string denotes. -/
def establish
    (tree : FileTree) (workingDirectory : List PathName) (driver : Driver) (dsn : String) :
    Except CatalogError Connection × FileTree :=
  match driver, driver.address dsn with
  | _, .error failure => (.error failure, tree)
  | .postgres, .ok _ => (.error .database, tree)
  | .sqlite, .ok url =>
      match SqliteAddress.ofUrl? url with
      | some address => openSqlite tree workingDirectory address
      | none => (.error .database, tree)

end Connection

end ContentVault
