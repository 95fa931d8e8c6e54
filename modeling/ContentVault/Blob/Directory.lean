import ContentVault.Blob.Basic

/-!
# Blobs in a directory

A store that keeps each blob in a regular file below a root directory.

* a write goes to a hidden file beside its target and is then renamed into place,
  so that no key ever shows a part of a blob;
* content types are not kept;
* a directory is no blob, but opening one fails only when its bytes are asked for.
-/

namespace ContentVault

/-- A directory with blobs below it. -/
structure DirectoryStore where
  tree : FileTree
  /-- The names that lead to the root directory. -/
  root : List PathName
  /-- The number of the running process, a part of the names of staged files. -/
  process : UInt32
  /-- How many writes have been staged so far. -/
  stagedWrites : UInt64

namespace DirectoryStore

/-- The names that lead to the file of a key. -/
def placeOf (store : DirectoryStore) (names : List PathName) : List PathName :=
  store.root ++ names

/-- The name of the hidden file in which a write to a name is staged. -/
def stagingName (process : UInt32) (count : UInt64) (name : PathName) : PathName :=
  Utf8.encode
    ("." ++ Utf8.decodeBytesLossy name ++ "." ++ toString process.toNat ++ "." ++
      toString count.toNat ++ ".part")

/-- Describe a blob. -/
def stat (store : DirectoryStore) (path : List UInt8) : Except BlobError BlobStat := do
  let names ← requireKey path
  match store.tree.find (store.placeOf names) with
  | .ok (.file content) => return ⟨path, content.size, none, none⟩
  | .ok .directory => throw (.notFound (Utf8.decodeBytesLossy path))
  | .error failure => throw (.ofFileFailure path failure)

/-- Open a blob for reading. -/
def reader (store : DirectoryStore) (path : List UInt8) : Except BlobError BlobStream := do
  let names ← requireKey path
  match store.tree.find (store.placeOf names) with
  | .ok (.file content) => return (chunksOf content).map Except.ok
  | .ok .directory => return [.error (.ofFileFailure path .isADirectory)]
  | .error failure => throw (.ofFileFailure path failure)

/-- Write to a staged file and rename it into place; a staged file that could not
be renamed is removed. -/
def replaceFile
    (tree : FileTree) (staged target : List PathName) (content : ByteArray) :
    Except FileFailure Unit × FileTree :=
  match tree.writeFile staged content with
  | .error failure => (.error failure, tree)
  | .ok written =>
      match written.renameFile staged target with
      | .ok renamed => (.ok (), renamed)
      | .error failure =>
          match written.removeFile staged with
          | .ok cleaned => (.error failure, cleaned)
          | .error _ => (.error failure, written)

/-- Store a blob, in the place of an older one, and create the directories above
it. -/
def write (store : DirectoryStore) (path : List UInt8) (content : ByteArray) :
    Except BlobError Unit × DirectoryStore :=
  match requireKey path with
  | .error failure => (.error failure, store)
  | .ok names =>
      let target := store.placeOf names
      match store.tree.createDirectories target.dropLast with
      | (.error failure, tree) =>
          (.error (.ofFileFailure path failure), { store with tree })
      | (.ok (), tree) =>
          let name := target.getLast?.getD []
          let staged :=
            target.dropLast ++ [stagingName store.process store.stagedWrites name]
          let (outcome, tree) := replaceFile tree staged target content
          let after := { store with tree, stagedWrites := store.stagedWrites + 1 }
          match outcome with
          | .ok () => (.ok (), after)
          | .error failure => (.error (.ofFileFailure path failure), after)

/-- Delete a blob. -/
def delete (store : DirectoryStore) (path : List UInt8) :
    Except BlobError DirectoryStore := do
  let names ← requireKey path
  match store.tree.removeFile (store.placeOf names) with
  | .ok tree => return { store with tree }
  | .error failure => throw (.ofFileFailure path failure)

/-- Open a store on a root directory, which is created if nothing is there. -/
def openAt (tree : FileTree) (root : List UInt8) (process : UInt32) :
    Except BlobError DirectoryStore × FileTree :=
  if !isAbsolutePath root then
    (.error (.ofBadPath root), tree)
  else
    match (tree.locate [] root).bind fun names => (tree.find names).map (names, ·) with
    | .ok (names, .directory) => (.ok ⟨tree, names, process, 0⟩, tree)
    | .ok (_, .file _) => (.error (.ofBadPath root), tree)
    | .error _ =>
        match tree.createPath [] root with
        | (.ok names, tree) => (.ok ⟨tree, names, process, 0⟩, tree)
        | (.error failure, tree) => (.error (.ofFileFailure root failure), tree)

end DirectoryStore

end ContentVault
