import ContentVault.BlobKey
import ContentVault.Table

/-!
# A tree of directories and files

The part of a file system that local blobs and the command line see.

* an entry is found by the names that lead to it from the root, which is always a
  directory;
* each operation either does its work or says why it could not, with the error
  that the operating system gives;
* names longer than 255 bytes and paths longer than 4095 bytes are refused.
-/

namespace ContentVault

/-- Why an operation on files failed. -/
inductive FileFailure where
  | missing
  | alreadyExists
  | notADirectory
  | isADirectory
  | nameTooLong
  | nulInName
  deriving DecidableEq, Repr

/-- The text of a failure as the operating system gives it. -/
def FileFailure.message : FileFailure → String
  | .missing => "No such file or directory (os error 2)"
  | .alreadyExists => "File exists (os error 17)"
  | .notADirectory => "Not a directory (os error 20)"
  | .isADirectory => "Is a directory (os error 21)"
  | .nameTooLong => "File name too long (os error 36)"
  | .nulInName => "file name contained an unexpected NUL byte"

/-- What stands at a place of the tree. -/
inductive FileEntry where
  | directory
  | file (content : ByteArray)

instance : DecidableEq FileEntry
  | .directory, .directory => isTrue rfl
  | .directory, .file _ => isFalse nofun
  | .file _, .directory => isFalse nofun
  | .file first, .file second =>
      decidable_of_decidable_of_iff (p := first.data = second.data)
        (by rw [FileEntry.file.injEq, ByteArray.ext_iff])

/-- The entries below the root by the names that lead to them. -/
structure FileTree where
  entries : Table (List PathName) FileEntry

namespace FileTree

/-- The tree with nothing below its root. -/
def empty : FileTree := ⟨[]⟩

/-- What stands at a place, without looking at the way there. -/
def entryAt? (tree : FileTree) (names : List PathName) : Option FileEntry :=
  if names = [] then some .directory else tree.entries.get? names

/-- The number of bytes of an absolute path. -/
def pathLength (names : List PathName) : Nat :=
  names.foldr (fun name length => name.length + 1 + length) 0

/-- The longest path that the operating system takes. -/
def longestPath : Nat := 4095

/-- The longest name that the operating system takes. -/
def longestName : Nat := 255

/-- Walk down from a place that has been reached. -/
def walk (tree : FileTree) (reached : List PathName) :
    List PathName → Except FileFailure FileEntry
  | [] =>
      match tree.entryAt? reached with
      | some entry => .ok entry
      | none => .error .missing
  | name :: rest =>
      match tree.entryAt? reached with
      | none => .error .missing
      | some (.file _) => .error .notADirectory
      | some .directory =>
          if longestName < name.length then
            .error .nameTooLong
          else
            tree.walk (reached ++ [name]) rest

/-- Find the entry at a path. -/
def find (tree : FileTree) (names : List PathName) : Except FileFailure FileEntry :=
  if names.any (·.contains 0) then
    .error .nulInName
  else if longestPath < pathLength names then
    .error .nameTooLong
  else
    tree.walk [] names

/-- Whether a regular file stands at a path. -/
def isFile (tree : FileTree) (names : List PathName) : Bool :=
  match tree.find names with
  | .ok (.file _) => true
  | _ => false

/-- Whether a directory stands at a path. -/
def isDirectory (tree : FileTree) (names : List PathName) : Bool :=
  match tree.find names with
  | .ok .directory => true
  | _ => false

/-- Put an entry at a place. -/
def put (tree : FileTree) (names : List PathName) (entry : FileEntry) : FileTree :=
  ⟨tree.entries.put names entry⟩

/-- Take away the entry at a place. -/
def remove (tree : FileTree) (names : List PathName) : FileTree :=
  ⟨tree.entries.erase names⟩

/-- Create the directories that are missing on the way down from a directory.
Those that were created before a failure stay. -/
def createBelow (tree : FileTree) (reached : List PathName) :
    List PathName → Except FileFailure Unit × FileTree
  | [] => (.ok (), tree)
  | name :: rest =>
      let next := reached ++ [name]
      match tree.entryAt? next with
      | some .directory => tree.createBelow next rest
      | some (.file _) =>
          (.error (if rest = [] then .alreadyExists else .notADirectory), tree)
      | none =>
          if longestName < name.length then
            (.error .nameTooLong, tree)
          else
            (tree.put next .directory).createBelow next rest

/-- Create a directory and those above it that are missing. -/
def createDirectories (tree : FileTree) (names : List PathName) :
    Except FileFailure Unit × FileTree :=
  if names.any (·.contains 0) then
    (.error .nulInName, tree)
  else if longestPath < pathLength names then
    (.error .nameTooLong, tree)
  else
    tree.createBelow [] names

/-- Write a file whose directory exists, in the place of an older one. -/
def writeFile (tree : FileTree) (names : List PathName) (content : ByteArray) :
    Except FileFailure FileTree :=
  match tree.find names with
  | .ok .directory => .error .isADirectory
  | .ok (.file _) => .ok (tree.put names (.file content))
  | .error .missing =>
      match tree.find names.dropLast with
      | .ok .directory => .ok (tree.put names (.file content))
      | .ok (.file _) => .error .notADirectory
      | .error failure => .error failure
  | .error failure => .error failure

/-- Move a file to a place in the same directory, over an older file. -/
def renameFile (tree : FileTree) (source target : List PathName) :
    Except FileFailure FileTree :=
  match tree.find source with
  | .ok (.file content) =>
      match tree.find target with
      | .ok .directory => .error .isADirectory
      | .ok (.file _) | .error .missing =>
          .ok ((tree.remove source).put target (.file content))
      | .error failure => .error failure
  | .ok .directory => .error .isADirectory
  | .error failure => .error failure

/-- Remove a file. -/
def removeFile (tree : FileTree) (names : List PathName) : Except FileFailure FileTree :=
  match tree.find names with
  | .ok (.file _) => .ok (tree.remove names)
  | .ok .directory => .error .isADirectory
  | .error failure => .error failure

/-- Read a file. -/
def contentOf (tree : FileTree) (names : List PathName) : Except FileFailure ByteArray :=
  match tree.find names with
  | .ok (.file content) => .ok content
  | .ok .directory => .error .isADirectory
  | .error failure => .error failure

/-- The place that a path leads to from a directory.  Whatever a path passes
through, or names with a closing slash, must be a directory. -/
def locateFrom (tree : FileTree) : List PathStep → List PathName →
    Except FileFailure (List PathName)
  | [], position => .ok position
  | .down name :: rest, position => tree.locateFrom rest (position ++ [name])
  | .stay :: rest, position =>
      match tree.find position with
      | .ok .directory => tree.locateFrom rest position
      | .ok (.file _) => .error .notADirectory
      | .error failure => .error failure
  | .up :: rest, position =>
      match tree.find position with
      | .ok .directory => tree.locateFrom rest position.dropLast
      | .ok (.file _) => .error .notADirectory
      | .error failure => .error failure

/-- The place that a path leads to, seen from a working directory. -/
def locate (tree : FileTree) (workingDirectory : List PathName) (path : List UInt8) :
    Except FileFailure (List PathName) :=
  if path = [] then
    .error .missing
  else
    tree.locateFrom (pathSteps path) (if isAbsolutePath path then [] else workingDirectory)

/-- Create the directories that a path passes through and names. -/
def createAlong (tree : FileTree) : List PathStep → List PathName →
    Except FileFailure (List PathName) × FileTree
  | [], position => (.ok position, tree)
  | .stay :: rest, position => tree.createAlong rest position
  | .up :: rest, position => tree.createAlong rest position.dropLast
  | .down name :: rest, position =>
      if name.contains 0 then
        (.error .nulInName, tree)
      else
        match tree.createBelow position [name] with
        | (.ok (), created) => created.createAlong rest (position ++ [name])
        | (.error failure, _) =>
            let last := rest.all (· = .stay)
            (.error (if failure = .alreadyExists && !last then .notADirectory else failure),
              tree)

/-- Create the directory at a path and those above it that are missing. -/
def createPath (tree : FileTree) (workingDirectory : List PathName) (path : List UInt8) :
    Except FileFailure (List PathName) × FileTree :=
  if path.contains 0 then
    (.error .nulInName, tree)
  else if longestPath < path.length then
    (.error .nameTooLong, tree)
  else
    tree.createAlong (pathSteps path) (if isAbsolutePath path then [] else workingDirectory)

/-- Whether names come first in the order of a walk that sorts the names of each
directory by their bytes. -/
def walksBefore : List PathName → List PathName → Bool
  | [], _ => true
  | _ :: _, [] => false
  | first :: rest, second :: others =>
      if first = second then walksBefore rest others else decide (first < second)

/-- The regular files below a directory in the order of a walk, each with the
names that lead to it from there. -/
def filesBelow (tree : FileTree) (directory : List PathName) :
    List (List PathName × ByteArray) :=
  let found := tree.entries.filterMap fun (names, entry) =>
    match entry with
    | .directory => none
    | .file content =>
        if directory.isPrefixOf names ∧ directory.length < names.length then
          some (names.drop directory.length, content)
        else
          none
  found.mergeSort fun first second => walksBefore first.1 second.1

end FileTree

end ContentVault
