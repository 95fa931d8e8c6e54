import ContentVault.BlobKey
import ContentVault.Database.Url
import ContentVault.Text.Percent

/-!
# SQLite addresses

What an address says about a SQLite database: the path of its file and how the
file is to be opened.

* the scheme may be written with or without slashes and more than once;
* the special path `:memory:` names a database that has no file;
* options that are unknown, or have an unknown value, refuse the address.
-/

namespace ContentVault

/-- What an address says about a SQLite database. -/
structure SqliteAddress where
  path : List UInt8
  inMemory : Bool
  readOnly : Bool
  createsFile : Bool
  /-- Whether nobody ever changes the file. -/
  immutable : Bool
  /-- The name of the layer that reaches the file system, unless it is the usual
  one. -/
  fileSystem : Option String
  deriving DecidableEq, Repr

/-- A text without any number of repetitions of an unwanted start. -/
def dropLeading (unwanted text : List Char) : List Char :=
  if _started : unwanted ≠ [] ∧ unwanted.isPrefixOf text = true then
    dropLeading unwanted (text.drop unwanted.length)
  else
    text
termination_by text.length
decreasing_by
  obtain ⟨nonempty, isStart⟩ := _started
  have shorter := (List.isPrefixOf_iff_prefix.1 isStart).length_le
  have positive := List.length_pos_iff.2 nonempty
  rw [List.length_drop]
  omega

namespace SqliteAddress

/-- The path that stands for a database without a file. -/
def memoryPath : List Char := ":memory:".toList

/-- The names of the layers that reach the file system. -/
def fileSystems : List String := ["unix", "unix-dotfile", "unix-excl", "unix-none"]

/-- The address that names a path and no options. -/
def ofPath? (path : List Char) : Option SqliteAddress :=
  let bytes := percentDecode (Utf8.encode (String.ofList path))
  if (Utf8.decode? (ByteArray.mk bytes.toArray)).isSome && !bytes.contains 0 then
    some {
      path := bytes
      inMemory := bytes = Utf8.encode (String.ofList memoryPath)
      readOnly := false
      createsFile := false
      immutable := false
      fileSystem := none }
  else
    none

/-- Take one option into account. -/
def withOption? (address : SqliteAddress) (option : String × String) :
    Option SqliteAddress :=
  match option with
  | ("mode", "ro") => some { address with readOnly := true }
  | ("mode", "rw") => some address
  | ("mode", "rwc") => some { address with createsFile := true }
  | ("mode", "memory") => some { address with inMemory := true }
  | ("cache", "private") | ("cache", "shared") => some address
  | ("immutable", "true") | ("immutable", "1") => some { address with immutable := true }
  | ("immutable", "false") | ("immutable", "0") => some { address with immutable := false }
  | ("vfs", name) => some { address with fileSystem := some name }
  | _ => none

/-- Whether a layer that reaches the file system is known. -/
def hasKnownFileSystem (address : SqliteAddress) : Bool :=
  address.fileSystem.all fileSystems.contains

/-- The address in its normal form. -/
def ofNormal? (normal : List Char) : Option SqliteAddress := do
  let text := dropLeading "sqlite:".toList (dropLeading "sqlite://".toList normal)
  let (path, options) := UrlParts.splitFirst '?' text
  let fields := formFields (Utf8.encode (String.ofList (options.getD [])))
  let address ← fields.foldlM withOption? (← ofPath? path)
  if address.hasKnownFileSystem then return address else none

/-- Read an address. -/
def ofUrl? (url : String) : Option SqliteAddress :=
  (normalUrl? url.toList).bind ofNormal?

/-- Whether the database has no file that outlives its use. -/
def isTransient (address : SqliteAddress) : Bool :=
  address.inMemory || address.path.isEmpty

/-- Follow the steps of a path by their spelling alone; the root is above itself. -/
def spelledPlace (position : List PathName) : List PathStep → List PathName
  | [] => position
  | .stay :: rest => spelledPlace position rest
  | .up :: rest => spelledPlace position.dropLast rest
  | .down name :: rest => spelledPlace (position ++ [name]) rest

/-- The names that lead to the file, seen from a working directory. -/
def place (address : SqliteAddress) (workingDirectory : List PathName) : List PathName :=
  spelledPlace (if isAbsolutePath address.path then [] else workingDirectory)
    (pathSteps address.path)

end SqliteAddress

end ContentVault
