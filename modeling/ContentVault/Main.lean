import ContentVault.CommandLine.Reach
import ContentVault.CommandLine.Run
import ContentVault.FileTree.Change

/-!
# The program

The outer layer of the command line: it reads the part of the file system that a
command line reaches, lets the command run on it, and then brings the file system
into the state in which the command left it.  No bucket service is connected.
-/

namespace ContentVault.Program

/-- The names that lead to a path from the root. -/
def namesOf (environment : Environment) (path : String) : List PathName :=
  SqliteAddress.spelledPlace (if path.startsWith "/" then [] else environment.workingDirectory)
    (pathSteps (Utf8.encode path))

/-- The path to which names lead. -/
def pathTo (names : List PathName) : String :=
  "/" ++ Utf8.decodeBytesLossy (keyPath names)

/-- The names of what a directory holds; none if there is no such directory. -/
def readDirectory (names : List PathName) : IO (Option (List PathName)) := do
  try
    let found ← ((← IO.currentDir) / pathTo names).readDir
    return some (found.toList.map fun entry => Utf8.encode entry.fileName)
  catch _ =>
    return none

/-- The content of a file; none if there is no such file. -/
def readContent (names : List PathName) : IO (Option ByteArray) := do
  try
    return some (← IO.FS.readBinFile (pathTo names))
  catch _ =>
    return none

/-- Read what stands at a place. -/
def readEntry (tree : FileTree) (names : List PathName) : IO FileTree := do
  match ← readDirectory names with
  | some _ => return tree.put names .directory
  | none =>
      match ← readContent names with
      | some content => return tree.put names (.file content)
      | none => return tree

/-- Read what stands at a place and on the way there. -/
def readWay (tree : FileTree) (names : List PathName) : IO FileTree :=
  (List.range names.length).foldlM
    (fun tree count => readEntry tree (names.take (count + 1))) tree

/-- Read what stands below a place. -/
partial def readBelow (tree : FileTree) (names : List PathName) : IO FileTree := do
  match ← readDirectory names with
  | none => readEntry tree names
  | some found =>
      let tree := tree.put names .directory
      found.foldlM (fun tree name => readBelow tree (names ++ [name])) tree

/-- Take one step of a change. -/
def apply : FileChange → IO Unit
  | .createDirectory names => IO.FS.createDirAll (pathTo names)
  | .write names content => IO.FS.writeBinFile (pathTo names) content
  | .remove names => IO.FS.removeFile (pathTo names)

/-- A variable of the environment and its value. -/
def variableOf (line : List UInt8) : String × String :=
  let name := line.takeWhile (· ≠ 0x3D)
  (Utf8.decodeBytesLossy name, Utf8.decodeBytesLossy (line.drop (name.length + 1)))

/-- The environment of the process. -/
def readEnvironment : IO Environment := do
  let bindings ←
    try
      let content ← IO.FS.readBinFile "/proc/self/environ"
      pure (((pieces 0 content.toList).filter fun line => !line.isEmpty).map variableOf)
    catch _ =>
      pure []
  let here ← IO.currentDir
  return {
    bindings
    accountHome := "/"
    workingDirectory := SqliteAddress.spelledPlace [] (pathSteps (Utf8.encode here.toString)) }

/-- The reading of the wall clock, which a new file gets as its date. -/
def readClock : IO Timestamp := do
  let (_, path) ← IO.FS.createTempFile
  let modified := (← path.metadata).modified
  IO.FS.removeFile path
  return (Timestamp.ofSeconds? modified.sec).getD .epoch

/-- Read everything that a command line reaches. -/
def readTree (environment : Environment) (words : List String) : IO FileTree := do
  match Invocation.read environment.bindings words with
  | .error _ => return .empty
  | .ok invocation =>
      let names := fun paths : List String => paths.map (namesOf environment)
      let tree ← (names (invocation.configurationPaths environment)).foldlM readWay .empty
      match Configuration.load tree environment invocation.configurationFile with
      | .error _ => return tree
      | .ok configuration =>
          let tree ← (names (invocation.filePaths configuration)).foldlM readWay tree
          match configuration.blobDirectory? with
          | none => return tree
          | some directory =>
              let place := namesOf environment directory
              readBelow (← readWay tree place) place

/-- Report an error. -/
def report (error : CommandLineError) : IO Unit := do
  IO.eprintln error.message
  match error with
  | .command (.catalogOpening cause) => IO.eprintln cause.message
  | .command (.blobOpening cause) => IO.eprintln cause.message
  | .command (.vault cause) => IO.eprintln cause.message
  | _ => pure ()

/-- Run a command line. -/
def run (words : List String) : IO UInt32 := do
  let environment ← readEnvironment
  let tree ← readTree environment words
  let machine : Machine :=
    { tree
      environment
      service := .unreachable
      now := ← readClock
      process := 1
      printed := ByteArray.empty }
  let (outcome, after) := machine.execute words
  (tree.changes after.tree).forM apply
  let output ← IO.getStdout
  output.write after.printed
  output.flush
  match outcome with
  | .ok () => return 0
  | .error error => do
      report error
      return error.exitCode.toUInt32

end ContentVault.Program

/-- The program. -/
def main (words : List String) : IO UInt32 :=
  ContentVault.Program.run words
