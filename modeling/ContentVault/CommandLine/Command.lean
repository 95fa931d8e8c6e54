import ContentVault.CommandLine.Level
import ContentVault.Vault.Models

/-!
# Commands

What a user can ask for on the command line, and how it is read.

* the options for the configuration file and for the owner can stand before and
  behind the name of the command; what stands behind it counts, but a variable of
  the environment never counts against a word;
* the words behind the name are checked before those in front of it.
-/

namespace ContentVault

/-- A file to upload, named by its path. -/
structure UploadCommand where
  path : String
  /-- The name to store it under, if not the last name of the path. -/
  name : Option String
  fileType : Option String
  contentType : Option String
  tags : String
  description : String
  deriving DecidableEq, Repr

/-- Filters, order and window of a listing, with seconds for points in time. -/
structure ListCommand where
  name : Option String
  fileType : Option String
  tag : Option String
  sort : Option String
  direction : Option String
  page : Int
  pageSize : Int
  createdFrom : Option Int
  createdTo : Option Int
  updatedFrom : Option Int
  updatedTo : Option Int
  deriving DecidableEq, Repr

/-- A request on the command line. -/
inductive Command where
  | upload (file : UploadCommand)
  | download (fileId : String) (version : Option Int) (output : Option String)
  | metadata (fileId : String) (version : Option Int)
  | list (filters : ListCommand)
  | revert (fileId : String) (version : Int)
  | delete (fileIds : List String)
  | versions (fileId : String)
  | diff (fileId : String) (fromNumber toNumber : Int)
  | update (fileId : String) (changes : MetadataUpdate)

/-- A whole command line. -/
structure Invocation where
  command : Command
  configurationFile : Option String
  owner : Option String

namespace CommandLine

/-- The options of every level. -/
def sharedOptions : List Argument := [
  { Argument.path "config" with letter := some 'c', environmentName := some "CAIRN_CONFIG" },
  { Argument.text "owner" with environmentName := some "CAIRN_OWNER" }]

/-- The level behind the name of a command. -/
def commandLevel (options positions : List Argument) : Level :=
  ⟨options ++ sharedOptions, positions, [], false⟩

/-- The identifier of a file as the first position. -/
def fileId : Argument := .text "file_id"

/-- The commands and what they can be given. -/
def commandLevels : Table String Level := [
  ("upload", commandLevel
    [.text "name", .text "type", .text "content-type", .text "tags", .text "description"]
    [.path "path"]),
  ("download", commandLevel
    [.integer "version", { Argument.path "output" with letter := some 'o' }]
    [fileId]),
  ("meta", commandLevel [.integer "version"] [fileId]),
  ("list", commandLevel
    [.text "name", .text "type", .text "tag", .text "sort", .text "direction",
      { Argument.integer "page" with allowsNegative := true },
      { Argument.integer "page-size" with allowsNegative := true },
      .integer "created-from", .integer "created-to",
      .integer "updated-from", .integer "updated-to"]
    []),
  ("revert", commandLevel []
    [fileId, { Argument.integer "version" with allowsNegative := true }]),
  ("delete", commandLevel [] [{ Argument.text "file_ids" with isRepeated := true }]),
  ("versions", commandLevel [] [fileId]),
  ("diff", commandLevel [] [fileId, .integer "from", .integer "to"]),
  ("update", commandLevel
    [.text "name", .text "type", .text "description", .text "tags"]
    [fileId])]

/-- The names that lead away from the first level. -/
def commandNames : List String :=
  commandLevels.keys ++ ["help"]

/-- The level in front of the name of a command. -/
def firstLevel : Level := ⟨sharedOptions, [], commandNames, true⟩

/-- The first value of an argument, if it is a text. -/
def text? (given : Table String GivenValues) (name : String) : Option String :=
  match (given.get? name).map GivenValues.values with
  | some (.text value :: _) => some value
  | _ => none

/-- The first value of an argument, if it is an integer. -/
def integer? (given : Table String GivenValues) (name : String) : Option Int :=
  match (given.get? name).map GivenValues.values with
  | some (.integer value :: _) => some value
  | _ => none

/-- All values of an argument that are texts. -/
def texts (given : Table String GivenValues) (name : String) : List String :=
  match given.get? name with
  | some found =>
      found.values.filterMap fun value =>
        match value with
        | .text value => some value
        | .integer _ => none
  | none => []

/-- The file to upload. -/
def uploadCommand (path : String) (given : Table String GivenValues) : UploadCommand where
  path
  name := text? given "name"
  fileType := text? given "type"
  contentType := text? given "content-type"
  tags := (text? given "tags").getD ""
  description := (text? given "description").getD ""

/-- The listing that is asked for. -/
def listCommand (given : Table String GivenValues) : ListCommand where
  name := text? given "name"
  fileType := text? given "type"
  tag := text? given "tag"
  sort := text? given "sort"
  direction := text? given "direction"
  page := (integer? given "page").getD 1
  pageSize := (integer? given "page-size").getD 10
  createdFrom := integer? given "created-from"
  createdTo := integer? given "created-to"
  updatedFrom := integer? given "updated-from"
  updatedTo := integer? given "updated-to"

/-- The changes that are asked for. -/
def updateCommand (given : Table String GivenValues) : MetadataUpdate where
  fileName := text? given "name"
  fileType := text? given "type"
  description := text? given "description"
  tags := text? given "tags"

/-- The command with a name and given values; none if a position was not filled. -/
def command? (name : String) (given : Table String GivenValues) : Option Command :=
  match name with
  | "upload" => (text? given "path").map fun path => .upload (uploadCommand path given)
  | "download" =>
      (text? given "file_id").map fun id =>
        .download id (integer? given "version") (text? given "output")
  | "meta" => (text? given "file_id").map fun id => .metadata id (integer? given "version")
  | "list" => some (.list (listCommand given))
  | "revert" => do
      return .revert (← text? given "file_id") (← integer? given "version")
  | "delete" =>
      match texts given "file_ids" with
      | [] => none
      | ids => some (.delete ids)
  | "versions" => (text? given "file_id").map .versions
  | "diff" => do
      return .diff (← text? given "file_id") (← integer? given "from") (← integer? given "to")
  | "update" => (text? given "file_id").map fun id => .update id (updateCommand given)
  | _ => none

/-- The answer to a question for help, by the words that name its subject. -/
def explain : List String → UsageError
  | [] => .helpRequested
  | [name] => if commandNames.contains name then .helpRequested else .commandUnknown
  | _ => .commandUnknown

/-- The values of a shared option, given those of both levels. -/
def sharedValues (name : String) (first second : Table String GivenValues) :
    Table String GivenValues :=
  match first.get? name, second.get? name with
  | some before, some behind =>
      [(name, if behind.isFromEnvironment && !before.isFromEnvironment then before else behind)]
  | some before, none => [(name, before)]
  | none, some behind => [(name, behind)]
  | none, none => []

/-- Read the words behind the name of a command. -/
def readCommand (bindings : Table String String) (name : String) (words : List String) :
    Except UsageError (Table String GivenValues) :=
  match commandLevels.get? name with
  | none => .error .commandUnknown
  | some level => do
      let (progress, _) ← level.readWords .start words
      let given ← level.finish bindings progress
      level.requirePositions given
      return given

end CommandLine

open CommandLine in
/-- Read a command line. -/
def Invocation.read (bindings : Table String String) (words : List String) :
    Except UsageError Invocation := do
  let (progress, chosen) ← firstLevel.readWords .start words
  match chosen with
  | none =>
      let given ← firstLevel.finish bindings progress
      throw (if given.isEmpty then .nothingGiven else .commandMissing)
  | some ("help", subject) => throw (explain subject)
  | some (name, rest) =>
      let second ← readCommand bindings name rest
      let first ← firstLevel.finish bindings progress
      match command? name second with
      | none => throw .argumentMissing
      | some command =>
          return {
            command
            configurationFile := text? (sharedValues "config" first second) "config"
            owner := text? (sharedValues "owner" first second) "owner" }

end ContentVault
