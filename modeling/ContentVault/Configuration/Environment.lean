import ContentVault.Configuration.Settings
import ContentVault.Document.Inline
import ContentVault.FileTree
import ContentVault.Text.Lowercase
import ContentVault.Text.Pieces

/-!
# The environment of a process

* the variables whose names have the program's prefix are settings: two
  underscores, or a point, lead into a section;
* directories for settings and for data are given by variables, and otherwise lie
  below the home directory.
-/

namespace ContentVault

/-- What a process finds when it starts. -/
structure Environment where
  bindings : Table String String
  /-- The home directory of the account, where no variable gives another one. -/
  accountHome : String
  workingDirectory : List PathName

namespace Environment

/-- The name of the program. -/
def programName : String := "cairn"

/-- The prefix of the variables that are settings, in lowercase. -/
def variablePrefix : List Char := "cairn_".toList

/-- The value of a variable, unless it is empty. -/
def nonEmpty? (environment : Environment) (name : String) : Option String :=
  (environment.bindings.get? name).filter (· ≠ "")

/-- The home directory. -/
def home (environment : Environment) : String :=
  (environment.nonEmpty? "HOME").getD environment.accountHome

/-- The program's directory below the one that a variable gives, if that is an
absolute path, or else below a place in the home directory. -/
def programDirectory (environment : Environment) (variableName belowHome : String) : String :=
  let base :=
    match (environment.nonEmpty? variableName).filter fun path => path.startsWith "/" with
    | some path => path
    | none => joinPath environment.home belowHome
  joinPath base programName

/-- The directory of configuration files. -/
def configurationDirectory (environment : Environment) : String :=
  environment.programDirectory "XDG_CONFIG_HOME" ".config"

/-- The directory of unconfigured state. -/
def dataDirectory (environment : Environment) : String :=
  environment.programDirectory "XDG_DATA_HOME" ".local/share"

/-- Replace two underscores by a point, from left to right. -/
def pointed : List Char → List Char
  | '_' :: '_' :: rest => '.' :: pointed rest
  | character :: rest => character :: pointed rest
  | [] => []

/-- The path of the setting that a variable names. -/
def settingPath? (name : String) : Option (List String) :=
  let lowered := (trimChars name.toList).map Char.toLower
  if variablePrefix.isPrefixOf lowered then
    let segments := pieces '.' (pointed (lowered.drop variablePrefix.length))
    if segments.any List.isEmpty then
      none
    else
      some (segments.map String.ofList)
  else
    none

/-- The settings that the variables give; variables are looked at in the order of
their names. -/
def settings (environment : Environment) : Document :=
  let sorted := environment.bindings.mergeSort fun first second => first.1 ≤ second.1
  sorted.foldl
    (fun found (name, value) =>
      match settingPath? name with
      | some path => (Document.nested path (Document.ofInline value)).laidOver found
      | none => found)
    (.table [])

end Environment

end ContentVault
