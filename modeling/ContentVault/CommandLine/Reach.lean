import ContentVault.CommandLine.Command
import ContentVault.Configuration.Load
import ContentVault.Database.Address

/-!
# What a command line reaches

The paths that a command line can read or write, so that no other part of a file
system has to be looked at.
-/

namespace ContentVault

/-- The files that the configuration is read from. -/
def Invocation.configurationPaths (invocation : Invocation) (environment : Environment) :
    List String :=
  (Configuration.standardFiles.map fun (name, _) =>
    joinPath environment.configurationDirectory name) ++ invocation.configurationFile.toList

/-- The path that a command itself names. -/
def Command.path? : Command → Option String
  | .upload file => some file.path
  | .download _ _ output => output
  | _ => none

/-- The path of a database. -/
def DatabaseSettings.path? (database : DatabaseSettings) : Option String := do
  let url ← (database.driver.address database.dsn).toOption
  let address ← SqliteAddress.ofUrl? url
  if address.isTransient then none else some (Utf8.decodeBytesLossy address.path)

/-- The files that a command reads or writes, apart from blobs. -/
def Invocation.filePaths (invocation : Invocation) (configuration : Configuration) :
    List String :=
  configuration.database.path?.toList ++ invocation.command.path?.toList

/-- The directory of the blobs. -/
def Configuration.blobDirectory? (configuration : Configuration) : Option String :=
  match configuration.storage.kind with
  | .directory => some configuration.storage.root
  | .bucket => none

end ContentVault
