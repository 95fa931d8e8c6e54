import ContentVault.CommandLine.Argument
import ContentVault.Configuration.Error
import ContentVault.Vault.Error

/-!
# Errors of command lines

Why a command line had no result.

* a command line may be no request, its configuration may be unusable, or the
  command itself may fail;
* an error of a store or of the vault is kept as the cause of a command's failure.
-/

namespace ContentVault

/-- Why a command could not be carried out. -/
inductive CommandError where
  | catalogOpening (cause : CatalogError)
  | blobOpening (cause : BlobError)
  | usage (reason : String)
  | tooLarge (path : String) (size limit : Nat)
  | inputOutput (path : String)
  | vault (cause : VaultError)
  | output
  deriving DecidableEq, Repr

/-- The text of an error. -/
def CommandError.message : CommandError → String
  | .catalogOpening _ => "could not open the metadata store"
  | .blobOpening _ => "could not open the blob store"
  | .usage reason => reason
  | .tooLarge path size limit =>
      path ++ " is " ++ toString size ++ " bytes, the upload limit is " ++ toString limit
  | .inputOutput path => "I/O error on " ++ path
  | .vault _ => "operation failed"
  | .output => "could not write output"

/-- Why a command line had no result. -/
inductive CommandLineError where
  | usage (reason : UsageError)
  | configuration (reason : ConfigurationError)
  | command (reason : CommandError)
  deriving DecidableEq, Repr

/-- The text of an error. -/
def CommandLineError.message : CommandLineError → String
  | .usage reason => reason.message
  | .configuration reason => reason.message
  | .command reason => reason.message

/-- The number with which the process ends, also where an operation broke off. -/
def CommandLineError.exitCode : CommandLineError → Nat
  | .usage reason => reason.exitCode
  | .command (.vault .overflow) => 101
  | _ => 1

end ContentVault
