import ContentVault.Vault.History
import ContentVault.Vault.Listing
import ContentVault.Vault.Manage
import ContentVault.Vault.Revert
import ContentVault.Vault.Upload

/-!
# Runs of operations

All operations of the vault as one type, so that runs of any length can be
written down and reasoned about.
-/

namespace ContentVault

/-- A request to the vault. -/
inductive Operation where
  | upload (request : UploadRequest)
  | download (fileId : String) (selector : Option Int)
  | metadata (fileId : String) (selector : Option Int)
  | resolve (fileId : String) (selector : Option Int)
  | versions (fileId : String)
  | diff (fileId : String) (fromNumber toNumber : Int)
  | revert (fileId : String) (target : Int)
  | delete (fileId : String)
  | batchDelete (fileIds : List String)
  | update (fileId : String) (changes : MetadataUpdate)
  | list (request : ListRequest)

/-- What an operation answers. -/
inductive Answer where
  | upload (receipt : UploadReceipt)
  | download (opened : Download)
  | metadata (description : FileMetadata)
  | resolve (resolved : Resolved)
  | versions (history : List VersionInfo)
  | diff (difference : VersionDiff)
  | revert (receipt : RevertReceipt)
  | delete
  | batchDelete (deletion : BatchDeletion)
  | list (listing : Listing)

/-- Carry out an operation. -/
def Operation.perform : Operation → VaultAction Answer
  | .upload request => .upload <$> Vault.upload request
  | .download fileId selector => .download <$> Vault.download fileId selector
  | .metadata fileId selector => .metadata <$> Vault.metadata fileId selector
  | .resolve fileId selector => .resolve <$> Vault.resolve fileId selector
  | .versions fileId => .versions <$> Vault.versions fileId
  | .diff fileId fromNumber toNumber => .diff <$> Vault.diff fileId fromNumber toNumber
  | .revert fileId target => .revert <$> Vault.revert fileId target
  | .delete fileId => (fun () => .delete) <$> Vault.delete fileId
  | .batchDelete fileIds => .batchDelete <$> Vault.batchDelete fileIds
  | .update fileId changes => .metadata <$> Vault.updateMetadata fileId changes
  | .list request => .list <$> Vault.list request

/-- An operation with what it runs under.  A deadline is counted from its start. -/
structure ScheduledOperation where
  operation : Operation
  settings : VaultSettings
  timeAllowed : Option Nat
  now : Timestamp
  faults : CatalogCall → Nat → Option Fault

/-- Carry out a scheduled operation. -/
def ScheduledOperation.perform (scheduled : ScheduledOperation) (world : World) :
    Except VaultError Answer × World :=
  let conditions : Conditions :=
    { settings := scheduled.settings
      deadline := scheduled.timeAllowed.map (world.clock + ·)
      now := scheduled.now
      faults := scheduled.faults }
  scheduled.operation.perform conditions world

/-- The state after a run of operations. -/
def runOperations : List ScheduledOperation → World → World
  | [], world => world
  | scheduled :: rest, world => runOperations rest (scheduled.perform world).2

end ContentVault
