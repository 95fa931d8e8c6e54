import ContentVault.Vault.Resolve

/-!
# Reverts

Making an older version current again.

* a revert appends a version that shares the blob of the older one;
* its number is the next one, and after the largest number the revert breaks off;
* if somebody else appends a version first, the file is read again and the revert
  attempted anew, three times in all.
-/

namespace ContentVault.Vault

/-- How often a revert is attempted. -/
def revertAttempts : Nat := 3

/-- The number after another one.  There is none after the largest, and an operation that
needs it breaks off. -/
def nextNumber (number : UInt32) : VaultAction UInt32 :=
  if number.toNat + 1 < UInt32.size then return number + 1 else throw .overflow

/-- The version that a revert appends under a number. -/
def revertedVersion (file : FileRecord) (number : UInt32) (source : VersionRecord)
    (target : UInt32) (now : Timestamp) : VersionRecord :=
  .make file.fileId number source.size source.path source.contentType now
    ("Revert to version " ++ toString target.toNat)

/-- Attempt a revert once; the outcome of the last call is handed on. -/
def revertOnce (fileId : String) (target : UInt32) :
    VaultAction (Except StoreFailure RevertReceipt) := do
  let file ← liveFile fileId
  match ← bounded .catalogRead (.getVersion fileId target) with
  | none => throw (.noVersion target.toNat fileId)
  | some source =>
      let number ← nextNumber file.currentVersion
      let version := revertedVersion file number source target (← wallClock)
      let outcome ← attempt (.appendVersion version file.currentVersion)
      return outcome.map fun () => { fileId, newVersion := number, revertedTo := target }

/-- Attempt a revert, and again while attempts remain and others are faster. -/
def revertWithin (fileId : String) (target : UInt32) : Nat → VaultAction RevertReceipt
  | 0 => do
      match ← revertOnce fileId target with
      | .ok receipt => return receipt
      | .error failure => throw (.catalogWrite failure)
  | again + 1 => do
      match ← revertOnce fileId target with
      | .ok receipt => return receipt
      | .error (.catalog (.conflict _)) => revertWithin fileId target again
      | .error failure => throw (.catalogWrite failure)

/-- Make an older version of a file current again. -/
def revert (fileId : String) (target : Int) : VaultAction RevertReceipt :=
  if target ≤ 0 then
    throw (.badVersion target)
  else
    match versionNumber? target with
    | none => throw (.noVersion target fileId)
    | some number => revertWithin fileId number (revertAttempts - 1)

end ContentVault.Vault
