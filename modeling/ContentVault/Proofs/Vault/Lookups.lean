import ContentVault.Proofs.Vault.Calls
import ContentVault.Vault.Operation

/-!
# Operations that only look things up

Downloading, describing, listing and comparing make no other calls than lookups.

* a relation that every query of the catalog respects is respected by all operations
  that only ask the catalog, and one that reads of blobs respect as well by the others;
* in particular they change neither store.
-/

namespace ContentVault

open World StoreRequest

/-- A relation that every query of the catalog respects. -/
def AllowsQueries (relation : World → World → Prop) (conditions : Conditions) : Prop :=
  ∀ {α : Type} {call : CatalogCall} (run : Tables → Except CatalogError α),
    call.changes = false → (read call run).Within relation conditions

/-- A relation that every call respects which only looks something up. -/
structure AllowsLookups (relation : World → World → Prop) (conditions : Conditions) :
    Prop where
  queries : AllowsQueries relation conditions
  stat : ∀ path, (statBlob path).Within relation conditions
  opened : ∀ path, (openBlob path).Within relation conditions
  whole : ∀ path, (readBlob path).Within relation conditions

theorem onlyRead_allowsLookups (conditions : Conditions) : AllowsLookups OnlyRead conditions where
  queries := by
    intro α call run lookup
    refine onlyRead_read ?_ run
    rintro rfl
    cases lookup
  stat := fun _ => onlyRead_statBlob
  opened := fun _ => onlyRead_openBlob
  whole := fun _ => onlyRead_readBlob

namespace Vault

variable {relation : World → World → Prop} {conditions : Conditions}

theorem within_getVersion (queries : AllowsQueries relation conditions)
    (fileId : String) (number : UInt32) :
    VaultAction.Within relation conditions
      (bounded .catalogRead (getVersion fileId number)) :=
  VaultAction.Within.bounded (queries _ rfl)

theorem within_blobContent (allows : AllowsLookups relation conditions) (path : String) :
    VaultAction.Within relation conditions (blobContent path) :=
  VaultAction.Within.bounded (allows.whole path)

theorem versionNumber?_toNat (number : UInt32) :
    versionNumber? (number.toNat : Int) = some number := by
  have bound := number.toNat_lt
  rw [versionNumber?, if_pos (by omega), Int.toNat_natCast, UInt32.ofNat_toNat]

theorem toNat_of_versionNumber? {number : Int} {wanted : UInt32}
    (stands : versionNumber? number = some wanted) :
    (wanted.toNat : Int) = number := by
  unfold versionNumber? at stands
  split at stands
  · rename_i inRange
    cases stands
    have same : (UInt32.ofNat number.toNat).toNat = number.toNat :=
      UInt32.toNat_ofNat_of_lt' (by change number.toNat < 4294967296; omega)
    omega
  · cases stands

theorem version_of_not_positive {fileId : String} {number : Int} (notPositive : number ≤ 0) :
    version fileId number = throw (.badVersion number) := by
  unfold version
  rw [if_pos notPositive]
  split <;> rfl

variable [IsPreorder World relation]

/-! ## Operations that ask the catalog -/

section Queries

variable (queries : AllowsQueries relation conditions)

include queries

theorem within_liveFile (fileId : String) :
    VaultAction.Within relation conditions (liveFile fileId) := by
  refine VaultAction.Within.bind (VaultAction.Within.bounded (queries _ rfl)) fun found => ?_
  split
  · exact VaultAction.Within.pure _
  · exact VaultAction.Within.throw _

theorem within_resolveCurrent (file : FileRecord) :
    VaultAction.Within relation conditions (resolveCurrent file) :=
  VaultAction.Within.bind (within_getVersion queries _ _) fun _ => VaultAction.Within.pure _

theorem within_resolveNumber (file : FileRecord) (number : Int) :
    VaultAction.Within relation conditions (resolveNumber file number) := by
  unfold resolveNumber
  split
  · exact VaultAction.Within.throw _
  · refine VaultAction.Within.bind (within_getVersion queries _ _) fun found => ?_
    split
    · exact VaultAction.Within.throw _
    · exact VaultAction.Within.pure _

theorem within_resolveIn (file : FileRecord) (selector : Option Int) :
    VaultAction.Within relation conditions (resolveIn file selector) := by
  unfold resolveIn
  split
  · exact within_resolveCurrent queries file
  · split
    · exact within_resolveNumber queries file _
    · exact within_resolveCurrent queries file

theorem within_resolve (fileId : String) (selector : Option Int) :
    VaultAction.Within relation conditions (resolve fileId selector) :=
  VaultAction.Within.bind (within_liveFile queries fileId) fun file =>
    within_resolveIn queries file selector

theorem within_metadata (fileId : String) (selector : Option Int) :
    VaultAction.Within relation conditions (metadata fileId selector) :=
  VaultAction.Within.bind (within_liveFile queries fileId) fun file =>
    VaultAction.Within.bind (within_resolveIn queries file selector) fun _ =>
      VaultAction.Within.bind (VaultAction.Within.bounded (queries _ rfl)) fun _ =>
        VaultAction.Within.pure _

theorem within_versions (fileId : String) :
    VaultAction.Within relation conditions (versions fileId) :=
  VaultAction.Within.bind (within_liveFile queries fileId) fun _ =>
    VaultAction.Within.bind (VaultAction.Within.bounded (queries _ rfl)) fun _ =>
      VaultAction.Within.pure _

theorem within_version (fileId : String) (number : Int) :
    VaultAction.Within relation conditions (version fileId number) := by
  by_cases positive : number ≤ 0
  · rw [version_of_not_positive positive]
    exact VaultAction.Within.throw _
  · unfold version
    rw [if_neg positive]
    split
    · exact VaultAction.Within.throw _
    · refine VaultAction.Within.bind (within_getVersion queries _ _) fun found => ?_
      split
      · exact VaultAction.Within.pure _
      · exact VaultAction.Within.throw _

theorem within_listMatching (request : ListRequest) (tagId : Option String) :
    VaultAction.Within relation conditions (listMatching request tagId) := by
  refine VaultAction.Within.bind (VaultAction.Within.bounded (queries _ rfl)) fun found => ?_
  split
  · exact VaultAction.Within.pure _
  · exact VaultAction.Within.bind (VaultAction.Within.bounded (queries _ rfl)) fun _ =>
      VaultAction.Within.pure _

theorem within_list (request : ListRequest) :
    VaultAction.Within relation conditions (list request) := by
  unfold list
  split
  · exact within_listMatching queries request none
  · refine VaultAction.Within.bind (VaultAction.Within.bounded (queries _ rfl)) fun found => ?_
    split
    · exact within_listMatching queries request _
    · exact VaultAction.Within.pure _

end Queries

/-! ## Operations that read blobs as well -/

section Lookups

variable (allows : AllowsLookups relation conditions)

include allows

theorem within_download (fileId : String) (selector : Option Int) :
    VaultAction.Within relation conditions (download fileId selector) :=
  VaultAction.Within.bind (within_liveFile allows.queries fileId) fun file =>
    VaultAction.Within.bind (within_resolveIn allows.queries file selector) fun _ =>
      VaultAction.Within.bind (VaultAction.Within.bounded (allows.opened _)) fun _ =>
        VaultAction.Within.pure _

theorem within_compareContent (before after : VersionRecord) :
    VaultAction.Within relation conditions (compareContent before after) := by
  have both : ∀ convert : ByteArray → ByteArray → Bool × Option LineChanges,
      VaultAction.Within relation conditions (do
        let old ← blobContent before.path
        let new ← blobContent after.path
        return convert old new) := fun convert =>
    VaultAction.Within.bind (within_blobContent allows _) fun _ =>
      VaultAction.Within.bind (within_blobContent allows _) fun _ => VaultAction.Within.pure _
  unfold compareContent
  dsimp only
  split
  · exact VaultAction.Within.pure _
  · split
    · exact both _
    · split
      · exact both _
      · exact VaultAction.Within.pure _

theorem within_diff (fileId : String) (fromNumber toNumber : Int) :
    VaultAction.Within relation conditions (diff fileId fromNumber toNumber) :=
  VaultAction.Within.bind (within_liveFile allows.queries fileId) fun _ =>
    VaultAction.Within.bind (within_version allows.queries fileId fromNumber) fun before =>
      VaultAction.Within.bind (within_version allows.queries fileId toNumber) fun after =>
        VaultAction.Within.bind (within_compareContent allows before after) fun _ =>
          VaultAction.Within.pure _

end Lookups

end Vault

end ContentVault
