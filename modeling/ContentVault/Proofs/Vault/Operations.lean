import ContentVault.Proofs.Vault.Lookups
import ContentVault.Proofs.Vault.Upload

/-!
# Operations as sequences of calls

What has to be known of single calls in order to know it of every operation.

* a revert appends only versions that it has derived from what it just read, and it breaks
  off only where the file that it read has the largest number;
* an upload stores only content that the catalog has just denied to know, and tags
  only the file that it has just registered;
* a relation that lookups and changes made under these provisos respect is respected
  by every operation.
-/

namespace ContentVault

open World StoreRequest

/-- The live file and the version from which a revert starts. -/
structure Tables.Revertible (tables : Tables) (fileId : String) (target : UInt32)
    (file : FileRecord) (source : VersionRecord) : Prop where
  live : tables.getFile fileId = .ok (some file)
  found : tables.getVersion fileId target = .ok (some source)

/-- Why a revert ends with its lookups: one of them is not answered, or it finds nothing. -/
inductive Tables.RefusesRevert (tables : Tables) (fileId : String) (target : UInt32) :
    VaultError → Prop
  | unanswered (cause : StoreFailure) : RefusesRevert tables fileId target (.catalogRead cause)
  | noFile (absent : tables.getFile fileId = .ok none) :
      RefusesRevert tables fileId target (.noFile fileId)
  | noVersion (absent : tables.getVersion fileId target = .ok none) :
      RefusesRevert tables fileId target (.noVersion target.toNat fileId)

/-- A relation that the changes respect which move files to the trash and append versions. -/
structure AllowsMoves (relation : World → World → Prop) (conditions : Conditions) : Prop where
  trash : ∀ fileIds, (trash fileIds conditions.now).Within relation conditions
  append : ∀ {asked : World} {fileId : String} {target : UInt32} {file : FileRecord}
    {source : VersionRecord}, asked.tables.Revertible fileId target file source →
      ∀ number limit,
        relation asked
          (appendVersion (Vault.revertedVersion file number source target conditions.now)
            file.currentVersion conditions limit asked).2

/-- A relation that the changes respect which operations other than uploads make. -/
structure AllowsChanges (relation : World → World → Prop) (conditions : Conditions) : Prop
    extends AllowsMoves relation conditions where
  describe : ∀ {update : MetadataUpdate} {details : FileDetails},
    Vault.checkUpdate update = .ok details →
      ∀ fileId,
        (updateDetails fileId details (update.tags.map parseTags) conditions.now).Within
          relation conditions

namespace Vault

variable {relation : World → World → Prop} {conditions : Conditions} {before after : World}
  {fileId path : String}

theorem getFile_of_liveFile {file : FileRecord}
    (live : liveFile fileId conditions before = (.ok file, after)) :
    before.tables.getFile fileId = .ok (some file) := by
  unfold liveFile at live
  rw [VaultAction.bind_eq_ok] at live
  obtain ⟨found, between, looked, live⟩ := live
  rw [bounded_eq_ok] at looked
  split at live
  · cases live
    exact read_eq_ok looked
  · cases live

theorem bounded_read_cases (call : CatalogCall) {α : Type}
    (run : Tables → Except CatalogError α) (conditions : Conditions) (before : World) :
    (∃ cause after,
        bounded .catalogRead (read call run) conditions before =
          (.error (.catalogRead cause), after)) ∨
      ∃ value after,
        bounded .catalogRead (read call run) conditions before = (.ok value, after) ∧
          run before.tables = .ok value := by
  rcases looked : read call run conditions (timeLimit conditions before) before with
    ⟨failure | value, after⟩
  · refine Or.inl ⟨failure, after, ?_⟩
    rw [bounded, looked]
    rfl
  · exact Or.inr ⟨value, after, bounded_eq_ok.2 looked, read_eq_ok looked⟩

/-- A live file is found, or the lookup tells why not. -/
theorem liveFile_refusesRevert {failure : VaultError} (target : UInt32)
    (failed : liveFile fileId conditions before = (.error failure, after)) :
    before.tables.RefusesRevert fileId target failure := by
  unfold liveFile at failed
  rw [VaultAction.bind_apply] at failed
  rcases bounded_read_cases .getFile (fun tables => tables.getFile fileId) conditions before with
    ⟨cause, between, looked⟩ | ⟨_ | file, between, looked, found⟩
  · rw [getFile, looked] at failed
    cases failed
    exact .unanswered cause
  · rw [getFile, looked] at failed
    cases failed
    exact .noFile found
  · rw [getFile, looked] at failed
    cases failed

/-- The next number is one more, unless there is none. -/
theorem nextNumber_cases (number : UInt32) (conditions : Conditions) (before : World) :
    (number = 0xFFFFFFFF ∧ nextNumber number conditions before = (.error .overflow, before)) ∨
      ∃ next, number.toNat + 1 = next.toNat ∧
        nextNumber number conditions before = (.ok next, before) := by
  unfold nextNumber
  by_cases inRange : number.toNat + 1 < UInt32.size
  · rw [if_pos inRange]
    refine Or.inr ⟨number + 1, ?_, rfl⟩
    rw [UInt32.toNat_add]
    exact (Nat.mod_eq_of_lt inRange).symm
  · rw [if_neg inRange]
    have bound := number.toNat_lt
    have largest : number.toNat = (0xFFFFFFFF : UInt32).toNat := by
      change number.toNat = 4294967295
      change ¬ number.toNat + 1 < 4294967296 at inRange
      omega
    exact Or.inl ⟨UInt32.toNat_inj.1 largest, rfl⟩

/-- Reading the wall clock leaves the state alone. -/
theorem wallClock_bind {α : Type} (next : Timestamp → VaultAction α) :
    (wallClock >>= next) conditions before = next conditions.now conditions before :=
  VaultAction.bind_apply

section Changes

variable [IsPreorder World relation] (queries : AllowsQueries relation conditions)
  (moves : AllowsMoves relation conditions)

include moves

theorem within_delete (fileId : String) :
    VaultAction.Within relation conditions (delete fileId) := by
  intro before
  unfold delete
  rw [wallClock_bind]
  refine VaultAction.Within.bind (VaultAction.Within.bounded (moves.trash [fileId]))
    (fun trashed => ?_) before
  split
  · exact VaultAction.Within.throw _
  · exact VaultAction.Within.pure _

theorem within_batchDelete (fileIds : List String) :
    VaultAction.Within relation conditions (batchDelete fileIds) := by
  unfold batchDelete
  dsimp only
  split
  · exact VaultAction.Within.throw_bind _ _
  · intro before
    rw [wallClock_bind]
    exact VaultAction.Within.bind (VaultAction.Within.bounded (moves.trash _))
      (fun _ => VaultAction.Within.pure _) before

include queries

omit moves in
theorem within_updateMetadata (changes : AllowsChanges relation conditions) (fileId : String)
    (update : MetadataUpdate) :
    VaultAction.Within relation conditions (updateMetadata fileId update) := by
  unfold updateMetadata
  rcases checked : checkUpdate update with refusal | details
  · exact VaultAction.Within.throw _
  · intro before
    dsimp only
    rw [wallClock_bind]
    refine VaultAction.Within.bind
      (VaultAction.Within.bounded (changes.describe checked fileId)) (fun updated => ?_) before
    split
    · exact VaultAction.Within.throw_bind _ _
    · exact within_metadata queries fileId none

omit moves in
/-- An attempt at a revert ends with a lookup, or it looks up the file and the version. Then
it asks for the new version under the next number, or it breaks off if there is none. -/
theorem revertOnce_cases (fileId : String) (target : UInt32) (before : World) :
    (∃ failure after,
        relation before after ∧ before.tables.RefusesRevert fileId target failure ∧
          revertOnce fileId target conditions before = (.error failure, after)) ∨
      ∃ file source asked,
        relation before asked ∧ before.tables = asked.tables ∧
          asked.tables.Revertible fileId target file source ∧
          (file.currentVersion = 0xFFFFFFFF ∧
              revertOnce fileId target conditions before = (.error .overflow, asked) ∨
            ∃ number answer after,
              file.currentVersion.toNat + 1 = number.toNat ∧
                appendVersion (revertedVersion file number source target conditions.now)
                    file.currentVersion conditions (timeLimit conditions asked) asked =
                  (answer, after) ∧
                revertOnce fileId target conditions before =
                  (.ok (answer.map fun () => ⟨fileId, number, target⟩), after)) := by
  have lookedUp := within_liveFile queries fileId before
  have sameTables := (within_liveFile (onlyRead_allowsLookups conditions).queries fileId
    before).tables
  unfold revertOnce
  rw [VaultAction.bind_apply]
  rcases live : liveFile fileId conditions before with ⟨failure | file, between⟩
  · rw [live] at lookedUp
    exact Or.inl ⟨failure, between, lookedUp, liveFile_refusesRevert target live, rfl⟩
  rw [live] at lookedUp sameTables
  have readVersion := within_getVersion queries fileId target between
  have stillSame := (within_getVersion (onlyRead_allowsLookups conditions).queries fileId target
    between).tables
  simp only
  rw [VaultAction.bind_apply]
  rcases bounded_read_cases .getVersion (fun tables => tables.getVersion fileId target)
    conditions between with ⟨cause, asked, found⟩ | ⟨_ | source, asked, found, known⟩
  · rw [getVersion, found] at readVersion ⊢
    exact Or.inl ⟨_, asked, trans_of relation lookedUp readVersion, .unanswered cause, rfl⟩
  · rw [getVersion, found] at readVersion ⊢
    change between.tables = before.tables at sameTables
    rw [sameTables] at known
    exact Or.inl ⟨_, asked, trans_of relation lookedUp readVersion, .noVersion known, rfl⟩
  rw [getVersion, found] at readVersion stillSame ⊢
  have revertible : asked.tables.Revertible fileId target file source := by
    constructor
    · rw [stillSame, sameTables]
      exact getFile_of_liveFile live
    · rw [stillSame]
      exact known
  refine Or.inr ⟨file, source, asked, trans_of relation lookedUp readVersion,
    (stillSame.trans sameTables).symm, revertible, ?_⟩
  simp only
  rw [VaultAction.bind_apply]
  rcases nextNumber_cases file.currentVersion conditions asked with
    ⟨largest, counted⟩ | ⟨number, follows, counted⟩
  · rw [counted]
    exact Or.inl ⟨largest, rfl⟩
  rcases appended : appendVersion (revertedVersion file number source target conditions.now)
    file.currentVersion conditions (timeLimit conditions asked) asked with ⟨answer, after⟩
  refine Or.inr ⟨number, answer, after, follows, appended, ?_⟩
  rw [counted]
  simp only
  rw [wallClock_bind, VaultAction.bind_apply, attempt_eq_ok.2 appended]
  rfl

theorem within_revertOnce (fileId : String) (target : UInt32) :
    VaultAction.Within relation conditions (revertOnce fileId target) := by
  intro before
  rcases revertOnce_cases queries fileId target before with
    ⟨failure, after, lookedUp, _, outcome⟩ |
      ⟨file, source, asked, lookedUp, _, revertible,
        ⟨_, outcome⟩ | ⟨number, answer, after, _, appended, outcome⟩⟩
  · rw [outcome]
    exact lookedUp
  · rw [outcome]
    exact lookedUp
  · have added := moves.append revertible number (timeLimit conditions asked)
    rw [appended] at added
    rw [outcome]
    exact trans_of relation lookedUp added

theorem within_revertWithin (fileId : String) (target : UInt32) (again : Nat) :
    VaultAction.Within relation conditions (revertWithin fileId target again) := by
  induction again with
  | zero =>
      refine VaultAction.Within.bind (within_revertOnce queries moves fileId target)
        fun outcome => ?_
      split
      · exact VaultAction.Within.pure _
      · exact VaultAction.Within.throw _
  | succ again inductionHypothesis =>
      refine VaultAction.Within.bind (within_revertOnce queries moves fileId target)
        fun outcome => ?_
      split
      · exact VaultAction.Within.pure _
      · exact inductionHypothesis
      · exact VaultAction.Within.throw _

theorem within_revert (fileId : String) (target : Int) :
    VaultAction.Within relation conditions (revert fileId target) := by
  unfold revert
  split
  · exact VaultAction.Within.throw _
  · split
    · exact VaultAction.Within.throw _
    · exact within_revertWithin queries moves fileId _ _

end Changes

end Vault

/-- What every call of an operation respects, the operation respects.  Uploads and updates are
left to themselves. -/
theorem Operation.related_of_moves {relation : World → World → Prop}
    [IsPreorder World relation] {conditions : Conditions}
    (lookups : AllowsLookups relation conditions) (moves : AllowsMoves relation conditions)
    {operation : Operation} {before : World}
    (uploads : ∀ request, operation = .upload request →
      relation before (Vault.upload request conditions before).2)
    (updates : ∀ fileId update, operation = .update fileId update →
      relation before (Vault.updateMetadata fileId update conditions before).2) :
    relation before (operation.perform conditions before).2 := by
  have queries : AllowsQueries relation conditions := lookups.queries
  cases operation with
  | upload request =>
      rw [perform, VaultAction.map_snd]
      exact uploads request rfl
  | download fileId selector =>
      exact (Vault.within_download lookups fileId selector).map _ before
  | metadata fileId selector =>
      exact (Vault.within_metadata queries fileId selector).map _ before
  | resolve fileId selector =>
      exact (Vault.within_resolve queries fileId selector).map _ before
  | versions fileId =>
      exact (Vault.within_versions queries fileId).map _ before
  | diff fileId fromNumber toNumber =>
      exact (Vault.within_diff lookups fileId fromNumber toNumber).map _ before
  | revert fileId target =>
      exact (Vault.within_revert queries moves fileId target).map _ before
  | delete fileId =>
      exact (Vault.within_delete moves fileId).map _ before
  | batchDelete fileIds =>
      exact (Vault.within_batchDelete moves fileIds).map _ before
  | update fileId update =>
      rw [perform, VaultAction.map_snd]
      exact updates fileId update rfl
  | list request =>
      exact (Vault.within_list queries request).map _ before

/-- What every call of an operation respects, the operation respects.  Uploads are left
to themselves. -/
theorem Operation.related {relation : World → World → Prop} [IsPreorder World relation]
    {conditions : Conditions} (lookups : AllowsLookups relation conditions)
    (changes : AllowsChanges relation conditions) {operation : Operation} {before : World}
    (uploads : ∀ request, operation = .upload request →
      relation before (Vault.upload request conditions before).2) :
    relation before (operation.perform conditions before).2 :=
  related_of_moves lookups changes.toAllowsMoves uploads fun fileId update _ =>
    Vault.within_updateMetadata lookups.queries changes fileId update before

end ContentVault
