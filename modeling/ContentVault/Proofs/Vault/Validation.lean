import ContentVault.Proofs.Vault.Operations

/-!
# Requests refused as invalid

Which operations look at their arguments before they ask a store.

* every operation but one refuses a request by its arguments and the settings alone, and
  from its first call on it refuses nothing any more;
* the comparison of two versions is the exception: it has found the file before it looks
  at the first number, and the first version before it looks at the second.
-/

namespace ContentVault

open World StoreRequest

/-! ## Actions that refuse nothing -/

/-- An action that takes every request for valid: none of its errors is a refusal. -/
def VaultAction.NeverRefuses {α : Type} (action : VaultAction α) (conditions : Conditions) :
    Prop :=
  ∀ before reason, (action conditions before).1 ≠ .error (.validation reason)

namespace VaultAction.NeverRefuses

variable {α β : Type} {conditions : Conditions}

theorem pure (value : α) : (Pure.pure value : VaultAction α).NeverRefuses conditions := by
  intro before reason refused
  cases refused

theorem throw {failure : VaultError} (other : ∀ reason, failure ≠ .validation reason) :
    (MonadExcept.throw failure : VaultAction α).NeverRefuses conditions := by
  intro before reason refused
  exact other reason (Except.error.inj refused)

theorem throw_bind {failure : VaultError} (other : ∀ reason, failure ≠ .validation reason)
    (next : α → VaultAction β) :
    ((MonadExcept.throw failure : VaultAction α) >>= next).NeverRefuses conditions := by
  intro before reason refused
  exact other reason (Except.error.inj refused)

theorem attempt (request : StoreRequest α) :
    (Vault.attempt request).NeverRefuses conditions := by
  intro before reason refused
  cases refused

theorem bounded {raise : StoreFailure → VaultError}
    (other : ∀ failure reason, raise failure ≠ .validation reason) (request : StoreRequest α) :
    (Vault.bounded raise request).NeverRefuses conditions := by
  intro before reason refused
  change Vault.raiseAs raise (request conditions _ before).1 = _ at refused
  rcases answer : (request conditions (Vault.timeLimit conditions before) before).1 with
    failure | value
  · rw [answer] at refused
    exact other failure reason (Except.error.inj refused)
  · rw [answer] at refused
    cases refused

/-- Calls of which a failed read of the catalog is the only error. -/
theorem catalogRead (request : StoreRequest α) :
    (Vault.bounded .catalogRead request).NeverRefuses conditions :=
  bounded (fun _ _ => VaultError.noConfusion) request

theorem bind {first : VaultAction α} {next : α → VaultAction β}
    (firstNever : first.NeverRefuses conditions)
    (nextNever : ∀ value, (next value).NeverRefuses conditions) :
    (first >>= next).NeverRefuses conditions := by
  intro before reason refused
  have firstOutcome := firstNever before reason
  rw [bind_apply] at refused
  rcases outcome : first conditions before with ⟨failure | value, between⟩
  · rw [outcome] at refused firstOutcome
    exact firstOutcome (congrArg Except.error (Except.error.inj refused))
  · rw [outcome] at refused
    exact nextNever value between reason refused

theorem map {action : VaultAction α} (convert : α → β) (never : action.NeverRefuses conditions) :
    (convert <$> action).NeverRefuses conditions :=
  never.bind fun value => pure (convert value)

end VaultAction.NeverRefuses

namespace Vault

variable {conditions : Conditions} {before after : World} {fileId : String}

/-! ## Lookups -/

theorem liveFile_neverRefuses (fileId : String) : (liveFile fileId).NeverRefuses conditions := by
  refine VaultAction.NeverRefuses.bind (.catalogRead _) fun found => ?_
  split
  · exact .pure _
  · exact .throw fun _ => VaultError.noConfusion

theorem resolveIn_neverRefuses (file : FileRecord) (selector : Option Int) :
    (resolveIn file selector).NeverRefuses conditions := by
  have current : (resolveCurrent file).NeverRefuses conditions :=
    VaultAction.NeverRefuses.bind (.catalogRead _) fun _ => .pure _
  have numbered : ∀ number, (resolveNumber file number).NeverRefuses conditions := by
    intro number
    unfold resolveNumber
    split
    · exact .throw fun _ => VaultError.noConfusion
    · refine VaultAction.NeverRefuses.bind (.catalogRead _) fun found => ?_
      split
      · exact .throw fun _ => VaultError.noConfusion
      · exact .pure _
  unfold resolveIn
  split
  · exact current
  · split
    · exact numbered _
    · exact current

theorem resolve_neverRefuses (fileId : String) (selector : Option Int) :
    (resolve fileId selector).NeverRefuses conditions :=
  (liveFile_neverRefuses fileId).bind fun file => resolveIn_neverRefuses file selector

theorem metadata_neverRefuses (fileId : String) (selector : Option Int) :
    (metadata fileId selector).NeverRefuses conditions :=
  (liveFile_neverRefuses fileId).bind fun file =>
    (resolveIn_neverRefuses file selector).bind fun _ =>
      VaultAction.NeverRefuses.bind (.catalogRead _) fun _ => .pure _

theorem download_neverRefuses (fileId : String) (selector : Option Int) :
    (download fileId selector).NeverRefuses conditions :=
  (liveFile_neverRefuses fileId).bind fun file =>
    (resolveIn_neverRefuses file selector).bind fun _ =>
      VaultAction.NeverRefuses.bind (.bounded (fun _ _ => VaultError.noConfusion) _)
        fun _ => .pure _

theorem versions_neverRefuses (fileId : String) : (versions fileId).NeverRefuses conditions :=
  (liveFile_neverRefuses fileId).bind fun _ =>
    VaultAction.NeverRefuses.bind (.catalogRead _) fun _ => .pure _

theorem list_neverRefuses (request : ListRequest) : (list request).NeverRefuses conditions := by
  have listed : ∀ tagId, (listMatching request tagId).NeverRefuses conditions := by
    intro tagId
    refine VaultAction.NeverRefuses.bind (.catalogRead _) fun found => ?_
    split
    · exact .pure _
    · exact VaultAction.NeverRefuses.bind (.catalogRead _) fun _ => .pure _
  unfold list
  split
  · exact listed none
  · refine VaultAction.NeverRefuses.bind (.catalogRead _) fun found => ?_
    split
    · exact listed _
    · exact .pure _

/-! ## Changes -/

theorem delete_neverRefuses (fileId : String) : (delete fileId).NeverRefuses conditions := by
  unfold delete
  intro before
  rw [wallClock_bind]
  refine VaultAction.NeverRefuses.bind (.bounded (fun _ _ => VaultError.noConfusion) _)
    (fun trashed => ?_) before
  split
  · exact .throw fun _ => VaultError.noConfusion
  · exact .pure _

theorem revertWithin_neverRefuses (fileId : String) (target : UInt32) (again : Nat) :
    (revertWithin fileId target again).NeverRefuses conditions := by
  have once : (revertOnce fileId target).NeverRefuses conditions := by
    refine (liveFile_neverRefuses fileId).bind fun file => ?_
    refine VaultAction.NeverRefuses.bind (.catalogRead _) fun found => ?_
    split
    · exact .throw fun _ => VaultError.noConfusion
    · have counted : (nextNumber file.currentVersion).NeverRefuses conditions := by
        unfold nextNumber
        split
        · exact .pure _
        · exact .throw fun _ => VaultError.noConfusion
      refine counted.bind fun number => ?_
      intro before
      dsimp only
      rw [wallClock_bind]
      exact VaultAction.NeverRefuses.bind (.attempt _) (fun _ => .pure _) before
  induction again with
  | zero =>
      refine once.bind fun outcome => ?_
      split
      · exact .pure _
      · exact .throw fun _ => VaultError.noConfusion
  | succ again inductionHypothesis =>
      refine once.bind fun outcome => ?_
      split
      · exact .pure _
      · exact inductionHypothesis
      · exact .throw fun _ => VaultError.noConfusion

theorem ensureUnique_neverRefuses (fileId path : String) :
    (ensureUnique fileId path).NeverRefuses conditions := by
  unfold ensureUnique
  refine VaultAction.NeverRefuses.bind (.catalogRead _) fun existing => ?_
  split
  · exact .throw_bind (fun _ => VaultError.noConfusion) _
  · refine VaultAction.NeverRefuses.bind (.attempt _) fun answer => ?_
    split
    · exact .throw fun _ => VaultError.noConfusion
    · split
      · exact .pure _
      · exact .throw fun _ => VaultError.noConfusion
    · exact .throw fun _ => VaultError.noConfusion

theorem registerFile_neverRefuses (file : FileRecord) (version : VersionRecord) :
    (registerFile file version).NeverRefuses conditions := by
  refine VaultAction.NeverRefuses.bind (.attempt _) fun answer => ?_
  split
  · exact .pure _
  · exact .throw fun _ => VaultError.noConfusion
  · exact .throw fun _ => VaultError.noConfusion

theorem storeContent_neverRefuses (file : FileRecord) (payload : ByteArray) :
    (storeContent file payload).NeverRefuses conditions := by
  intro before reason refused
  rw [storeContent_eq] at refused
  rcases written : writeBlob file.path payload file.contentType conditions
    (timeLimit conditions before) before with ⟨failure | _, between⟩
  · rw [written] at refused
    cases refused
  · have never : (registerFile file (firstVersionOf file) conditions between).1 ≠
        .error (.validation reason) :=
      registerFile_neverRefuses file (firstVersionOf file) between reason
    rcases registered : registerFile file (firstVersionOf file) conditions between with
      ⟨failure | _, last⟩
    · simp only [written, registered] at refused never
      exact never refused
    · simp only [written, registered] at refused
      cases refused

theorem uploadAccepted_neverRefuses (request : UploadRequest) (file : FileRecord) :
    (uploadAccepted request file).NeverRefuses conditions := by
  refine (ensureUnique_neverRefuses _ _).bind fun _ => ?_
  refine (storeContent_neverRefuses _ _).bind fun _ => ?_
  refine VaultAction.NeverRefuses.bind ?_ fun _ => .pure _
  intro world reason refused
  rcases tagged : attachUploadTags file.fileId (parseTags request.tags) conditions world with
    ⟨failure | warnings, last⟩
  · exact attachUploadTags_ne_error tagged
  · rw [tagged] at refused
    cases refused

end Vault

/-! ## Refusals before the first call -/

/-- An action that refuses a request before it asks any store, so whatever the stores hold
and however they fail. -/
def VaultAction.RefusesUnasked {α : Type} (action : VaultAction α) (settings : VaultSettings)
    (reason : String) : Prop :=
  ∀ conditions : Conditions, conditions.settings = settings →
    ∀ world, action conditions world = (.error (.validation reason), world)

theorem VaultAction.RefusesUnasked.map {α β : Type} {action : VaultAction α}
    {settings : VaultSettings} {reason : String} (convert : α → β)
    (refuses : action.RefusesUnasked settings reason) :
    (convert <$> action).RefusesUnasked settings reason := by
  intro conditions sameSettings world
  rw [map_apply, refuses conditions sameSettings world]
  rfl

namespace Vault

variable {conditions : Conditions} {before after : World} {fileId reason : String}

theorem upload_refuses {request : UploadRequest}
    (refused : (upload request conditions before).1 = .error (.validation reason)) :
    (upload request).RefusesUnasked conditions.settings reason := by
  rw [upload_eq] at refused
  intro other sameSettings world
  rw [upload_eq, sameSettings]
  rcases checked : checkUpload conditions.settings request with failure | fileName
  · rw [checked] at refused
    rw [Except.error.inj refused]
  · rw [checked] at refused
    exact absurd refused (uploadAccepted_neverRefuses request _ before reason)

theorem revert_refuses {target : Int}
    (refused : (revert fileId target conditions before).1 = .error (.validation reason)) :
    (revert fileId target).RefusesUnasked conditions.settings reason := by
  intro other _ world
  unfold revert at refused ⊢
  split
  · rename_i notPositive
    rw [if_pos notPositive] at refused
    exact congrArg (·, world) refused
  · rename_i positive
    rw [if_neg positive] at refused
    rcases fits : versionNumber? target with _ | number
    · rw [fits] at refused
      cases refused
    · rw [fits] at refused
      exact absurd refused (revertWithin_neverRefuses fileId number _ before reason)

theorem batchDelete_refuses {fileIds : List String}
    (refused : (batchDelete fileIds conditions before).1 = .error (.validation reason)) :
    (batchDelete fileIds).RefusesUnasked conditions.settings reason := by
  intro other _ world
  unfold batchDelete at refused ⊢
  dsimp only at refused ⊢
  split
  · rename_i nothing
    rw [if_pos nothing] at refused
    exact congrArg (·, world) refused
  · rename_i some
    rw [if_neg some, wallClock_bind] at refused
    refine absurd refused ?_
    exact VaultAction.NeverRefuses.bind (.bounded (fun _ _ => VaultError.noConfusion) _)
      (fun _ => .pure _) before reason

theorem updateMetadata_refuses {changes : MetadataUpdate}
    (refused : (updateMetadata fileId changes conditions before).1 =
      .error (.validation reason)) :
    (updateMetadata fileId changes).RefusesUnasked conditions.settings reason := by
  intro other _ world
  unfold updateMetadata at refused ⊢
  rcases checked : checkUpdate changes with failure | details
  · rw [checked] at refused
    exact congrArg (·, world) refused
  · rw [checked] at refused
    dsimp only at refused
    rw [wallClock_bind] at refused
    refine absurd refused ?_
    refine VaultAction.NeverRefuses.bind (.bounded (fun _ _ => VaultError.noConfusion) _)
      (fun updated => ?_) before reason
    split
    · exact .throw_bind (fun _ => VaultError.noConfusion) _
    · exact metadata_neverRefuses fileId none

/-! ## Refusals of a comparison -/

theorem version_neverRefuses {number : Int} (positive : ¬ number ≤ 0) :
    (version fileId number).NeverRefuses conditions := by
  unfold version
  rw [if_neg positive]
  split
  · exact .throw fun _ => VaultError.noConfusion
  · refine VaultAction.NeverRefuses.bind (.catalogRead _) fun found => ?_
    split
    · exact .pure _
    · exact .throw fun _ => VaultError.noConfusion

theorem compareContent_neverRefuses (old new : VersionRecord) :
    (compareContent old new).NeverRefuses conditions := by
  have content : ∀ path, (blobContent path).NeverRefuses conditions :=
    fun path => .bounded (fun _ _ => VaultError.noConfusion) _
  have both : ∀ convert : ByteArray → ByteArray → Bool × Option LineChanges,
      VaultAction.NeverRefuses (do
        let first ← blobContent old.path
        let second ← blobContent new.path
        return convert first second) conditions :=
    fun convert => (content _).bind fun _ => (content _).bind fun _ => .pure _
  unfold compareContent
  dsimp only
  split
  · exact .pure _
  · split
    · exact both _
    · split
      · exact both _
      · exact .pure _

/-- What a file that was found alive tells of the state. -/
theorem liveFile_eq_ok {file : FileRecord}
    (live : liveFile fileId conditions before = (.ok file, after)) :
    before.tables.getFile fileId = .ok (some file) ∧ before.Noted (.catalog .getFile) after := by
  refine ⟨getFile_of_liveFile live, ?_⟩
  unfold liveFile at live
  rw [VaultAction.bind_eq_ok] at live
  obtain ⟨found, between, looked, live⟩ := live
  split at live
  · cases live
    exact read_noted (bounded_eq_ok.1 looked)
  · cases live

/-- What a version that was found tells of the state. -/
theorem version_eq_ok {number : Int} {found : VersionRecord}
    (known : version fileId number conditions before = (.ok found, after)) :
    0 < number ∧ before.Noted (.catalog .getVersion) after := by
  by_cases notPositive : number ≤ 0
  · rw [version_of_not_positive notPositive] at known
    cases known
  unfold version at known
  rw [if_neg notPositive] at known
  split at known
  · cases known
  · rw [VaultAction.bind_eq_ok] at known
    obtain ⟨answer, between, looked, known⟩ := known
    split at known
    · cases known
      exact ⟨Int.not_le.1 notPositive, read_noted (bounded_eq_ok.1 looked)⟩
    · cases known

/-- A comparison that was refused had found the file, and the first version if it was the
second number that was refused. -/
theorem diff_refused {fromNumber toNumber : Int}
    (refused : diff fileId fromNumber toNumber conditions before =
      (.error (.validation reason), after)) :
    (∃ file, before.tables.getFile fileId = .ok (some file)) ∧
      ((fromNumber ≤ 0 ∧ .badVersion fromNumber = VaultError.validation reason ∧
          after.calls = .catalog .getFile :: before.calls) ∨
        0 < fromNumber ∧ toNumber ≤ 0 ∧ .badVersion toNumber = VaultError.validation reason ∧
          after.calls = .catalog .getVersion :: .catalog .getFile :: before.calls) := by
  have liveNever : (liveFile fileId conditions before).1 ≠ .error (.validation reason) :=
    liveFile_neverRefuses fileId before reason
  unfold diff at refused
  rw [VaultAction.bind_apply] at refused
  rcases live : liveFile fileId conditions before with ⟨failure | file, found⟩
  · rw [live] at refused liveNever
    cases refused
    exact absurd rfl liveNever
  rw [live] at refused
  obtain ⟨isFile, notedFile⟩ := liveFile_eq_ok live
  refine ⟨⟨file, isFile⟩, ?_⟩
  dsimp only at refused
  by_cases fromPositive : fromNumber ≤ 0
  · rw [version_of_not_positive fromPositive] at refused
    cases refused
    exact Or.inl ⟨fromPositive, rfl, notedFile.calls⟩
  rw [VaultAction.bind_apply] at refused
  have fromNever : (version fileId fromNumber conditions found).1 ≠
      .error (.validation reason) :=
    version_neverRefuses fromPositive found reason
  rcases known : version fileId fromNumber conditions found with ⟨failure | old, knownAt⟩
  · rw [known] at refused fromNever
    cases refused
    exact absurd rfl fromNever
  rw [known] at refused
  have calls := (version_eq_ok known).2.calls
  rw [notedFile.calls] at calls
  dsimp only at refused
  by_cases toPositive : toNumber ≤ 0
  · rw [version_of_not_positive toPositive] at refused
    cases refused
    exact Or.inr ⟨Int.not_le.1 fromPositive, toPositive, rfl, calls⟩
  have lastNever : ∀ {next : VersionRecord → VaultAction VersionDiff},
      (∀ new, (next new).NeverRefuses conditions) →
        ((version fileId toNumber >>= next) conditions knownAt).1 ≠
          .error (.validation reason) :=
    fun nextNever => (version_neverRefuses toPositive).bind nextNever knownAt reason
  refine absurd (congrArg Prod.fst refused) (lastNever fun new => ?_)
  exact (compareContent_neverRefuses old new).bind fun _ => .pure _

end Vault

/-! ## Operations -/

theorem VaultAction.map_fst_eq_error {α β : Type} {action : VaultAction α} {convert : α → β}
    {conditions : Conditions} {before : World} {failure : VaultError}
    (failed : ((convert <$> action) conditions before).1 = .error failure) :
    (action conditions before).1 = .error failure := by
  rw [map_apply] at failed
  rcases outcome : (action conditions before).1 with reason | value
  · rw [outcome] at failed
    exact congrArg Except.error (Except.error.inj failed)
  · rw [outcome] at failed
    cases failed

/-- What refuses a request, except for the comparison of two versions, asks nothing. -/
theorem Operation.refusesUnasked {operation : Operation} {conditions : Conditions}
    {before : World} {reason : String}
    (noComparison : ∀ fileId fromNumber toNumber,
      operation ≠ .diff fileId fromNumber toNumber)
    (refused : (operation.perform conditions before).1 = .error (.validation reason)) :
    operation.perform.RefusesUnasked conditions.settings reason := by
  cases operation with
  | upload request =>
      exact (Vault.upload_refuses (VaultAction.map_fst_eq_error refused)).map _
  | download fileId selector =>
      exact absurd refused ((Vault.download_neverRefuses fileId selector).map _ before reason)
  | metadata fileId selector =>
      exact absurd refused ((Vault.metadata_neverRefuses fileId selector).map _ before reason)
  | resolve fileId selector =>
      exact absurd refused ((Vault.resolve_neverRefuses fileId selector).map _ before reason)
  | versions fileId =>
      exact absurd refused ((Vault.versions_neverRefuses fileId).map _ before reason)
  | diff fileId fromNumber toNumber =>
      exact absurd rfl (noComparison fileId fromNumber toNumber)
  | revert fileId target =>
      exact (Vault.revert_refuses (VaultAction.map_fst_eq_error refused)).map _
  | delete fileId =>
      exact absurd refused ((Vault.delete_neverRefuses fileId).map _ before reason)
  | batchDelete fileIds =>
      exact (Vault.batchDelete_refuses (VaultAction.map_fst_eq_error refused)).map _
  | update fileId changes =>
      exact (Vault.updateMetadata_refuses (VaultAction.map_fst_eq_error refused)).map _
  | list request =>
      exact absurd refused ((Vault.list_neverRefuses request).map _ before reason)

/-- What a refusal asked. An operation that refuses a request as invalid has asked nothing
and waited for nothing, and it refuses the request under the same settings whatever the
stores hold and however they fail. Only a comparison of two versions looks things up
first: the file, and the first version if it is the second number that it refuses. -/
theorem refusals_ask_nothing {operation : Operation} {conditions : Conditions}
    {before after : World} {reason : String}
    (refused : operation.perform conditions before = (.error (.validation reason), after)) :
    ((∀ fileId fromNumber toNumber, operation ≠ .diff fileId fromNumber toNumber) →
        after = before ∧
          ∀ other : Conditions, other.settings = conditions.settings →
            ∀ world, operation.perform other world = (.error (.validation reason), world)) ∧
      ∀ fileId fromNumber toNumber, operation = .diff fileId fromNumber toNumber →
        before.OnlyRead after ∧
          (∃ file, before.tables.getFile fileId = .ok (some file)) ∧
          ((fromNumber ≤ 0 ∧ .badVersion fromNumber = VaultError.validation reason ∧
              after.calls = .catalog .getFile :: before.calls) ∨
            0 < fromNumber ∧ toNumber ≤ 0 ∧
              .badVersion toNumber = VaultError.validation reason ∧
              after.calls = .catalog .getVersion :: .catalog .getFile :: before.calls) := by
  constructor
  · intro noComparison
    have unasked := Operation.refusesUnasked noComparison (congrArg Prod.fst refused)
    have same := unasked conditions rfl before
    rw [refused] at same
    exact ⟨congrArg Prod.snd same, unasked⟩
  · rintro fileId fromNumber toNumber rfl
    rw [Operation.perform, VaultAction.map_apply] at refused
    rcases compared : Vault.diff fileId fromNumber toNumber conditions before with
      ⟨failure | difference, last⟩
    · rw [compared] at refused
      cases refused
      have looked : before.OnlyRead (Vault.diff fileId fromNumber toNumber conditions before).2 :=
        Vault.within_diff (onlyRead_allowsLookups conditions) fileId fromNumber toNumber before
      rw [compared] at looked
      exact ⟨looked, Vault.diff_refused compared⟩
    · rw [compared] at refused
      cases refused

/-- An upload of no bytes. -/
def emptyUpload : UploadRequest := { Vault.firstUpload with payload := ByteArray.empty }

/-- An upload of no bytes is refused in every state. -/
theorem empty_upload_is_refused_everywhere :
    (Operation.upload emptyUpload).perform (Vault.conditionsWith noFaults)
          (Vault.emptyVault .empty) =
        (.error (.validation "payload is empty"), Vault.emptyVault .empty) ∧
      ∀ world, (Operation.upload emptyUpload).perform (Vault.conditionsWith noFaults) world =
        (.error (.validation "payload is empty"), world) := by
  have refused : (Operation.upload emptyUpload).perform (Vault.conditionsWith noFaults)
        (Vault.emptyVault .empty) =
      (.error (.validation "payload is empty"), Vault.emptyVault .empty) := by
    have invalid : Vault.checkUpload .default emptyUpload =
        .error (.validation "payload is empty") := by
      decide +kernel
    rw [Operation.perform, VaultAction.map_apply, Vault.upload_eq]
    simp only [Vault.conditionsWith, invalid]
    rfl
  refine ⟨refused, ?_⟩
  obtain ⟨_, everywhere⟩ := (refusals_ask_nothing refused).1 (by simp)
  exact everywhere (Vault.conditionsWith noFaults) rfl

/-- A comparison that is refused has asked for the file, and where the file is unknown the
same comparison is not refused but finds nothing. -/
theorem comparison_asks_before_it_refuses :
    let fileId := fileIdOf Vault.firstUpload.payload
    let stored :=
      (Vault.upload Vault.firstUpload (Vault.conditionsWith noFaults)
        (Vault.emptyVault .empty)).2
    (Vault.diff fileId 0 1 (Vault.conditionsWith noFaults) stored).1 =
        .error (.badVersion 0) ∧
      (Vault.diff fileId 0 1 (Vault.conditionsWith noFaults) stored).2.calls =
        .catalog .getFile :: stored.calls ∧
      (Vault.diff fileId 0 1 (Vault.conditionsWith noFaults) (Vault.emptyVault .empty)).1 =
        .error (.noFile fileId) := by
  decide +kernel

end ContentVault
