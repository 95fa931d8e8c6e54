import ContentVault.Proofs.Catalog.Lockstep
import ContentVault.Proofs.Catalog.Tagging
import ContentVault.Proofs.Vault.Evolution
import ContentVault.Proofs.Vault.Operations

/-!
# Operations in step

The same operation on two related states of the stores, without faults of the catalog.

* calls run in step if they answer the same on both sides and leave the states related;
* an operation runs in step if all calls do that are about the files, paths and tags which
  the operation is about;
* listings, which are about all files, have to run in step on their own.
-/

namespace ContentVault

open StoreRequest

/-- A call that does the same on related states, within the same limit. -/
def StoreRequest.InStep {α : Type} (here there : Conditions)
    (relation : World → World → Prop) (expects : α → Prop) (request : StoreRequest α) : Prop :=
  ∀ limit first second, relation first second →
    SameOutcome relation expects (request here limit first) (request there limit second)

namespace VaultAction

variable {α β : Type} {here there : Conditions} {relation : World → World → Prop}
  {expects : α → Prop} {wants : β → Prop}

/-- An operation that does the same on related states. -/
def InStep (here there : Conditions) (relation : World → World → Prop) (expects : α → Prop)
    (action : VaultAction α) : Prop :=
  ∀ first second, relation first second →
    SameOutcome relation expects (action here first) (action there second)

namespace InStep

theorem pure {value : α} (expected : expects value) :
    InStep here there relation expects (Pure.pure value) :=
  fun _ _ related => .of_ok related expected

theorem throw (failure : VaultError) :
    InStep here there relation expects (MonadExcept.throw failure : VaultAction α) :=
  fun _ _ related => .of_error related

theorem bind {first : VaultAction α} {next : α → VaultAction β}
    (firstInStep : InStep here there relation expects first)
    (nextInStep : ∀ value, expects value → InStep here there relation wants (next value)) :
    InStep here there relation wants (first >>= next) :=
  fun left right related => (firstInStep left right related).bindCont nextInStep

/-- What follows an error does not matter. -/
theorem throw_bind (failure : VaultError) (next : α → VaultAction β) :
    InStep here there relation wants
      ((MonadExcept.throw failure : VaultAction α) >>= next) :=
  fun _ _ related => .of_error related

theorem weaken {action : VaultAction α} (inStep : InStep here there relation expects action) :
    InStep here there relation (fun _ => True) action :=
  fun first second related =>
    ⟨(inStep first second related).answers, (inStep first second related).states,
      fun _ _ => trivial⟩

theorem map {action : VaultAction α} (convert : α → β)
    (inStep : InStep here there relation expects action) :
    InStep here there relation (fun _ => True) (convert <$> action) :=
  bind inStep fun _ _ => pure trivial

theorem wallClock (sameTime : here.now = there.now) :
    InStep here there relation (fun now => now = here.now) Vault.wallClock :=
  fun _ _ related => ⟨congrArg Except.ok sameTime, related, fun _ same => (Except.ok.inj same).symm⟩

end InStep

end VaultAction

theorem mapError_eq_ok {ε ε' α : Type} {convert : ε → ε'} {answer : Except ε α} {value : α} :
    answer.mapError convert = .ok value ↔ answer = .ok value := by
  cases answer <;> simp [Except.mapError]

/-- Without faults work is done at once. -/
theorem StoreRequest.toCatalog_of_noFaults {α : Type} {call : CatalogCall}
    {rival : String → Option String → Tables → Tables}
    {run : Tables → Except CatalogError α × Tables} {conditions : Conditions} {limit : Nat}
    {before : World} (faultless : conditions.faults = noFaults) :
    toCatalog call rival run conditions limit before =
      ((run before.tables).1.mapError .catalog,
        { before.record (.catalog call) with tables := (run before.tables).2 }) := by
  unfold toCatalog
  rw [faultless]
  rfl

/-! ## Calls to the blobs -/

/-- Related states whose blob stores are related and wait alike, whatever passes while they
wait and whatever related stores are put in their place. -/
structure BlobsInStep (here there : Conditions) (relation : World → World → Prop)
    (blobs : BlobStore → BlobStore → Prop) : Prop where
  now : here.now = there.now
  latency : ∀ {left right : BlobStore}, blobs left right → left.latency = right.latency
  held : ∀ {first second : World}, relation first second → blobs first.blobs second.blobs
  noted : ∀ {first second : World} (call : StoreCall), relation first second →
    relation (first.record call) (second.record call)
  waited : ∀ {first second : World} (milliseconds : Nat), relation first second →
    relation (first.advance milliseconds) (second.advance milliseconds)
  replaced : ∀ {first second : World} {left right : BlobStore}, relation first second →
    blobs left right → relation { first with blobs := left } { second with blobs := right }

namespace BlobsInStep

variable {α : Type} {here there : Conditions} {relation : World → World → Prop}
  {blobs : BlobStore → BlobStore → Prop} (inStep : BlobsInStep here there relation blobs)
  {operation : BlobOperation} {path : String}
  {run : List UInt8 → Timestamp → BlobStore → Except BlobError α × BlobStore}

include inStep

/-- Both calls wait too long, or both are carried out. -/
theorem toBlobs_cases (limit : Nat) {first second : World} (related : relation first second) :
    (∃ left right, relation left right ∧
      toBlobs operation path run here limit first = (.error .timedOut, left) ∧
      toBlobs operation path run there limit second = (.error .timedOut, right)) ∨
    ∃ left right, relation left right ∧
      toBlobs operation path run here limit first =
        ((run (Utf8.encode path) here.now first.blobs).1.mapError .blob,
          { left with blobs := (run (Utf8.encode path) here.now first.blobs).2 }) ∧
      toBlobs operation path run there limit second =
        ((run (Utf8.encode path) here.now second.blobs).1.mapError .blob,
          { right with blobs := (run (Utf8.encode path) here.now second.blobs).2 }) := by
  have noted := inStep.noted (.blob operation path) related
  have sameLatency := inStep.latency (inStep.held related)
  simp only [toBlobs, afterWaiting, World.waitAtMost,
    show ∀ world : World, (world.record (.blob operation path)).blobs = world.blobs
      from fun _ => rfl, ← sameLatency, ← inStep.now]
  by_cases inTime : first.blobs.latency ≤ limit
  · simp only [if_pos inTime]
    exact .inr ⟨_, _, inStep.waited first.blobs.latency noted, rfl, rfl⟩
  · simp only [if_neg inTime]
    exact .inl ⟨_, _, inStep.waited limit noted, rfl, rfl⟩

/-- A call runs in step if what it does to the blobs does. -/
theorem toBlobs {expects : α → Prop}
    (same : ∀ {left right}, blobs left right →
      SameOutcome blobs expects (run (Utf8.encode path) here.now left)
        (run (Utf8.encode path) here.now right)) :
    (StoreRequest.toBlobs operation path run).InStep here there relation expects := by
  intro limit first second related
  rcases inStep.toBlobs_cases limit related with
    ⟨left, right, after, isHere, isThere⟩ | ⟨left, right, after, isHere, isThere⟩
  · rw [isHere, isThere]
    exact .of_error after
  · have outcome := same (inStep.held related)
    rw [isHere, isThere]
    exact ⟨congrArg (Except.mapError StoreFailure.blob) outcome.answers,
      inStep.replaced after outcome.states,
      fun value succeeded => outcome.expected value (mapError_eq_ok.1 succeeded)⟩

/-- Descriptions of a blob may differ in all but whether there is one. -/
theorem statBlob
    (same : ∀ {left right}, blobs left right →
      (left.stat (Utf8.encode path) here.now).1.map (fun _ => ()) =
          (right.stat (Utf8.encode path) here.now).1.map (fun _ => ()) ∧
        blobs (left.stat (Utf8.encode path) here.now).2
          (right.stat (Utf8.encode path) here.now).2)
    (limit : Nat) {first second : World} (related : relation first second) :
    (StoreRequest.statBlob path here limit first).1.map (fun _ => ()) =
        (StoreRequest.statBlob path there limit second).1.map (fun _ => ()) ∧
      relation (StoreRequest.statBlob path here limit first).2
        (StoreRequest.statBlob path there limit second).2 := by
  rw [StoreRequest.statBlob]
  rcases inStep.toBlobs_cases limit related with
    ⟨left, right, after, isHere, isThere⟩ | ⟨left, right, after, isHere, isThere⟩
  · rw [isHere, isThere]
    exact ⟨rfl, after⟩
  · obtain ⟨sameAnswer, again⟩ := same (inStep.held related)
    rw [isHere, isThere]
    refine ⟨?_, inStep.replaced after again⟩
    generalize first.blobs.stat (Utf8.encode path) here.now = described at sameAnswer ⊢
    generalize second.blobs.stat (Utf8.encode path) here.now = other at sameAnswer ⊢
    rcases described with ⟨_ | _, _⟩ <;> rcases other with ⟨_ | _, _⟩ <;>
      cases sameAnswer <;> rfl

end BlobsInStep

/-- Two related states of the stores on which all calls about the files in scope run in
step. -/
structure StoresInStep (scope : Scope) (here there : Conditions)
    (relation : World → World → Prop) (catalogs : Tables → Tables → Prop) : Prop where
  now : here.now = there.now
  settings : here.settings = there.settings
  faultless : here.faults = noFaults ∧ there.faults = noFaults
  limits : ∀ {first second : World}, relation first second →
    Vault.timeLimit here first = Vault.timeLimit there second
  noted : ∀ {first second : World} (call : StoreCall), relation first second →
    relation (first.record call) (second.record call)
  catalog : CatalogInStep scope catalogs
  tables : ∀ {first second : World}, relation first second →
    catalogs first.tables second.tables
  written : ∀ {first second : World} {left right : Tables}, relation first second →
    catalogs left right → relation { first with tables := left } { second with tables := right }
  stat : ∀ {fileId path : String}, scope.file fileId → scope.path fileId path →
    ∀ limit first second, relation first second →
      (statBlob path here limit first).1.map (fun _ => ()) =
          (statBlob path there limit second).1.map (fun _ => ()) ∧
        relation (statBlob path here limit first).2 (statBlob path there limit second).2
  opened : ∀ {fileId path : String}, scope.file fileId → scope.path fileId path →
    (openBlob path).InStep here there relation (fun _ => True)
  whole : ∀ {fileId path : String}, scope.file fileId → scope.path fileId path →
    (readBlob path).InStep here there relation (fun _ => True)
  stored : ∀ {fileId path : String}, scope.file fileId → scope.path fileId path →
    ∀ content contentType,
      (writeBlob path content contentType).InStep here there relation (fun _ => True)
  deleted : ∀ {fileId path : String}, scope.file fileId → scope.path fileId path →
    (deleteBlob path).InStep here there relation (fun _ => True)

/-- An operation that is about files, paths and tags in scope only.  A listing is about all
files. -/
def Operation.StaysIn (scope : Scope) (conditions : Conditions) : Operation → Prop
  | .upload request =>
      scope.file (fileIdOf request.payload) ∧
        (∀ fileName, Vault.checkUpload conditions.settings request = .ok fileName →
          scope.path (fileIdOf request.payload)
            (storagePath request.owner conditions.now (fileIdOf request.payload))) ∧
        ∀ name ∈ parseTags request.tags, scope.tag name
  | .download fileId _ | .metadata fileId _ | .resolve fileId _ | .versions fileId
  | .diff fileId _ _ | .revert fileId _ | .delete fileId => scope.file fileId
  | .batchDelete fileIds => ∀ fileId ∈ fileIds.filterMap nonBlank?, scope.file fileId
  | .update fileId changes =>
      scope.file fileId ∧ ∀ text ∈ changes.tags, ∀ name ∈ parseTags text, scope.tag name
  | .list _ => True

namespace StoresInStep

variable {scope : Scope} {here there : Conditions} {relation : World → World → Prop}
  {catalogs : Tables → Tables → Prop}
  (stores : StoresInStep scope here there relation catalogs)

include stores

section Calls

variable {α : Type} {expects : α → Prop}

theorem attempt {request : StoreRequest α}
    (inStep : request.InStep here there relation expects) :
    VaultAction.InStep here there relation
      (fun outcome => ∀ value, outcome = .ok value → expects value)
      (Vault.attempt request) := by
  intro first second related
  have same := inStep (Vault.timeLimit here first) first second related
  rw [Vault.attempt, Vault.attempt, ← stores.limits related]
  exact ⟨congrArg Except.ok same.answers, same.states,
    fun outcome isOutcome value isValue => same.expected value
      ((Except.ok.inj isOutcome).trans isValue)⟩

omit stores in
theorem raiseAs_inStep {raise : StoreFailure → VaultError}
    {left right : Except StoreFailure α × World}
    (same : SameOutcome relation expects left right) :
    SameOutcome relation expects (Vault.raiseAs raise left.1, left.2)
      (Vault.raiseAs raise right.1, right.2) :=
  ⟨congrArg (Vault.raiseAs raise) same.answers, same.states,
    fun value succeeded => same.expected value (raiseAs_eq_ok.1 succeeded)⟩

theorem bounded {raise : StoreFailure → VaultError} {request : StoreRequest α}
    (inStep : request.InStep here there relation expects) :
    VaultAction.InStep here there relation expects (Vault.bounded raise request) := by
  intro first second related
  rw [Vault.bounded, Vault.bounded, ← stores.limits related]
  exact raiseAs_inStep (inStep _ first second related)

theorem detached {raise : StoreFailure → VaultError} {request : StoreRequest α}
    (inStep : request.InStep here there relation expects) :
    VaultAction.InStep here there relation expects (Vault.detached raise request) := by
  intro first second related
  rw [Vault.detached, Vault.detached, ← stores.settings]
  exact raiseAs_inStep (inStep _ first second related)

theorem toCatalog {call : CatalogCall} {rival : String → Option String → Tables → Tables}
    {run : Work α} (inStep : run.InStep catalogs expects) :
    (StoreRequest.toCatalog call rival run).InStep here there relation expects := by
  intro limit first second related
  have same := inStep first.tables second.tables (stores.tables related)
  rw [toCatalog_of_noFaults stores.faultless.1, toCatalog_of_noFaults stores.faultless.2]
  exact ⟨congrArg (Except.mapError StoreFailure.catalog) same.answers,
    stores.written (stores.noted (.catalog call) related) same.states,
    fun value succeeded => same.expected value (mapError_eq_ok.1 succeeded)⟩

theorem change {call : CatalogCall} {run : Work α} (inStep : run.InStep catalogs expects) :
    (StoreRequest.change call run).InStep here there relation expects :=
  stores.toCatalog inStep

theorem read {call : CatalogCall} {run : Tables → Except CatalogError α}
    (same : ∀ {left right}, catalogs left right → run left = run right)
    (expected : ∀ {left right value}, catalogs left right → run left = .ok value → expects value) :
    (StoreRequest.read call run).InStep here there relation expects :=
  stores.change fun _ _ related => ⟨same related, related, fun _ => expected related⟩

end Calls

/-! ## Lookups -/

section Lookups

variable {fileId : String} (inScope : scope.file fileId)

include inScope

theorem getFile :
    VaultAction.InStep here there relation
      (fun found => ∀ file ∈ found, file.fileId = fileId ∧ scope.path fileId file.path)
      (Vault.bounded .catalogRead (getFile fileId)) := by
  refine stores.bounded (stores.read (fun related => stores.catalog.getFile related inScope) ?_)
  rintro left right _ related found file rfl
  exact ⟨Vault.fileId_of_getFile found, stores.catalog.filePath related inScope found⟩

theorem liveFile :
    VaultAction.InStep here there relation
      (fun file => file.fileId = fileId ∧ scope.path fileId file.path)
      (Vault.liveFile fileId) := by
  refine VaultAction.InStep.bind (stores.getFile inScope) fun found expected => ?_
  split
  · exact VaultAction.InStep.pure (expected _ rfl)
  · exact VaultAction.InStep.throw _

theorem getVersion (number : UInt32) :
    VaultAction.InStep here there relation
      (fun found => ∀ version ∈ found, scope.path fileId version.path)
      (Vault.bounded .catalogRead (getVersion fileId number)) := by
  refine stores.bounded
    (stores.read (fun related => stores.catalog.getVersion related inScope) ?_)
  rintro left right _ related found version rfl
  exact stores.catalog.versionPath related inScope found

omit inScope in
theorem resolveCurrent {file : FileRecord} (inScope : scope.file file.fileId)
    (path : scope.path file.fileId file.path) :
    VaultAction.InStep here there relation
      (fun resolved => scope.path file.fileId resolved.path) (Vault.resolveCurrent file) :=
  VaultAction.InStep.bind (stores.getVersion inScope _) fun _ _ =>
    VaultAction.InStep.pure path

omit inScope in
theorem resolveNumber {file : FileRecord} (inScope : scope.file file.fileId) (number : Int) :
    VaultAction.InStep here there relation
      (fun resolved => scope.path file.fileId resolved.path)
      (Vault.resolveNumber file number) := by
  unfold Vault.resolveNumber
  split
  · exact VaultAction.InStep.throw _
  · refine VaultAction.InStep.bind (stores.getVersion inScope _) fun found expected => ?_
    split
    · exact VaultAction.InStep.throw _
    · exact VaultAction.InStep.pure (expected _ rfl)

omit inScope in
theorem resolveIn {file : FileRecord} (inScope : scope.file file.fileId)
    (path : scope.path file.fileId file.path) (selector : Option Int) :
    VaultAction.InStep here there relation
      (fun resolved => scope.path file.fileId resolved.path)
      (Vault.resolveIn file selector) := by
  unfold Vault.resolveIn
  split
  · exact stores.resolveCurrent inScope path
  · split
    · exact stores.resolveNumber inScope _
    · exact stores.resolveCurrent inScope path

theorem resolve (selector : Option Int) :
    VaultAction.InStep here there relation (fun _ => True) (Vault.resolve fileId selector) := by
  refine VaultAction.InStep.bind (stores.liveFile inScope) fun file ⟨isFile, path⟩ => ?_
  subst isFile
  exact (stores.resolveIn inScope path selector).weaken

theorem download (selector : Option Int) :
    VaultAction.InStep here there relation (fun _ => True)
      (Vault.download fileId selector) := by
  refine VaultAction.InStep.bind (stores.liveFile inScope) fun file ⟨isFile, path⟩ => ?_
  subst isFile
  refine VaultAction.InStep.bind (stores.resolveIn inScope path selector)
    fun resolved isPath => ?_
  exact VaultAction.InStep.bind (stores.bounded (stores.opened inScope isPath)) fun _ _ =>
    VaultAction.InStep.pure trivial

theorem metadata (selector : Option Int) :
    VaultAction.InStep here there relation (fun _ => True)
      (Vault.metadata fileId selector) := by
  refine VaultAction.InStep.bind (stores.liveFile inScope) fun file ⟨isFile, path⟩ => ?_
  subst isFile
  refine VaultAction.InStep.bind (stores.resolveIn inScope path selector) fun resolved _ => ?_
  refine VaultAction.InStep.bind (stores.bounded (stores.read
    (fun related => stores.catalog.tagsForFile related inScope) fun _ _ => trivial)) fun _ _ => ?_
  exact VaultAction.InStep.pure trivial

theorem versions :
    VaultAction.InStep here there relation (fun _ => True) (Vault.versions fileId) := by
  refine VaultAction.InStep.bind (stores.liveFile inScope) fun file _ => ?_
  refine VaultAction.InStep.bind (stores.bounded (stores.read
    (fun related => stores.catalog.listVersions related inScope) fun _ _ => trivial)) fun _ _ => ?_
  exact VaultAction.InStep.pure trivial

theorem version (number : Int) :
    VaultAction.InStep here there relation (fun version => scope.path fileId version.path)
      (Vault.version fileId number) := by
  by_cases positive : number ≤ 0
  · rw [Vault.version_of_not_positive positive]
    exact VaultAction.InStep.throw _
  · unfold Vault.version
    rw [if_neg positive]
    split
    · exact VaultAction.InStep.throw _
    · refine VaultAction.InStep.bind (stores.getVersion inScope _) fun found expected => ?_
      split
      · exact VaultAction.InStep.pure (expected _ rfl)
      · exact VaultAction.InStep.throw _

theorem compareContent {before after : VersionRecord} (oldPath : scope.path fileId before.path)
    (newPath : scope.path fileId after.path) :
    VaultAction.InStep here there relation (fun _ => True)
      (Vault.compareContent before after) := by
  have both : ∀ convert : ByteArray → ByteArray → Bool × Option LineChanges,
      VaultAction.InStep here there relation (fun _ => True) (do
        let old ← Vault.blobContent before.path
        let new ← Vault.blobContent after.path
        return convert old new) := fun convert =>
    VaultAction.InStep.bind (stores.bounded (stores.whole inScope oldPath)) fun _ _ =>
      VaultAction.InStep.bind (stores.bounded (stores.whole inScope newPath)) fun _ _ =>
        VaultAction.InStep.pure trivial
  unfold Vault.compareContent
  dsimp only
  split
  · exact VaultAction.InStep.pure trivial
  · split
    · exact both _
    · split
      · exact both _
      · exact VaultAction.InStep.pure trivial

theorem diff (fromNumber toNumber : Int) :
    VaultAction.InStep here there relation (fun _ => True)
      (Vault.diff fileId fromNumber toNumber) := by
  refine VaultAction.InStep.bind (stores.liveFile inScope) fun _ _ => ?_
  refine VaultAction.InStep.bind (stores.version inScope fromNumber) fun before oldPath => ?_
  refine VaultAction.InStep.bind (stores.version inScope toNumber) fun after newPath => ?_
  exact VaultAction.InStep.bind (stores.compareContent inScope oldPath newPath) fun _ _ =>
    VaultAction.InStep.pure trivial

/-! ## Changes -/

omit stores inScope in
theorem nextNumber (number : UInt32) :
    VaultAction.InStep here there relation (fun _ => True) (Vault.nextNumber number) := by
  unfold Vault.nextNumber
  split
  · exact VaultAction.InStep.pure trivial
  · exact VaultAction.InStep.throw _

theorem revertOnce (target : UInt32) :
    VaultAction.InStep here there relation (fun _ => True)
      (Vault.revertOnce fileId target) := by
  refine VaultAction.InStep.bind (stores.liveFile inScope) fun file ⟨isFile, _⟩ => ?_
  refine VaultAction.InStep.bind (stores.getVersion inScope target) fun found expected => ?_
  split
  · exact VaultAction.InStep.throw _
  rename_i source
  refine VaultAction.InStep.bind (nextNumber file.currentVersion) fun number _ => ?_
  refine VaultAction.InStep.bind (VaultAction.InStep.wallClock stores.now) fun now _ => ?_
  subst isFile
  have appended : (Work.appendVersion (Vault.revertedVersion file number source target now)
      file.currentVersion).InStep catalogs (fun _ => True) :=
    stores.catalog.appendVersion inScope (expected source rfl) rfl
  exact VaultAction.InStep.bind (stores.attempt (stores.change appended.transaction))
    fun _ _ => VaultAction.InStep.pure trivial

theorem revertWithin (target : UInt32) (again : Nat) :
    VaultAction.InStep here there relation (fun _ => True)
      (Vault.revertWithin fileId target again) := by
  induction again with
  | zero =>
      refine VaultAction.InStep.bind (stores.revertOnce inScope target) fun outcome _ => ?_
      split
      · exact VaultAction.InStep.pure trivial
      · exact VaultAction.InStep.throw _
  | succ again inductionHypothesis =>
      refine VaultAction.InStep.bind (stores.revertOnce inScope target) fun outcome _ => ?_
      split
      · exact VaultAction.InStep.pure trivial
      · exact inductionHypothesis
      · exact VaultAction.InStep.throw _

theorem revert (target : Int) :
    VaultAction.InStep here there relation (fun _ => True) (Vault.revert fileId target) := by
  unfold Vault.revert
  split
  · exact VaultAction.InStep.throw _
  · split
    · exact VaultAction.InStep.throw _
    · exact stores.revertWithin inScope _ _

theorem delete :
    VaultAction.InStep here there relation (fun _ => True) (Vault.delete fileId) := by
  unfold Vault.delete
  refine VaultAction.InStep.bind (VaultAction.InStep.wallClock stores.now) fun now _ => ?_
  have removed := stores.catalog.trashFiles now (List.forall_mem_singleton.2 inScope) []
  refine VaultAction.InStep.bind (stores.bounded (stores.change removed.transaction))
    fun trashed _ => ?_
  split
  · exact VaultAction.InStep.throw _
  · exact VaultAction.InStep.pure trivial

omit inScope in
theorem batchDelete {fileIds : List String}
    (inScope : ∀ fileId ∈ fileIds.filterMap nonBlank?, scope.file fileId) :
    VaultAction.InStep here there relation (fun _ => True) (Vault.batchDelete fileIds) := by
  unfold Vault.batchDelete
  dsimp only
  split
  · exact VaultAction.InStep.throw_bind _ _
  refine VaultAction.InStep.bind (VaultAction.InStep.wallClock stores.now) fun now _ => ?_
  have allInScope : ∀ fileId ∈ firstMentions [] (fileIds.filterMap nonBlank?),
      scope.file fileId := fun fileId member =>
    inScope fileId ((mem_firstMentions.1 member).resolve_left List.not_mem_nil)
  have removed := stores.catalog.trashFiles now allInScope []
  exact VaultAction.InStep.bind (stores.bounded (stores.change removed.transaction))
    fun _ _ => VaultAction.InStep.pure trivial

theorem updateMetadata {update : MetadataUpdate}
    (named : ∀ text ∈ update.tags, ∀ name ∈ parseTags text, scope.tag name) :
    VaultAction.InStep here there relation (fun _ => True)
      (Vault.updateMetadata fileId update) := by
  unfold Vault.updateMetadata
  split
  · exact VaultAction.InStep.throw _
  rename_i details _
  have allNamed : ∀ names ∈ update.tags.map parseTags, ∀ name ∈ names, scope.tag name := by
    intro names given
    obtain ⟨text, isText, rfl⟩ := Option.map_eq_some_iff.1 given
    exact named text isText
  refine VaultAction.InStep.bind (VaultAction.InStep.wallClock stores.now) fun now _ => ?_
  have described := stores.catalog.updateDetails inScope details allNamed now
  refine VaultAction.InStep.bind (stores.bounded (stores.change described.transaction))
    fun updated _ => ?_
  split
  · exact VaultAction.InStep.throw_bind _ _
  · exact stores.metadata inScope none

end Lookups

/-! ## Uploads -/

section Uploads

variable {fileId path : String} (inScope : scope.file fileId) (isPath : scope.path fileId path)

include inScope isPath

/-- A description of a blob is only looked at for whether there is one. -/
theorem ensureUnique :
    VaultAction.InStep here there relation (fun _ => True)
      (Vault.ensureUnique fileId path) := by
  refine VaultAction.InStep.bind (stores.bounded (stores.read
    (fun related => stores.catalog.fileRecord related inScope) fun _ _ => trivial))
    fun existing _ => ?_
  split
  · exact VaultAction.InStep.throw_bind _ _
  intro first second related
  obtain ⟨sameAnswer, described⟩ :=
    stores.stat inScope isPath (Vault.timeLimit here first) first second related
  simp only [VaultAction.bind_apply, Vault.attempt, ← stores.limits related]
  generalize statBlob path here (Vault.timeLimit here first) first = left at sameAnswer described ⊢
  generalize statBlob path there (Vault.timeLimit here first) second = right
    at sameAnswer described ⊢
  obtain ⟨failure | told, before⟩ := left <;> obtain ⟨otherFailure | otherTold, after⟩ := right
  · obtain rfl : failure = otherFailure := Except.error.inj sameAnswer
    cases failure with
    | blob failure =>
        dsimp only
        split
        · exact .of_ok described trivial
        · exact .of_error described
    | catalog error =>
        exact .of_error described
    | timedOut =>
        exact .of_error described
  · cases sameAnswer
  · cases sameAnswer
  · exact .of_error described

theorem removeOrphan :
    VaultAction.InStep here there relation (fun _ => True)
      (Vault.removeOrphan fileId path) := by
  have deleted : VaultAction.InStep here there relation (fun _ => True)
      (Vault.detached .storageWrite (deleteBlob path)) :=
    stores.detached (stores.deleted inScope isPath)
  intro first second related
  have looked : VaultAction.InStep here there relation (fun _ => True)
      (Vault.detached .catalogRead (fileRecord fileId)) :=
    stores.detached (stores.read (fun related => stores.catalog.fileRecord related inScope)
      fun _ _ => trivial)
  unfold Vault.removeOrphan
  rcases (looked first second related).cases with
    ⟨_ | winner, before, after, isHere, isThere, between, _⟩ |
      ⟨failure, before, after, isHere, isThere, between⟩
  · rw [isHere, isThere]
    exact deleted before after between
  · rw [isHere, isThere]
    dsimp only
    split
    · exact .of_ok between trivial
    · exact deleted before after between
  · rw [isHere, isThere]
    exact deleted before after between

end Uploads

theorem registerFile {file : FileRecord} (inScope : scope.file file.fileId)
    (isPath : scope.path file.fileId file.path) :
    VaultAction.InStep here there relation (fun _ => True)
      (Vault.registerFile file (Vault.firstVersionOf file)) := by
  have created : (Work.createFile file (Vault.firstVersionOf file)).InStep catalogs
      (fun _ => True) :=
    stores.catalog.createFile inScope isPath rfl rfl rfl
  have attempted : (createFile file (Vault.firstVersionOf file)).InStep here there relation
      (fun _ => True) := stores.toCatalog created.transaction
  refine VaultAction.InStep.bind (stores.attempt attempted) fun outcome _ => ?_
  split
  · exact VaultAction.InStep.pure trivial
  · exact VaultAction.InStep.throw _
  · exact VaultAction.InStep.throw _

theorem storeContent {file : FileRecord} (inScope : scope.file file.fileId)
    (isPath : scope.path file.fileId file.path) (payload : ByteArray) :
    VaultAction.InStep here there relation (fun _ => True)
      (Vault.storeContent file payload) := by
  intro first second related
  have wrote := stores.stored inScope isPath payload file.contentType
    (Vault.timeLimit here first) first second related
  rw [Vault.storeContent_eq, Vault.storeContent_eq, ← stores.limits related]
  rcases wrote.cases with ⟨_, before, after, isHere, isThere, between, _⟩ |
    ⟨failure, before, after, isHere, isThere, between⟩
  · rw [isHere, isThere]
    rcases (stores.registerFile inScope isPath before after between).cases with
      ⟨_, left, right, isLeft, isRight, registered, _⟩ |
        ⟨failure, left, right, isLeft, isRight, lost⟩
    · simp only [isLeft, isRight]
      exact .of_ok registered trivial
    · simp only [isLeft, isRight]
      exact .of_error (stores.removeOrphan inScope isPath left right lost).states
  · rw [isHere, isThere]
    exact .of_error between

theorem attachUploadTags {fileId : String} (inScope : scope.file fileId) {names : List String}
    (named : ∀ name ∈ names, scope.tag name) :
    VaultAction.InStep here there relation (fun _ => True)
      (Vault.attachUploadTags fileId names) := by
  unfold Vault.attachUploadTags
  split
  · exact VaultAction.InStep.pure trivial
  have attached := stores.catalog.linkTags inScope named []
  refine VaultAction.InStep.bind (stores.attempt (stores.change attached.transaction))
    fun outcome _ => ?_
  split
  · exact VaultAction.InStep.pure trivial
  · exact VaultAction.InStep.pure trivial

theorem upload {request : UploadRequest}
    (staysIn : (Operation.upload request).StaysIn scope here) :
    VaultAction.InStep here there relation (fun _ => True) (Vault.upload request) := by
  obtain ⟨inScope, isPath, named⟩ := staysIn
  intro first second related
  rw [Vault.upload_eq, Vault.upload_eq, ← stores.settings, ← stores.now]
  rcases accepted : Vault.checkUpload here.settings request with failure | fileName
  · exact .of_error related
  have path := isPath fileName accepted
  refine VaultAction.InStep.bind (stores.ensureUnique inScope path) (fun _ _ => ?_)
    first second related
  refine VaultAction.InStep.bind (stores.storeContent inScope path request.payload)
    fun _ _ => ?_
  exact VaultAction.InStep.bind (stores.attachUploadTags inScope named) fun _ _ =>
    VaultAction.InStep.pure trivial

end StoresInStep

/-- An operation runs in step if the calls about what it may touch do.  Listings are left to
themselves. -/
theorem Operation.inStep {scope : Scope} {here there : Conditions}
    {relation : World → World → Prop} {catalogs : Tables → Tables → Prop}
    (stores : StoresInStep scope here there relation catalogs) {operation : Operation}
    (staysIn : operation.StaysIn scope here)
    (lists : ∀ request, operation = .list request →
      VaultAction.InStep here there relation (fun _ => True) (Vault.list request)) :
    VaultAction.InStep here there relation (fun _ => True) operation.perform := by
  cases operation with
  | upload request =>
      exact (stores.upload staysIn).map _
  | download fileId selector =>
      exact (stores.download staysIn selector).map _
  | metadata fileId selector =>
      exact (stores.metadata staysIn selector).map _
  | resolve fileId selector =>
      exact (stores.resolve staysIn selector).map _
  | versions fileId =>
      exact (stores.versions staysIn).map _
  | diff fileId fromNumber toNumber =>
      exact (stores.diff staysIn fromNumber toNumber).map _
  | revert fileId target =>
      exact (stores.revert staysIn target).map _
  | delete fileId =>
      exact (stores.delete staysIn).map _
  | batchDelete fileIds =>
      exact (stores.batchDelete staysIn).map _
  | update fileId changes =>
      exact (stores.updateMetadata staysIn.1 staysIn.2).map _
  | list request =>
      exact (lists request rfl).map _

end ContentVault
