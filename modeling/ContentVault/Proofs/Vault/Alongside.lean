import ContentVault.Proofs.Catalog.Alongside
import ContentVault.Proofs.Vault.Integrity
import ContentVault.Proofs.Vault.Lockstep

/-!
# An operation in two vaults

Two vaults that hold the same rows and blobs of some files and may differ in all others, and
the same operation on these files in both.

* blobs of different files have different keys, whoever owns them, so a call about one file
  leaves the blobs of all others alone;
* the operation answers the same and does the same to the rows and blobs of its files;
* in the rows of a vault every path is a storage path of its file.
-/

namespace ContentVault

open StoreRequest

/-- A path under which a vault stores the blob of a file. -/
def IsBlobPath (fileId path : String) : Prop :=
  ∃ owner storedAt, isSafeOwner owner = true ∧ IsContentAddress fileId ∧
    path = storagePath owner storedAt fileId

/-! ## Orderly vaults -/

/-- The tables stay orderly if they were. -/
def Tables.StaysOrderly (before after : Tables) : Prop :=
  before.Orderly IsBlobPath → after.Orderly IsBlobPath

namespace Tables.StaysOrderly

instance : IsPreorder Tables StaysOrderly where
  refl := fun _ => id
  trans := fun _ _ _ left right orderly => right (left orderly)

end Tables.StaysOrderly

theorem staysOrderly_respectsCommits (conditions : Conditions)
    (noRace : ∀ index owner path,
      conditions.faults .createFile index ≠ some (.loseRace owner path)) :
    RespectsCommits Tables.StaysOrderly conditions := by
  intro before after commit orderly
  have inStep := catalogInStep_of_eq IsBlobPath
  cases commit with
  | @registered request fileName _ accepted created =>
      have isPath : IsBlobPath (fileIdOf request.payload)
          (storagePath request.owner conditions.now (fileIdOf request.payload)) :=
        ⟨request.owner, conditions.now, Vault.safeOwner_of_checkUpload accepted,
          fileIdOf_isContentAddress request.payload, rfl⟩
      refine orderly.of_inStep (inStep.createFile trivial isPath rfl rfl ?_) created
      rfl
  | overtaken accepted raced created =>
      exact absurd raced (noRace _ _ _)
  | tagged live attached =>
      exact orderly.of_inStep (inStep.linkTags trivial (fun _ _ => trivial) []) attached
  | @appended fileId number target file source _ revertible added =>
      have isPath : IsBlobPath file.fileId source.path := by
        rw [Vault.fileId_of_getFile revertible.live]
        exact orderly.path_of_getVersion revertible.found
      refine orderly.of_inStep (inStep.appendVersion trivial isPath ?_) added
      rfl
  | described accepted changed =>
      exact orderly.of_inStep (inStep.updateDetails trivial _ (fun _ _ _ _ => trivial) _)
        changed
  | trashed removed =>
      exact orderly.of_inStep (inStep.trashFiles _ (fun _ _ => trivial) []) removed

theorem orderly_runOperations (schedule : List ScheduledOperation) (start : World)
    (unrivalled : ∀ scheduled ∈ schedule, scheduled.Unrivalled)
    (orderly : start.tables.Orderly IsBlobPath) :
    (runOperations schedule start).tables.Orderly IsBlobPath :=
  tablesRelated_runOperations schedule start
    (fun scheduled member world =>
      staysOrderly_respectsCommits (scheduled.conditionsAt world) (unrivalled scheduled member))
    orderly

/-! ## Blobs of some files -/

/-- A key that ends in the address of a file in scope. -/
def IsKeyOf (inScope : String → Prop) (names : List PathName) : Prop :=
  ∃ fileId, inScope fileId ∧ names.getLast? = some (Utf8.encode fileId)

/-- How a store in memory was told to behave. -/
def MemoryStore.behaviour (store : MemoryStore) : List BlobOperation × Nat × Option Nat :=
  (store.failing, store.latency, store.interruptAfter)

/-- Two stores after the same calls about the blobs of files in scope, which were begun in
two others: these blobs are the same in both, and all other blobs are as they were. -/
structure MemoryStore.Alongside (inScope : String → Prop)
    (first second here there : MemoryStore) : Prop where
  behaviour : here.behaviour = first.behaviour ∧ there.behaviour = first.behaviour
  within : ∀ names, IsKeyOf inScope names → here.blobs.get? names = there.blobs.get? names
  beside : ∀ names, ¬ IsKeyOf inScope names →
    here.blobs.get? names = first.blobs.get? names ∧
      there.blobs.get? names = second.blobs.get? names

namespace MemoryStore.Alongside

variable {inScope : String → Prop} {first second here there : MemoryStore}
  {path : List UInt8} {names : List PathName}

variable (related : Alongside inScope first second here there)

include related

theorem behaves : here.failing = there.failing ∧ here.latency = there.latency ∧
    here.interruptAfter = there.interruptAfter := by
  have same := related.behaviour.1.trans related.behaviour.2.symm
  simpa only [MemoryStore.behaviour, Prod.mk.injEq] using same

theorem withBlob (isKey : IsKeyOf inScope names) (blob : StoredBlob) :
    Alongside inScope first second (here.withBlob names blob) (there.withBlob names blob) where
  behaviour := related.behaviour
  within := by
    intro wanted inWanted
    rw [MemoryStore.withBlob, MemoryStore.withBlob, Table.get?_put, Table.get?_put,
      related.within wanted inWanted]
  beside := by
    intro wanted outside
    have different : names ≠ wanted := fun same => outside (same ▸ isKey)
    rw [MemoryStore.withBlob, MemoryStore.withBlob, Table.get?_put, Table.get?_put,
      if_neg different, if_neg different]
    exact related.beside wanted outside

theorem withoutBlob (isKey : IsKeyOf inScope names) :
    Alongside inScope first second (here.withoutBlob names) (there.withoutBlob names) where
  behaviour := related.behaviour
  within := by
    intro wanted inWanted
    rw [MemoryStore.withoutBlob, MemoryStore.withoutBlob, Table.get?_erase, Table.get?_erase,
      related.within wanted inWanted]
  beside := by
    intro wanted outside
    have different : names ≠ wanted := fun same => outside (same ▸ isKey)
    rw [MemoryStore.withoutBlob, MemoryStore.withoutBlob, Table.get?_erase, Table.get?_erase,
      if_neg different, if_neg different]
    exact related.beside wanted outside

theorem permit (operation : BlobOperation) : here.permit operation = there.permit operation := by
  rw [MemoryStore.permit, MemoryStore.permit, related.behaves.1]

variable (isKey : IsKeyOf inScope names)

include isKey

theorem require : here.require names = there.require names := by
  rw [MemoryStore.require, MemoryStore.require, related.within names isKey]

variable (keyed : blobKey? path = some names)

include keyed

theorem stat : here.stat path = there.stat path := by
  simp only [MemoryStore.stat, requireKey, keyed, related.permit, bind, Except.bind,
    related.require isKey]

theorem reader : here.reader path = there.reader path := by
  simp only [MemoryStore.reader, requireKey, keyed, related.permit, bind, Except.bind,
    related.require isKey, streamOf, related.behaves.2.2]

theorem write (content : ByteArray) (contentType : Option String) (storedAt : Timestamp) :
    (∃ failure, here.write path content contentType storedAt = .error failure ∧
        there.write path content contentType storedAt = .error failure) ∨
      ∃ hereAfter thereAfter, here.write path content contentType storedAt = .ok hereAfter ∧
        there.write path content contentType storedAt = .ok thereAfter ∧
        Alongside inScope first second hereAfter thereAfter := by
  have again := related.withBlob isKey ⟨content, contentType, storedAt⟩
  simp only [MemoryStore.write, requireKey, keyed, related.permit, bind, Except.bind]
  rcases there.permit .write with failure | _
  · exact .inl ⟨failure, rfl, rfl⟩
  · exact .inr ⟨_, _, rfl, rfl, again⟩

theorem delete :
    (∃ failure, here.delete path = .error failure ∧ there.delete path = .error failure) ∨
      ∃ hereAfter thereAfter, here.delete path = .ok hereAfter ∧
        there.delete path = .ok thereAfter ∧
        Alongside inScope first second hereAfter thereAfter := by
  have again := related.withoutBlob isKey
  simp only [MemoryStore.delete, requireKey, keyed, related.permit, bind, Except.bind,
    related.require isKey]
  rcases there.permit .delete with failure | _
  · exact .inl ⟨failure, rfl, rfl⟩
  · rcases there.require names with failure | _
    · exact .inl ⟨failure, rfl, rfl⟩
    · exact .inr ⟨_, _, rfl, rfl, again⟩

end MemoryStore.Alongside

/-- A storage path leads to a key of its file. -/
theorem IsBlobPath.key {inScope : String → Prop} {fileId path : String}
    (isPath : IsBlobPath fileId path) (isInScope : inScope fileId) :
    ∃ names, blobKey? (Utf8.encode path) = some names ∧ IsKeyOf inScope names := by
  obtain ⟨owner, storedAt, safe, address, rfl⟩ := isPath
  exact ⟨_, blobKey?_storagePath storedAt safe address, fileId, isInScope, rfl⟩

/-- Two stores in memory after the same calls. -/
inductive BlobStore.Alongside (inScope : String → Prop) (first second : MemoryStore) :
    BlobStore → BlobStore → Prop where
  | intro {here there : MemoryStore}
      (related : MemoryStore.Alongside inScope first second here there) :
      Alongside inScope first second (.memory here) (.memory there)

namespace BlobStore.Alongside

variable {inScope : String → Prop} {first second : MemoryStore} {here there : BlobStore}
  {fileId path : String} (related : Alongside inScope first second here there)
  (isPath : IsBlobPath fileId path) (isInScope : inScope fileId)

include related

theorem latency_eq : here.latency = there.latency := by
  obtain ⟨related⟩ := related
  exact related.behaves.2.1

include isPath isInScope

theorem stat (now : Timestamp) :
    (here.stat (Utf8.encode path) now).1.map (fun _ => ()) =
        (there.stat (Utf8.encode path) now).1.map (fun _ => ()) ∧
      Alongside inScope first second (here.stat (Utf8.encode path) now).2
        (there.stat (Utf8.encode path) now).2 := by
  obtain ⟨names, keyed, isKey⟩ := isPath.key isInScope
  obtain ⟨related⟩ := related
  refine ⟨?_, .intro related⟩
  rw [BlobStore.stat, BlobStore.stat, related.stat isKey keyed]

theorem reader :
    SameOutcome (Alongside inScope first second) (fun _ => True)
      (here.reader (Utf8.encode path)) (there.reader (Utf8.encode path)) := by
  obtain ⟨names, keyed, isKey⟩ := isPath.key isInScope
  obtain ⟨related⟩ := related
  exact ⟨related.reader isKey keyed, .intro related, fun _ _ => trivial⟩

theorem read :
    SameOutcome (Alongside inScope first second) (fun _ => True)
      (here.read (Utf8.encode path)) (there.read (Utf8.encode path)) := by
  have opened := related.reader isPath isInScope
  refine ⟨?_, opened.states, fun _ _ => trivial⟩
  exact congrArg (Except.bind · (joinStream ByteArray.empty)) opened.answers

theorem write (content : ByteArray) (contentType : Option String) (now : Timestamp) :
    SameOutcome (Alongside inScope first second) (fun _ => True)
      (here.write (Utf8.encode path) content contentType now)
      (there.write (Utf8.encode path) content contentType now) := by
  obtain ⟨names, keyed, isKey⟩ := isPath.key isInScope
  obtain ⟨related⟩ := related
  rw [BlobStore.write, BlobStore.write]
  rcases related.write isKey keyed content contentType now with
    ⟨failure, isHere, isThere⟩ | ⟨hereAfter, thereAfter, isHere, isThere, again⟩
  · rw [isHere, isThere]
    exact .of_error (.intro related)
  · rw [isHere, isThere]
    exact .of_ok (.intro again) trivial

theorem delete :
    SameOutcome (Alongside inScope first second) (fun _ => True)
      (here.delete (Utf8.encode path)) (there.delete (Utf8.encode path)) := by
  obtain ⟨names, keyed, isKey⟩ := isPath.key isInScope
  obtain ⟨related⟩ := related
  rw [BlobStore.delete, BlobStore.delete]
  rcases related.delete isKey keyed with
    ⟨failure, isHere, isThere⟩ | ⟨hereAfter, thereAfter, isHere, isThere, again⟩
  · rw [isHere, isThere]
    exact .of_error (.intro related)
  · rw [isHere, isThere]
    exact .of_ok (.intro again) trivial

end BlobStore.Alongside

/-! ## Operations -/

/-- The files that an operation is about; a listing is about none in particular. -/
def Operation.subjects : Operation → List String
  | .upload request => [fileIdOf request.payload]
  | .download fileId _ | .metadata fileId _ | .resolve fileId _ | .versions fileId
  | .diff fileId _ _ | .revert fileId _ | .delete fileId | .update fileId _ => [fileId]
  | .batchDelete fileIds => fileIds.filterMap nonBlank?
  | .list _ => []

/-- The names of the tags that an operation may add. -/
def Operation.tagNames : Operation → List String
  | .upload request => parseTags request.tags
  | .update _ changes => (changes.tags.map parseTags).getD []
  | _ => []

/-- The scope of an operation, given names of tags. -/
def Operation.scope (operation : Operation) (names : List String) : Scope :=
  ⟨(· ∈ operation.subjects), IsBlobPath, (· ∈ names)⟩

theorem Operation.staysIn_scope {operation : Operation} {names : List String}
    (added : ∀ name ∈ operation.tagNames, name ∈ names) (conditions : Conditions) :
    operation.StaysIn (operation.scope names) conditions := by
  cases operation with
  | upload request =>
      refine ⟨List.mem_singleton_self _, fun fileName accepted => ?_, added⟩
      exact ⟨request.owner, conditions.now, Vault.safeOwner_of_checkUpload accepted,
        fileIdOf_isContentAddress request.payload, rfl⟩
  | batchDelete fileIds =>
      exact fun _ member => member
  | update fileId changes =>
      refine ⟨List.mem_singleton_self _, fun text isText name given => added name ?_⟩
      rw [tagNames, Option.mem_def.1 isText]
      exact given
  | list request =>
      trivial
  | _ =>
      exact List.mem_singleton_self _

/-- Two vaults after the same operation, which was begun in two others at different times. -/
structure World.Alongside (scope : Scope) (first second : World)
    (blobsFirst blobsSecond : MemoryStore) (here there : World) : Prop where
  tables : Tables.Alongside scope first.tables second.tables here.tables there.tables
  clock : there.clock + first.clock = here.clock + second.clock
  blobs : BlobStore.Alongside scope.file blobsFirst blobsSecond here.blobs there.blobs

section Operations

variable {names : List String} {first second : World} {blobsFirst blobsSecond : MemoryStore}
  {scheduled : ScheduledOperation}

theorem blobsInStep_of_alongside {scope : Scope} :
    BlobsInStep (scheduled.conditionsAt first) (scheduled.conditionsAt second)
      (World.Alongside scope first second blobsFirst blobsSecond)
      (BlobStore.Alongside scope.file blobsFirst blobsSecond) where
  now := rfl
  latency := fun related => related.latency_eq
  held := fun related => related.blobs
  noted := fun _ related => ⟨related.tables, related.clock, related.blobs⟩
  waited := by
    intro here there milliseconds related
    refine ⟨related.tables, ?_, related.blobs⟩
    have clock := related.clock
    simp only [World.advance]
    omega
  replaced := fun related blobs => ⟨related.tables, related.clock, blobs⟩

theorem storesInStep_of_alongside (faultless : scheduled.faults = noFaults)
    (tells : (scheduled.operation.scope names).TellsTags) :
    StoresInStep (scheduled.operation.scope names) (scheduled.conditionsAt first)
      (scheduled.conditionsAt second)
      (World.Alongside (scheduled.operation.scope names) first second blobsFirst blobsSecond)
      (Tables.Alongside (scheduled.operation.scope names) first.tables second.tables) where
  now := rfl
  settings := rfl
  faultless := ⟨faultless, faultless⟩
  limits := by
    intro here there related
    have clock := related.clock
    simp only [Vault.timeLimit, ScheduledOperation.conditionsAt]
    rcases scheduled.timeAllowed with _ | allowed
    · rfl
    · simp only [Option.map_some]
      omega
  noted := fun _ related => ⟨related.tables, related.clock, related.blobs⟩
  catalog := catalogInStep_of_alongside tells first.tables second.tables
  tables := fun related => related.tables
  written := fun related tables => ⟨tables, related.clock, related.blobs⟩
  stat := fun inScope isPath limit _ _ related => blobsInStep_of_alongside.statBlob
    (fun blobs => blobs.stat isPath inScope scheduled.now) limit related
  opened := fun inScope isPath =>
    blobsInStep_of_alongside.toBlobs fun blobs => blobs.reader isPath inScope
  whole := fun inScope isPath =>
    blobsInStep_of_alongside.toBlobs fun blobs => blobs.read isPath inScope
  stored := fun inScope isPath content contentType => blobsInStep_of_alongside.toBlobs
    fun blobs => blobs.write isPath inScope content (some contentType) scheduled.now
  deleted := fun inScope isPath =>
    blobsInStep_of_alongside.toBlobs fun blobs => blobs.delete isPath inScope

/-- An operation answers the same in both vaults and does the same to its files. -/
theorem World.Alongside.perform (faultless : scheduled.faults = noFaults)
    (notListing : ∀ request, scheduled.operation ≠ .list request)
    (tells : (scheduled.operation.scope names).TellsTags)
    (added : ∀ name ∈ scheduled.operation.tagNames, name ∈ names)
    (start : World.Alongside (scheduled.operation.scope names) first second blobsFirst
      blobsSecond first second) :
    (scheduled.perform first).1 = (scheduled.perform second).1 ∧
      World.Alongside (scheduled.operation.scope names) first second blobsFirst blobsSecond
        (scheduled.perform first).2 (scheduled.perform second).2 := by
  have outcome := Operation.inStep (storesInStep_of_alongside faultless tells)
    (Operation.staysIn_scope added (scheduled.conditionsAt first))
    (fun request isListing => absurd isListing (notListing request)) first second start
  exact ⟨outcome.answers, outcome.states⟩

end Operations

end ContentVault
