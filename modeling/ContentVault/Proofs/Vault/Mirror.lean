import ContentVault.Proofs.Blob.Mirror
import ContentVault.Proofs.Catalog.Orderly
import ContentVault.Proofs.Vault.Commits
import ContentVault.Proofs.Vault.Lockstep

/-!
# Vaults in memory and in a directory

The same operations on two new vaults without faults, one with its blobs in memory and one
with its blobs in a directory.

* every blob has a storage path, of an owner, a month and a content address, so no blob is
  in the way of another and none is in the place of a staged file;
* so as long as names and paths are not too long, both vaults answer every operation alike,
  and hold the same rows and blobs afterwards;
* the directory holds no other file below its root.
-/

namespace ContentVault

open StoreRequest

/-- A store in memory and one in a directory, at a given root and of a given process, that
hold the same blobs. -/
inductive BlobStore.MirroredBy (root : List PathName) (process : UInt32) :
    BlobStore → BlobStore → Prop where
  | intro {memory : MemoryStore} {files : DirectoryStore} (mirrored : memory.MirroredBy files)
      (sameRoot : files.root = root) (sameProcess : files.process = process) :
      MirroredBy root process (.memory memory) (.directory files)

/-! ## Blobs under storage paths -/

namespace BlobStore.MirroredBy

variable {root : List PathName} {process : UInt32} {first second : BlobStore}
  {fileId path : String}

theorem latency_eq (mirrored : MirroredBy root process first second) :
    first.latency = second.latency := by
  obtain ⟨mirrored, _, _⟩ := mirrored
  exact mirrored.prompt

variable (mirrored : MirroredBy root process first second)
  (isPath : IsStoragePath root process fileId path)

include mirrored isPath

theorem stat (now : Timestamp) :
    (first.stat (Utf8.encode path) now).1.map (fun _ => ()) =
        (second.stat (Utf8.encode path) now).1.map (fun _ => ()) ∧
      MirroredBy root process (first.stat (Utf8.encode path) now).2
        (second.stat (Utf8.encode path) now).2 := by
  obtain ⟨owner, storedAt, safe, address, room, rfl⟩ := isPath
  obtain ⟨mirrored, rfl, rfl⟩ := mirrored
  exact ⟨mirrored.stat safe address room now, .intro mirrored rfl rfl⟩

theorem reader :
    SameOutcome (MirroredBy root process) (fun _ => True) (first.reader (Utf8.encode path))
      (second.reader (Utf8.encode path)) := by
  obtain ⟨owner, storedAt, safe, address, room, rfl⟩ := isPath
  obtain ⟨mirrored, rfl, rfl⟩ := mirrored
  exact ⟨mirrored.reader safe address room, .intro mirrored rfl rfl, fun _ _ => trivial⟩

theorem read :
    SameOutcome (MirroredBy root process) (fun _ => True) (first.read (Utf8.encode path))
      (second.read (Utf8.encode path)) := by
  have opened := mirrored.reader isPath
  refine ⟨?_, opened.states, fun _ _ => trivial⟩
  exact congrArg (Except.bind · (joinStream ByteArray.empty)) opened.answers

theorem write (content : ByteArray) (contentType : Option String) (now : Timestamp) :
    SameOutcome (MirroredBy root process) (fun _ => True)
      (first.write (Utf8.encode path) content contentType now)
      (second.write (Utf8.encode path) content contentType now) := by
  obtain ⟨owner, storedAt, safe, address, room, rfl⟩ := isPath
  obtain ⟨mirrored, rfl, rfl⟩ := mirrored
  obtain ⟨after, tree, inMemory, inDirectory, again⟩ :=
    mirrored.write safe address room content contentType now
  rw [BlobStore.write, BlobStore.write, inMemory, inDirectory]
  exact .of_ok (.intro again rfl rfl) trivial

theorem delete :
    SameOutcome (MirroredBy root process) (fun _ => True) (first.delete (Utf8.encode path))
      (second.delete (Utf8.encode path)) := by
  obtain ⟨owner, storedAt, safe, address, room, rfl⟩ := isPath
  obtain ⟨mirrored, rfl, rfl⟩ := mirrored
  rcases mirrored.delete safe address room with
    ⟨after, tree, inMemory, inDirectory, again⟩ | ⟨failure, inMemory, inDirectory⟩
  · rw [BlobStore.delete, BlobStore.delete, inMemory, inDirectory]
    exact .of_ok (.intro again rfl rfl) trivial
  · rw [BlobStore.delete, BlobStore.delete, inMemory, inDirectory]
    exact .of_error (.intro mirrored rfl rfl)

end BlobStore.MirroredBy

/-! ## Calls and operations -/

/-- Two vaults with the same tables and the same time, the second of which holds the blobs
of the first in a directory. -/
structure World.MirroredBy (root : List PathName) (process : UInt32) (first second : World) :
    Prop where
  tables : first.tables = second.tables ∧ first.tables.Orderly (IsStoragePath root process)
  clock : first.clock = second.clock
  blobs : BlobStore.MirroredBy root process first.blobs second.blobs

section Calls

variable {root : List PathName} {process : UInt32} {conditions : Conditions}

theorem blobsInStep_of_mirrored :
    BlobsInStep conditions conditions (World.MirroredBy root process)
      (BlobStore.MirroredBy root process) where
  now := rfl
  latency := fun mirrored => mirrored.latency_eq
  held := fun mirrored => mirrored.blobs
  noted := fun _ mirrored => ⟨mirrored.tables, mirrored.clock, mirrored.blobs⟩
  waited := fun milliseconds mirrored =>
    ⟨mirrored.tables, congrArg (· + milliseconds) mirrored.clock, mirrored.blobs⟩
  replaced := fun mirrored blobs => ⟨mirrored.tables, mirrored.clock, blobs⟩

/-- All calls about storage paths run in step. -/
theorem storesInStep_of_mirrored (faultless : conditions.faults = noFaults) :
    StoresInStep ⟨fun _ => True, IsStoragePath root process, fun _ => True⟩ conditions conditions
      (World.MirroredBy root process)
      (fun here there => here = there ∧ here.Orderly (IsStoragePath root process)) where
  now := rfl
  settings := rfl
  faultless := ⟨faultless, faultless⟩
  limits := by
    intro first second mirrored
    rw [Vault.timeLimit, Vault.timeLimit, mirrored.clock]
  noted := fun _ mirrored => ⟨mirrored.tables, mirrored.clock, mirrored.blobs⟩
  catalog := catalogInStep_of_eq (IsStoragePath root process)
  tables := fun mirrored => mirrored.tables
  written := fun mirrored tables => ⟨tables, mirrored.clock, mirrored.blobs⟩
  stat := fun _ isPath limit _ _ mirrored =>
    blobsInStep_of_mirrored.statBlob (fun blobs => blobs.stat isPath conditions.now) limit
      mirrored
  opened := fun _ isPath => blobsInStep_of_mirrored.toBlobs fun blobs => blobs.reader isPath
  whole := fun _ isPath => blobsInStep_of_mirrored.toBlobs fun blobs => blobs.read isPath
  stored := fun _ isPath content contentType => blobsInStep_of_mirrored.toBlobs fun blobs =>
    blobs.write isPath content (some contentType) conditions.now
  deleted := fun _ isPath => blobsInStep_of_mirrored.toBlobs fun blobs => blobs.delete isPath

theorem list_inStep (faultless : conditions.faults = noFaults) (request : ListRequest) :
    VaultAction.InStep conditions conditions (World.MirroredBy root process) (fun _ => True)
      (Vault.list request) := by
  have stores : StoresInStep _ conditions conditions (World.MirroredBy root process) _ :=
    storesInStep_of_mirrored faultless
  have reads : ∀ {α : Type} {call : CatalogCall} (run : Tables → Except CatalogError α),
      VaultAction.InStep conditions conditions (World.MirroredBy root process) (fun _ => True)
        (Vault.bounded .catalogRead (read call run)) := fun run =>
    stores.bounded (stores.read (fun related => congrArg run related.1) fun _ _ => trivial)
  have matching : ∀ tagId, VaultAction.InStep conditions conditions
      (World.MirroredBy root process) (fun _ => True) (Vault.listMatching request tagId) := by
    intro tagId
    refine VaultAction.InStep.bind (reads _) fun found _ => ?_
    dsimp only
    split
    · exact VaultAction.InStep.pure trivial
    · exact VaultAction.InStep.bind (reads _) fun tags _ => VaultAction.InStep.pure trivial
  unfold Vault.list
  split
  · exact matching none
  · refine VaultAction.InStep.bind (reads _) fun found _ => ?_
    split
    · exact matching _
    · exact VaultAction.InStep.pure trivial

end Calls

/-! ## Runs -/

/-- There is room for what an operation may store. -/
def ScheduledOperation.HasRoom (root : List PathName) (process : UInt32)
    (scheduled : ScheduledOperation) : Prop :=
  ∀ request, scheduled.operation = .upload request →
    DirectoryStore.HasRoomFor root process request.owner scheduled.now
      (fileIdOf request.payload)

/-- The answers of a run of operations. -/
def answersOf : List ScheduledOperation → World → List (Except VaultError Answer)
  | [], _ => []
  | scheduled :: rest, world =>
      (scheduled.perform world).1 :: answersOf rest (scheduled.perform world).2

section Runs

variable {root : List PathName} {process : UInt32} {first second : World}

theorem ScheduledOperation.staysIn_of_hasRoom {scheduled : ScheduledOperation}
    (room : scheduled.HasRoom root process) (conditions : Conditions)
    (sameTime : conditions.now = scheduled.now) :
    scheduled.operation.StaysIn
      ⟨fun _ => True, IsStoragePath root process, fun _ => True⟩ conditions := by
  rcases requested : scheduled.operation with request | _ | _ | _ | _ | _ | _ | _ | _ | _ | _
  case upload =>
    refine ⟨trivial, fun fileName accepted => ?_, fun _ _ => trivial⟩
    refine ⟨request.owner, conditions.now, Vault.safeOwner_of_checkUpload accepted,
      fileIdOf_isContentAddress request.payload, ?_, rfl⟩
    rw [sameTime]
    exact room request requested
  case batchDelete => exact fun _ _ => trivial
  case update => exact ⟨trivial, fun _ _ _ _ => trivial⟩
  all_goals exact trivial

/-- An operation answers the same over both stores and leaves them the same. -/
theorem World.MirroredBy.perform (mirrored : World.MirroredBy root process first second)
    {scheduled : ScheduledOperation} (faultless : scheduled.faults = noFaults)
    (room : scheduled.HasRoom root process) :
    (scheduled.perform first).1 = (scheduled.perform second).1 ∧
      World.MirroredBy root process (scheduled.perform first).2 (scheduled.perform second).2 := by
  have sameConditions : scheduled.conditionsAt second = scheduled.conditionsAt first := by
    rw [ScheduledOperation.conditionsAt, ScheduledOperation.conditionsAt, mirrored.clock]
  have faultlessHere : (scheduled.conditionsAt first).faults = noFaults := faultless
  have outcome := Operation.inStep (storesInStep_of_mirrored faultlessHere)
    (scheduled.staysIn_of_hasRoom room (scheduled.conditionsAt first) rfl)
    (fun request _ => list_inStep faultlessHere request) first second mirrored
  have performed : ∀ world, scheduled.perform world =
      scheduled.operation.perform (scheduled.conditionsAt world) world := fun _ => rfl
  rw [performed, performed, sameConditions]
  exact ⟨outcome.answers, outcome.states⟩

theorem World.MirroredBy.runOperations (mirrored : World.MirroredBy root process first second)
    {schedule : List ScheduledOperation}
    (faultless : ∀ scheduled ∈ schedule, scheduled.faults = noFaults)
    (room : ∀ scheduled ∈ schedule, scheduled.HasRoom root process) :
    answersOf schedule first = answersOf schedule second ∧
      World.MirroredBy root process (ContentVault.runOperations schedule first)
        (ContentVault.runOperations schedule second) := by
  induction schedule generalizing first second with
  | nil =>
      exact ⟨rfl, mirrored⟩
  | cons scheduled rest inductionHypothesis =>
      obtain ⟨isFaultless, restFaultless⟩ := List.forall_mem_cons.1 faultless
      obtain ⟨hasRoom, restRoom⟩ := List.forall_mem_cons.1 room
      obtain ⟨sameAnswer, after⟩ := mirrored.perform isFaultless hasRoom
      obtain ⟨sameAnswers, final⟩ := inductionHypothesis after restFaultless restRoom
      refine ⟨?_, final⟩
      rw [answersOf, answersOf, sameAnswer, sameAnswers]

end Runs

namespace Vault

/-- A vault in which nothing has been stored, over a store in a directory. -/
def emptyDirectoryVault (files : DirectoryStore) : World := ⟨.empty, .directory files, 0, []⟩

theorem mirroredBy_emptyDirectoryVault {files : DirectoryStore} (fresh : files.IsFresh) :
    World.MirroredBy files.root files.process (emptyVault .empty) (emptyDirectoryVault files) :=
  ⟨⟨rfl, .empty⟩, rfl, .intro (.empty fresh) rfl rfl⟩

/-- Any operations without faults, for whose names and paths there is room, give the same
answers over a new store in memory and over a new store in a directory.  Afterwards the
tables are the same, and below the root directory are the blobs that are in memory and no
other file. -/
theorem answers_of_memory_and_directory (files : DirectoryStore) (fresh : files.IsFresh)
    (schedule : List ScheduledOperation)
    (faultless : ∀ scheduled ∈ schedule, scheduled.faults = noFaults)
    (room : ∀ scheduled ∈ schedule, scheduled.HasRoom files.root files.process) :
    answersOf schedule (emptyVault .empty) = answersOf schedule (emptyDirectoryVault files) ∧
      (runOperations schedule (emptyVault .empty)).tables =
        (runOperations schedule (emptyDirectoryVault files)).tables ∧
      ∃ memory after,
        (runOperations schedule (emptyVault .empty)).blobs = .memory memory ∧
        (runOperations schedule (emptyDirectoryVault files)).blobs = .directory after ∧
        after.root = files.root ∧
        ∀ names, after.contentAt? names = (memory.blobs.get? names).map StoredBlob.content := by
  obtain ⟨sameAnswers, final⟩ :=
    (mirroredBy_emptyDirectoryVault fresh).runOperations faultless room
  refine ⟨sameAnswers, final.tables.1, ?_⟩
  have held := final.blobs
  generalize (runOperations schedule (emptyVault .empty)).blobs = left at held ⊢
  generalize (runOperations schedule (emptyDirectoryVault files)).blobs = right at held ⊢
  obtain ⟨mirrored, sameRoot, _⟩ := held
  exact ⟨_, _, rfl, rfl, sameRoot, mirrored.same⟩

/-- A first upload, the same upload again, which is refused, and a look at what is there. -/
def firstSteps : List ScheduledOperation :=
  [⟨.upload firstUpload, .default, none, firstMoment, noFaults⟩,
    ⟨.upload firstUpload, .default, none, firstMoment, noFaults⟩,
    ⟨.download (fileIdOf firstUpload.payload) none, .default, none, firstMoment, noFaults⟩]

theorem answers_of_firstSteps :
    answersOf firstSteps (emptyVault .empty) =
        answersOf firstSteps (emptyDirectoryVault BlobStore.freshDirectory) ∧
      (runOperations firstSteps (emptyVault .empty)).tables =
        (runOperations firstSteps (emptyDirectoryVault BlobStore.freshDirectory)).tables ∧
      ∃ memory after,
        (runOperations firstSteps (emptyVault .empty)).blobs = .memory memory ∧
        (runOperations firstSteps (emptyDirectoryVault BlobStore.freshDirectory)).blobs =
          .directory after ∧
        after.root = [] ∧
        ∀ names, after.contentAt? names =
          (memory.blobs.get? names).map StoredBlob.content := by
  have fresh : BlobStore.freshDirectory.IsFresh :=
    ⟨⟨FileTree.isStanding_empty, rfl⟩, fun names below => if_neg below⟩
  refine answers_of_memory_and_directory BlobStore.freshDirectory fresh firstSteps ?_ ?_
  · simp [firstSteps]
  · intro scheduled member request isUpload
    have sameOwner : request.owner = "alice" := by
      simp only [firstSteps, List.mem_cons, List.not_mem_nil, or_false] at member
      rcases member with rfl | rfl | rfl <;> cases isUpload <;> rfl
    rw [sameOwner]
    exact DirectoryStore.hasRoomFor_of_shortRoot (fileIdOf_isContentAddress _) _
      (by decide +kernel) (by decide)

end Vault

end ContentVault
