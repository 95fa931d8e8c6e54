import ContentVault.Proofs.Blob.Memory
import ContentVault.Proofs.Catalog.Work
import ContentVault.Vault.World
import Mathlib.Order.Defs.Unbundled

/-!
# What calls to the stores do

* an operation is a sequence of calls, and the first error ends it;
* a call is noted, whatever comes of it;
* a call that its fault or the limit keeps from being carried out changes nothing
  else and gives an error;
* a relation that every call of an operation respects is respected by the operation.
-/

namespace ContentVault

/-! ## Sequences of calls -/

namespace VaultAction

variable {α β : Type} {first : VaultAction α} {next : α → VaultAction β}
  {conditions : Conditions} {before after : World}

theorem bind_apply :
    (first >>= next) conditions before =
      match first conditions before with
      | (.ok value, between) => next value conditions between
      | (.error failure, between) => (.error failure, between) := by
  have unfolded :
      (first >>= next) conditions before =
        ExceptT.bindCont (fun value => next value conditions)
          (first conditions before).1 (first conditions before).2 :=
    rfl
  rw [unfolded]
  rcases first conditions before with ⟨failure | value, between⟩ <;> rfl

theorem map_apply {action : VaultAction α} (convert : α → β) :
    (convert <$> action) conditions before =
      ((action conditions before).1.map convert, (action conditions before).2) := by
  change (action >>= fun value => pure (convert value)) conditions before = _
  rw [bind_apply]
  rcases action conditions before with ⟨failure | value, between⟩ <;> rfl

theorem map_eq_ok {action : VaultAction α} {convert : α → β} {result : β} :
    (convert <$> action) conditions before = (.ok result, after) ↔
      ∃ value, action conditions before = (.ok value, after) ∧ convert value = result := by
  rw [map_apply]
  rcases action conditions before with ⟨failure | value, last⟩
  · constructor
    · rintro ⟨⟩
    · rintro ⟨_, ⟨⟩, _⟩
  · constructor
    · rintro ⟨⟩
      exact ⟨value, rfl, rfl⟩
    · rintro ⟨_, ⟨⟩, rfl⟩
      rfl

theorem map_snd {action : VaultAction α} (convert : α → β) :
    ((convert <$> action) conditions before).2 = (action conditions before).2 := by
  rw [map_apply]

theorem bind_eq_ok {value : β} :
    (first >>= next) conditions before = (.ok value, after) ↔
      ∃ middle between,
        first conditions before = (.ok middle, between) ∧
          next middle conditions between = (.ok value, after) := by
  rw [bind_apply]
  constructor
  · intro succeeded
    rcases outcome : first conditions before with ⟨failure | middle, between⟩
    · rw [outcome] at succeeded
      cases succeeded
    · rw [outcome] at succeeded
      exact ⟨middle, between, rfl, succeeded⟩
  · rintro ⟨middle, between, outcome, succeeded⟩
    rw [outcome]
    exact succeeded

end VaultAction

/-! ## Ways to make a call -/

section Calling

variable {α : Type} {raise : StoreFailure → VaultError} {request : StoreRequest α}
  {conditions : Conditions} {before after : World}

theorem raiseAs_eq_ok {outcome : Except StoreFailure α} {value : α} :
    Vault.raiseAs raise outcome = .ok value ↔ outcome = .ok value := by
  cases outcome <;> simp [Vault.raiseAs]

theorem bounded_eq_ok {value : α} :
    Vault.bounded raise request conditions before = (.ok value, after) ↔
      request conditions (Vault.timeLimit conditions before) before = (.ok value, after) := by
  unfold Vault.bounded
  rcases request conditions (Vault.timeLimit conditions before) before with ⟨outcome, last⟩
  rw [Prod.mk.injEq]
  constructor
  · rintro ⟨succeeded, rfl⟩
    rw [raiseAs_eq_ok.1 succeeded]
  · intro same
    cases same
    exact ⟨rfl, rfl⟩

theorem attempt_eq_ok {outcome : Except StoreFailure α} :
    Vault.attempt request conditions before = (.ok outcome, after) ↔
      request conditions (Vault.timeLimit conditions before) before = (outcome, after) := by
  constructor
  · intro same
    cases same
    rfl
  · intro same
    unfold Vault.attempt
    rw [same]

end Calling

/-! ## Relations that operations respect -/

/-- Whatever a request answers, the states before and after it are related. -/
def StoreRequest.Within {α : Type} (relation : World → World → Prop)
    (conditions : Conditions) (request : StoreRequest α) : Prop :=
  ∀ limit before, relation before (request conditions limit before).2

namespace VaultAction

variable {α β : Type} {relation : World → World → Prop} {conditions : Conditions}

/-- Whatever an operation answers, the states before and after it are related. -/
def Within (relation : World → World → Prop) (conditions : Conditions)
    (action : VaultAction α) : Prop :=
  ∀ before, relation before (action conditions before).2

namespace Within

theorem bounded {raise : StoreFailure → VaultError} {request : StoreRequest α}
    (within : request.Within relation conditions) :
    Within relation conditions (Vault.bounded raise request) :=
  fun before => within _ before

theorem attempt {request : StoreRequest α} (within : request.Within relation conditions) :
    Within relation conditions (Vault.attempt request) :=
  fun before => within _ before

variable [IsPreorder World relation]

theorem pure (value : α) : Within relation conditions (Pure.pure value) :=
  fun before => refl_of relation before

theorem throw (failure : VaultError) :
    Within relation conditions (MonadExcept.throw failure : VaultAction α) :=
  fun before => refl_of relation before

/-- What follows a step needs to be known only where the step led. -/
theorem bind_at {first : VaultAction α} {next : α → VaultAction β} {before : World}
    (firstStep : relation before (first conditions before).2)
    (nextStep : ∀ {value between}, first conditions before = (.ok value, between) →
      relation between (next value conditions between).2) :
    relation before ((first >>= next) conditions before).2 := by
  rw [bind_apply]
  rcases outcome : first conditions before with ⟨failure | value, between⟩
  · rw [outcome] at firstStep
    exact firstStep
  · rw [outcome] at firstStep
    exact trans_of relation firstStep (nextStep outcome)

theorem bind {first : VaultAction α} {next : α → VaultAction β}
    (firstWithin : Within relation conditions first)
    (nextWithin : ∀ value, Within relation conditions (next value)) :
    Within relation conditions (first >>= next) :=
  fun before => bind_at (firstWithin before) fun _ => nextWithin _ _

/-- What follows an error does not matter. -/
theorem throw_bind (failure : VaultError) (next : α → VaultAction β) :
    Within relation conditions ((MonadExcept.throw failure : VaultAction α) >>= next) :=
  fun before => refl_of relation before

theorem map {action : VaultAction α} (convert : α → β)
    (within : Within relation conditions action) :
    Within relation conditions (convert <$> action) :=
  bind within fun value => pure (convert value)

end Within

end VaultAction

/-! ## Calls that are carried out and calls that are not -/

/-- Whether a call with a fault is carried out within a limit. -/
def Fault.letsThrough (limit : Nat) : Option Fault → Bool
  | none => true
  | some (.fail _) => false
  | some .hang => false
  | some (.delay milliseconds) => milliseconds ≤ limit
  | some (.loseRace _ _) => true

namespace World

/-- The fault that the next call to the catalog meets. -/
def nextFault (world : World) (conditions : Conditions) (call : CatalogCall) :
    Option Fault :=
  conditions.faults call (world.callCount call)

/-- Two states that differ by a noted call and the time that has passed. -/
structure Noted (call : StoreCall) (before after : World) : Prop where
  tables : after.tables = before.tables
  blobs : after.blobs = before.blobs
  calls : after.calls = call :: before.calls

/-- Two states between which nothing was registered or changed.  Blobs count if they
are kept in memory. -/
structure OnlyRead (before after : World) : Prop where
  tables : after.tables = before.tables
  blobs : ∀ {store : MemoryStore}, before.blobs = .memory store → after.blobs = .memory store
  registrations : after.callCount .createFile = before.callCount .createFile

instance : IsPreorder World OnlyRead where
  refl := fun _ => ⟨rfl, id, rfl⟩
  trans := fun _ _ _ left right =>
    ⟨right.tables.trans left.tables, fun kept => right.blobs (left.blobs kept),
      right.registrations.trans left.registrations⟩

theorem callCount_of_calls {call : StoreCall} {before after : World}
    (noted : after.calls = call :: before.calls) (counted : CatalogCall) :
    after.callCount counted =
      before.callCount counted + if call = .catalog counted then 1 else 0 := by
  simp [callCount, noted, List.count_cons]

theorem nextFault_of_calls {call : StoreCall} {before after : World}
    (noted : after.calls = call :: before.calls) {counted : CatalogCall}
    (other : call ≠ .catalog counted) (conditions : Conditions) :
    after.nextFault conditions counted = before.nextFault conditions counted := by
  rw [nextFault, nextFault, callCount_of_calls noted, if_neg other, Nat.add_zero]

theorem Noted.onlyRead {call : StoreCall} {before after : World}
    (noted : before.Noted call after) (other : call ≠ .catalog .createFile) :
    before.OnlyRead after where
  tables := noted.tables
  blobs := fun kept => noted.blobs.trans kept
  registrations := by
    rw [callCount_of_calls noted.calls, if_neg other, Nat.add_zero]

end World

namespace StoreRequest

open World

variable {α : Type} {conditions : Conditions} {limit : Nat} {before after : World}

theorem afterWaiting_some (milliseconds : Nat)
    (run : World → Except StoreFailure α × World) :
    afterWaiting limit (some milliseconds) run before =
      if milliseconds ≤ limit then
        run (before.advance milliseconds)
      else
        (.error .timedOut, before.advance limit) := by
  unfold afterWaiting waitAtMost
  by_cases inTime : milliseconds ≤ limit
  · simp [inTime]
  · simp [inTime]

section ToCatalog

variable {call : CatalogCall} (rival : String → Option String → Tables → Tables)
  (run : Tables → Except CatalogError α × Tables)

/-- What a rival leaves of the tables, if there is one. -/
def rivalled (rival : String → Option String → Tables → Tables) :
    Option Fault → Tables → Tables
  | some (.loseRace owner path), tables => rival owner path tables
  | _, tables => tables

theorem toCatalog_of_letsThrough
    (through : Fault.letsThrough limit (before.nextFault conditions call) = true) :
    ∃ between,
      before.Noted (.catalog call) between ∧
        toCatalog call rival run conditions limit before =
          onTables run
            { between with
              tables := rivalled rival (before.nextFault conditions call) between.tables } := by
  revert through
  unfold toCatalog nextFault
  rcases conditions.faults call (before.callCount call) with
    _ | ⟨_⟩ | _ | ⟨milliseconds⟩ | ⟨owner, path⟩ <;> intro through
  · exact ⟨before.record (.catalog call), ⟨rfl, rfl, rfl⟩, rfl⟩
  · cases through
  · cases through
  · have inTime : milliseconds ≤ limit := of_decide_eq_true through
    refine ⟨(before.record (.catalog call)).advance milliseconds, ⟨rfl, rfl, rfl⟩, ?_⟩
    simp only [afterWaiting_some, if_pos inTime]
    rfl
  · exact ⟨before.record (.catalog call), ⟨rfl, rfl, rfl⟩, rfl⟩

theorem toCatalog_of_not_letsThrough
    (lost : Fault.letsThrough limit (before.nextFault conditions call) = false) :
    ∃ failure after,
      before.Noted (.catalog call) after ∧
        toCatalog call rival run conditions limit before = (.error failure, after) := by
  revert lost
  unfold toCatalog nextFault
  rcases conditions.faults call (before.callCount call) with
    _ | ⟨error⟩ | _ | ⟨milliseconds⟩ | ⟨owner, path⟩ <;> intro lost
  · cases lost
  · exact ⟨_, before.record (.catalog call), ⟨rfl, rfl, rfl⟩, rfl⟩
  · exact ⟨_, (before.record (.catalog call)).advance limit, ⟨rfl, rfl, rfl⟩, rfl⟩
  · have tooLate : ¬ milliseconds ≤ limit := of_decide_eq_false lost
    refine ⟨.timedOut, (before.record (.catalog call)).advance limit, ⟨rfl, rfl, rfl⟩, ?_⟩
    simp only [afterWaiting_some, if_neg tooLate]
  · cases lost

theorem rivalled_of_nobody (fault : Option Fault) (tables : Tables) :
    rivalled (fun _ _ tables => tables) fault tables = tables := by
  unfold rivalled
  split <;> rfl

/-- A call that nobody interferes with is carried out if it gets through. -/
theorem change_of_letsThrough
    (through : Fault.letsThrough limit (before.nextFault conditions call) = true) :
    ∃ between,
      before.Noted (.catalog call) between ∧
        change call run conditions limit before =
          ((run before.tables).1.mapError .catalog,
            { between with tables := (run before.tables).2 }) := by
  obtain ⟨between, noted, outcome⟩ :=
    toCatalog_of_letsThrough (fun _ _ tables => tables) run through
  refine ⟨between, noted, ?_⟩
  rw [change, outcome, rivalled_of_nobody, ← noted.tables]
  rfl

/-- A call that nobody interferes with is carried out, or else changes nothing. -/
theorem change_cases :
    (∃ between,
        before.Noted (.catalog call) between ∧
          change call run conditions limit before =
            ((run before.tables).1.mapError .catalog,
              { between with tables := (run before.tables).2 })) ∨
      ∃ failure after,
        before.Noted (.catalog call) after ∧
          change call run conditions limit before = (.error failure, after) := by
  rcases through : Fault.letsThrough limit (before.nextFault conditions call)
  · exact Or.inr (toCatalog_of_not_letsThrough _ run through)
  · exact Or.inl (change_of_letsThrough run through)

end ToCatalog

theorem change_calls (call : CatalogCall) (run : Tables → Except CatalogError α × Tables) :
    (change call run conditions limit before).2.calls = .catalog call :: before.calls := by
  rcases change_cases run with ⟨between, noted, outcome⟩ | ⟨failure, between, noted, outcome⟩
  · rw [outcome]
    exact noted.calls
  · rw [outcome]
    exact noted.calls

/-- A change that can be rolled back is made or leaves the tables alone. -/
theorem change_outcome {call : CatalogCall} {run : Tables → Except CatalogError α × Tables}
    {answer : Except StoreFailure α}
    (rollback : ∀ {tables failure changed}, run tables = (.error failure, changed) →
      changed = tables)
    (called : change call run conditions limit before = (answer, after)) :
    after.blobs = before.blobs ∧ after.calls = .catalog call :: before.calls ∧
      ((∃ value, answer = .ok value ∧ run before.tables = (.ok value, after.tables)) ∨
        (∃ failure, answer = .error failure) ∧ after.tables = before.tables) := by
  rcases change_cases run with ⟨between, noted, outcome⟩ | ⟨failure, between, noted, outcome⟩
  · rw [outcome] at called
    rcases ran : run before.tables with ⟨failure | value, changed⟩
    · rw [ran] at called
      cases called
      exact ⟨noted.blobs, noted.calls, Or.inr ⟨⟨_, rfl⟩, rollback ran⟩⟩
    · rw [ran] at called
      cases called
      exact ⟨noted.blobs, noted.calls, Or.inl ⟨value, rfl, rfl⟩⟩
  · rw [outcome] at called
    cases called
    exact ⟨noted.blobs, noted.calls, Or.inr ⟨⟨_, rfl⟩, noted.tables⟩⟩

/-- A unit of work that is reported as done was committed. -/
theorem committed_of_bounded_change {raise : StoreFailure → VaultError} {call : CatalogCall}
    {work : Work α} {value : α}
    (done : Vault.bounded raise (change call work.transaction) conditions before =
      (.ok value, after)) :
    work.transaction before.tables = (.ok value, after.tables) := by
  obtain ⟨_, _, ⟨result, same, committed⟩ | ⟨⟨failure, failed⟩, _⟩⟩ :=
    change_outcome Work.transaction_of_error (bounded_eq_ok.1 done)
  · cases same
    exact committed
  · cases failed

section Read

variable {call : CatalogCall} {run : Tables → Except CatalogError α}

/-- A call to the catalog that asks nothing. -/
def arrival (call : CatalogCall) : StoreRequest Unit :=
  read call fun _ => .ok ()

/-- What a read answers depends on the tables only if the call arrives. -/
theorem read_eq :
    read call run conditions limit before =
      match arrival call conditions limit before with
      | (.ok (), arrived) => ((run before.tables).mapError .catalog, arrived)
      | (.error failure, lost) => (.error failure, lost) := by
  unfold arrival read change toCatalog
  rcases conditions.faults call (before.callCount call) with
    _ | ⟨error⟩ | _ | ⟨milliseconds⟩ | ⟨owner, path⟩
  · rfl
  · rfl
  · rfl
  · simp only [afterWaiting_some]
    split <;> rfl
  · rfl

theorem read_noted {answer : Except StoreFailure α}
    (looked : read call run conditions limit before = (answer, after)) :
    before.Noted (.catalog call) after := by
  rcases change_cases fun tables => (run tables, tables) with
    ⟨between, noted, outcome⟩ | ⟨failure, between, noted, outcome⟩
  · rw [read, outcome] at looked
    cases looked
    exact ⟨rfl, noted.blobs, noted.calls⟩
  · rw [read, outcome] at looked
    cases looked
    exact noted

theorem read_eq_ok {value : α}
    (looked : read call run conditions limit before = (.ok value, after)) :
    run before.tables = .ok value := by
  rcases change_cases fun tables => (run tables, tables) with
    ⟨between, _, outcome⟩ | ⟨failure, between, _, outcome⟩
  · rw [read, outcome] at looked
    rcases answer : run before.tables with reason | found
    · rw [answer] at looked
      cases looked
    · rw [answer] at looked
      cases looked
      rfl
  · rw [read, outcome] at looked
    cases looked

theorem read_of_letsThrough (run : Tables → Except CatalogError α)
    (through : Fault.letsThrough limit (before.nextFault conditions call) = true) :
    (read call run conditions limit before).1 = (run before.tables).mapError .catalog := by
  obtain ⟨between, _, outcome⟩ :=
    change_of_letsThrough (fun tables => (run tables, tables)) through
  rw [read, outcome]

/-- Without faults a question to the catalog is answered. -/
theorem bounded_read_of_noFaults (raise : StoreFailure → VaultError) (call : CatalogCall)
    (run : Tables → Except CatalogError α) {value : α}
    (faultless : conditions.faults = noFaults) (answered : run before.tables = .ok value) :
    ∃ after,
      Vault.bounded raise (read call run) conditions before = (.ok value, after) ∧
        after.tables = before.tables := by
  have through : Fault.letsThrough (Vault.timeLimit conditions before)
      (before.nextFault conditions call) = true := by
    rw [nextFault, faultless]
    rfl
  have outcome := read_of_letsThrough run through
  rw [answered] at outcome
  rcases looked : read call run conditions (Vault.timeLimit conditions before) before with
    ⟨answer, after⟩
  rw [looked] at outcome
  cases outcome
  exact ⟨after, bounded_eq_ok.2 looked, (read_noted looked).tables⟩

theorem read_of_not_letsThrough (run : Tables → Except CatalogError α)
    (lost : Fault.letsThrough limit (before.nextFault conditions call) = false) :
    ∃ failure, (read call run conditions limit before).1 = .error failure := by
  obtain ⟨failure, after, _, outcome⟩ := toCatalog_of_not_letsThrough _ _ lost
  exact ⟨failure, congrArg Prod.fst outcome⟩

end Read

section ToBlobs

variable (conditions) (operation : BlobOperation) (path : String)
  (run : List UInt8 → Timestamp → BlobStore → Except BlobError α × BlobStore)

theorem toBlobs_of_inTime (inTime : before.blobs.latency ≤ limit) :
    ∃ between,
      before.Noted (.blob operation path) between ∧
        toBlobs operation path run conditions limit before =
          ((run (Utf8.encode path) conditions.now before.blobs).1.mapError .blob,
            { between with
              blobs := (run (Utf8.encode path) conditions.now before.blobs).2 }) := by
  refine ⟨(before.record (.blob operation path)).advance before.blobs.latency,
    ⟨rfl, rfl, rfl⟩, ?_⟩
  simp only [toBlobs, afterWaiting_some]
  rw [if_pos (show (before.record (.blob operation path)).blobs.latency ≤ limit from inTime)]
  rfl

theorem toBlobs_of_tooLate (tooLate : ¬ before.blobs.latency ≤ limit) :
    ∃ after,
      before.Noted (.blob operation path) after ∧
        toBlobs operation path run conditions limit before = (.error .timedOut, after) := by
  refine ⟨(before.record (.blob operation path)).advance limit, ⟨rfl, rfl, rfl⟩, ?_⟩
  simp only [toBlobs, afterWaiting_some]
  rw [if_neg (show ¬ (before.record (.blob operation path)).blobs.latency ≤ limit from tooLate)]

variable {conditions operation path run} in
/-- A call to the blob store leaves the tables alone and is noted. -/
theorem toBlobs_frame {answer : Except StoreFailure α}
    (called : toBlobs operation path run conditions limit before = (answer, after)) :
    after.tables = before.tables ∧ after.calls = .blob operation path :: before.calls := by
  by_cases inTime : before.blobs.latency ≤ limit
  · obtain ⟨between, noted, outcome⟩ := toBlobs_of_inTime conditions operation path run inTime
    rw [outcome] at called
    cases called
    exact ⟨noted.tables, noted.calls⟩
  · obtain ⟨last, noted, outcome⟩ := toBlobs_of_tooLate conditions operation path run inTime
    rw [outcome] at called
    cases called
    exact ⟨noted.tables, noted.calls⟩

end ToBlobs

/-! ## Lookups -/

theorem onlyRead_read {call : CatalogCall} (other : call ≠ .createFile)
    (run : Tables → Except CatalogError α) :
    (read call run).Within OnlyRead conditions := by
  intro limit before
  refine (read_noted rfl).onlyRead ?_
  intro same
  cases same
  exact other rfl

theorem onlyRead_toBlobs {operation : BlobOperation} {path : String}
    {run : List UInt8 → Timestamp → BlobStore → Except BlobError α × BlobStore}
    (kept : ∀ path now store, (run path now (.memory store)).2 = .memory store) :
    (toBlobs operation path run).Within OnlyRead conditions := by
  intro limit before
  by_cases inTime : before.blobs.latency ≤ limit
  · obtain ⟨between, noted, outcome⟩ :=
      toBlobs_of_inTime conditions operation path run inTime
    rw [outcome]
    refine ⟨noted.tables, ?_, (noted.onlyRead (by simp)).registrations⟩
    intro store inMemory
    rw [inMemory]
    exact kept _ _ store
  · obtain ⟨after, noted, outcome⟩ :=
      toBlobs_of_tooLate conditions operation path run inTime
    rw [outcome]
    exact noted.onlyRead (by simp)

/-! ## Blobs in memory -/

section Memory

variable {path : String} {names : List PathName} {store : MemoryStore}

theorem onlyRead_statBlob : (statBlob path).Within OnlyRead conditions :=
  onlyRead_toBlobs fun _ _ _ => rfl

theorem onlyRead_openBlob : (openBlob path).Within OnlyRead conditions :=
  onlyRead_toBlobs fun _ _ _ => rfl

theorem onlyRead_readBlob : (readBlob path).Within OnlyRead conditions :=
  onlyRead_toBlobs fun _ _ _ => rfl

theorem absent_of_statBlob {failure : BlobError}
    (kept : before.blobs = .memory store)
    (keyed : blobKey? (Utf8.encode path) = some names)
    (failed : statBlob path conditions limit before = (.error (.blob failure), after))
    (notFound : failure.isNotFound = true) :
    store.blobs.get? names = none := by
  unfold statBlob at failed
  by_cases inTime : before.blobs.latency ≤ limit
  · obtain ⟨between, noted, outcome⟩ := toBlobs_of_inTime conditions .stat path _ inTime
    rw [outcome, kept] at failed
    refine MemoryStore.absent_of_stat keyed ?_ notFound
    rcases answer : store.stat (Utf8.encode path) with reason | found
    · simp only [BlobStore.stat, answer] at failed
      cases failed
      rfl
    · simp only [BlobStore.stat, answer] at failed
      cases failed
  · obtain ⟨after, noted, outcome⟩ := toBlobs_of_tooLate conditions .stat path _ inTime
    rw [outcome] at failed
    cases failed

/-- A blob is written within the limit, or else the blobs stay as they were. -/
theorem writeBlob_cases {content : ByteArray} {contentType : String}
    {answer : Except StoreFailure Unit}
    (kept : before.blobs = .memory store)
    (keyed : blobKey? (Utf8.encode path) = some names)
    (called : writeBlob path content contentType conditions limit before = (answer, after)) :
    (answer = .ok () ∧ store.latency ≤ limit ∧
        after.blobs =
          .memory (store.withBlob names ⟨content, some contentType, conditions.now⟩)) ∨
      (∃ failure, answer = .error failure) ∧ after.blobs = .memory store := by
  by_cases inTime : before.blobs.latency ≤ limit
  · obtain ⟨between, noted, outcome⟩ :=
      toBlobs_of_inTime conditions .write path
        (fun bytes now blobs => blobs.write bytes content (some contentType) now) inTime
    rw [writeBlob, outcome, kept] at called
    rw [kept] at inTime
    rcases stored :
        store.write (Utf8.encode path) content (some contentType) conditions.now with
      reason | written
    · simp only [BlobStore.write, stored] at called
      cases called
      exact Or.inr ⟨⟨_, rfl⟩, rfl⟩
    · obtain ⟨_, rfl⟩ := (MemoryStore.write_eq_ok keyed).1 stored
      simp only [BlobStore.write, stored] at called
      cases called
      exact Or.inl ⟨rfl, inTime, rfl⟩
  · obtain ⟨last, noted, outcome⟩ := toBlobs_of_tooLate conditions .write path _ inTime
    rw [writeBlob, outcome] at called
    cases called
    exact Or.inr ⟨⟨_, rfl⟩, noted.blobs.trans kept⟩

/-- A blob that is there is deleted within the limit unless deleting fails. -/
theorem deleteBlob_blobs {answer : Except StoreFailure Unit}
    (kept : before.blobs = .memory store)
    (keyed : blobKey? (Utf8.encode path) = some names)
    (inTime : store.latency ≤ limit) (present : store.blobs.get? names ≠ none)
    (called : deleteBlob path conditions limit before = (answer, after)) :
    after.blobs =
      .memory (if .delete ∈ store.failing then store else store.withoutBlob names) := by
  have inLimit : before.blobs.latency ≤ limit := by
    rw [kept]
    exact inTime
  obtain ⟨between, noted, outcome⟩ :=
    toBlobs_of_inTime conditions .delete path (fun bytes _ blobs => blobs.delete bytes)
      inLimit
  rw [deleteBlob, outcome, kept] at called
  rcases removed : store.delete (Utf8.encode path) with reason | remaining
  · have refused : .delete ∈ store.failing := by
      apply Classical.byContradiction
      intro permitted
      have deleted : store.delete (Utf8.encode path) = .ok (store.withoutBlob names) :=
        (MemoryStore.delete_eq_ok keyed).2 ⟨permitted, present, rfl⟩
      rw [removed] at deleted
      cases deleted
    simp only [BlobStore.delete, removed] at called
    cases called
    rw [if_pos refused]
  · obtain ⟨permitted, _, rfl⟩ := (MemoryStore.delete_eq_ok keyed).1 removed
    simp only [BlobStore.delete, removed] at called
    cases called
    rw [if_neg permitted]

end Memory

/-! ## Registering a file -/

section CreateFile

variable (file : FileRecord) (version : VersionRecord)

/-- The file that a rival registers: the same content under another owner and path. -/
def rivalFile (owner : String) (path : Option String) : FileRecord :=
  { file with owner, path := path.getD file.path }

/-- The first version of the file that a rival registers. -/
def rivalVersion (path : Option String) : VersionRecord :=
  { version with path := path.getD file.path }

/-- The tables after a rival has registered the same file, if a fault says so. -/
def afterRival : Option Fault → Tables → Tables :=
  rivalled fun owner path tables =>
    (tables.createFile (rivalFile file owner path) (rivalVersion file version path)).2

theorem afterRival_of_no_race {file : FileRecord} {version : VersionRecord} {fault : Option Fault}
    (noRace : ∀ owner path, fault ≠ some (.loseRace owner path)) (tables : Tables) :
    afterRival file version fault tables = tables := by
  unfold afterRival rivalled
  split
  · exact absurd rfl (noRace _ _)
  · rfl

variable {file version} in
/-- A file is registered where a rival left the tables, or only the rival's is. -/
theorem createFile_cases {answer : Except StoreFailure Unit}
    (called : createFile file version conditions limit before = (answer, after)) :
    after.blobs = before.blobs ∧ after.calls = .catalog .createFile :: before.calls ∧
      ((answer = .ok () ∧
          (afterRival file version (before.nextFault conditions .createFile)
            before.tables).createFile file version = (.ok (), after.tables)) ∨
        (∃ failure, answer = .error failure) ∧
          after.tables =
            afterRival file version (before.nextFault conditions .createFile)
              before.tables) := by
  rcases through : Fault.letsThrough limit (before.nextFault conditions .createFile)
  · obtain ⟨failure, between, noted, outcome⟩ :=
      toCatalog_of_not_letsThrough
        (fun owner path tables =>
          (tables.createFile (rivalFile file owner path) (rivalVersion file version path)).2)
        (fun tables => tables.createFile file version) through
    have noRace : ∀ owner path,
        before.nextFault conditions .createFile ≠ some (.loseRace owner path) := by
      intro owner path raced
      rw [raced] at through
      cases through
    change createFile file version conditions limit before = _ at outcome
    rw [outcome] at called
    cases called
    rw [afterRival_of_no_race noRace]
    exact ⟨noted.blobs, noted.calls, Or.inr ⟨⟨_, rfl⟩, noted.tables⟩⟩
  · obtain ⟨between, noted, outcome⟩ :=
      toCatalog_of_letsThrough
        (fun owner path tables =>
          (tables.createFile (rivalFile file owner path) (rivalVersion file version path)).2)
        (fun tables => tables.createFile file version) through
    rw [noted.tables] at outcome
    change createFile file version conditions limit before =
      onTables _ { between with tables := afterRival file version _ _ } at outcome
    rw [outcome, onTables] at called
    rcases created :
        (afterRival file version (before.nextFault conditions .createFile)
          before.tables).createFile file version with ⟨failure | _, tables⟩
    · rw [created] at called
      cases called
      exact ⟨noted.blobs, noted.calls,
        Or.inr ⟨⟨_, rfl⟩, Work.transaction_of_error created⟩⟩
    · rw [created] at called
      cases called
      exact ⟨noted.blobs, noted.calls, Or.inl ⟨rfl, rfl⟩⟩

end CreateFile

end StoreRequest

end ContentVault
