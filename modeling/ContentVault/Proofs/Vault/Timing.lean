import ContentVault.Proofs.Vault.Calls
import Mathlib.Logic.Relation

/-!
# The time that calls take

How long calls wait, and what a longer limit changes.

* a call is noted once and waits no longer than its limit;
* a call that was answered is answered alike within any longer limit;
* a run is on time if each call of it is over by the deadline and within what the settings
  allow;
* being on time, and doing the same with more time, carry over from the steps of an operation
  to the whole.
-/

namespace ContentVault

open Relation StoreRequest

/-- Conditions that leave at least as much time as others and are the same otherwise. -/
structure Conditions.LeavesTime (early late : Conditions) : Prop where
  settings : late.settings = early.settings
  now : late.now = early.now
  faults : late.faults = early.faults
  deadline : ∀ last ∈ late.deadline, ∃ first ∈ early.deadline, first ≤ last

theorem Conditions.LeavesTime.refl (conditions : Conditions) :
    conditions.LeavesTime conditions :=
  ⟨rfl, rfl, rfl, fun last isLast => ⟨last, isLast, Nat.le_refl last⟩⟩

theorem Conditions.LeavesTime.timeLimit_le {early late : Conditions}
    (more : early.LeavesTime late) (world : World) :
    Vault.timeLimit early world ≤ Vault.timeLimit late world := by
  unfold Vault.timeLimit
  rw [more.settings]
  cases lateEnd : late.deadline with
  | none =>
      cases early.deadline with
      | none =>
          exact Nat.le_refl _
      | some first =>
          exact Nat.min_le_left _ _
  | some last =>
      obtain ⟨first, earlyEnd, sooner⟩ := more.deadline last lateEnd
      rw [earlyEnd]
      dsimp only
      omega

/-! ## The time that a call takes -/

/-- A call to one of the two stores. -/
inductive StoreRequest.IsCall {α : Type} : StoreRequest α → Prop
  | toCatalog (call : CatalogCall) (rival : String → Option String → Tables → Tables)
      (run : Tables → Except CatalogError α × Tables) :
      IsCall (StoreRequest.toCatalog call rival run)
  | toBlobs (operation : BlobOperation) (path : String)
      (run : List UInt8 → Timestamp → BlobStore → Except BlobError α × BlobStore) :
      IsCall (StoreRequest.toBlobs operation path run)

namespace StoreRequest.IsCall

variable {α : Type}

theorem change (call : CatalogCall) (run : Tables → Except CatalogError α × Tables) :
    (StoreRequest.change call run).IsCall :=
  .toCatalog call (fun _ _ tables => tables) run

theorem read (call : CatalogCall) (run : Tables → Except CatalogError α) :
    (StoreRequest.read call run).IsCall :=
  .change call fun tables => (run tables, tables)

end StoreRequest.IsCall

section Waiting

variable {α : Type} {limit longer : Nat} {run : World → Except StoreFailure α × World}

theorem afterWaiting_takes
    (atOnce : ∀ world, (run world).2.clock = world.clock ∧ (run world).2.calls = world.calls)
    (wait : Option Nat) (world : World) :
    ∃ waited ≤ limit,
      (afterWaiting limit wait run world).2.clock = world.clock + waited ∧
        (afterWaiting limit wait run world).2.calls = world.calls := by
  cases wait with
  | none =>
      exact ⟨limit, Nat.le_refl _, rfl, rfl⟩
  | some milliseconds =>
      rw [afterWaiting_some]
      split
      · rename_i inTime
        exact ⟨milliseconds, inTime, atOnce _⟩
      · exact ⟨limit, Nat.le_refl _, rfl, rfl⟩

theorem afterWaiting_longer (more : limit ≤ longer) {wait : Option Nat} {world : World}
    (answered : (afterWaiting limit wait run world).1 ≠ .error .timedOut) :
    afterWaiting longer wait run world = afterWaiting limit wait run world := by
  cases wait with
  | none =>
      exact absurd rfl answered
  | some milliseconds =>
      rw [afterWaiting_some] at answered ⊢
      rw [afterWaiting_some]
      split at answered
      · rename_i inTime
        rw [if_pos inTime, if_pos (Nat.le_trans inTime more)]
      · exact absurd rfl answered

end Waiting

namespace StoreRequest.IsCall

variable {α : Type} {request : StoreRequest α} (isCall : request.IsCall)
  {early late : Conditions} {limit longer : Nat} {before : World}

include isCall

/-- A call is noted and waits no longer than its limit. -/
theorem takes (conditions : Conditions) (limit : Nat) (before : World) :
    ∃ call, ∃ waited ≤ limit,
      (request conditions limit before).2.clock = before.clock + waited ∧
        (request conditions limit before).2.calls = call :: before.calls := by
  cases isCall with
  | toCatalog call rival run =>
      refine ⟨.catalog call, ?_⟩
      have atOnce : ∀ world, (onTables run world).2.clock = world.clock ∧
          (onTables run world).2.calls = world.calls := fun _ => ⟨rfl, rfl⟩
      unfold StoreRequest.toCatalog
      rcases conditions.faults call (before.callCount call) with
        _ | ⟨error⟩ | _ | ⟨milliseconds⟩ | ⟨owner, path⟩
      · exact ⟨0, Nat.zero_le _, rfl, rfl⟩
      · exact ⟨0, Nat.zero_le _, rfl, rfl⟩
      · exact afterWaiting_takes atOnce none _
      · exact afterWaiting_takes atOnce (some milliseconds) _
      · exact ⟨0, Nat.zero_le _, rfl, rfl⟩
  | toBlobs operation path run =>
      refine ⟨.blob operation path, ?_⟩
      exact afterWaiting_takes (fun _ => ⟨rfl, rfl⟩) (some before.blobs.latency) _

/-- A call that was answered is answered alike within a longer limit. -/
theorem longer_eq (more : early.LeavesTime late) (longerLimit : limit ≤ longer)
    (answered : (request early limit before).1 ≠ .error .timedOut) :
    request late longer before = request early limit before := by
  cases isCall with
  | toCatalog call rival run =>
      unfold StoreRequest.toCatalog at answered ⊢
      rw [more.faults]
      generalize early.faults call (before.callCount call) = fault at answered ⊢
      rcases fault with _ | ⟨error⟩ | _ | ⟨milliseconds⟩ | ⟨owner, path⟩
      · rfl
      · rfl
      · exact afterWaiting_longer longerLimit answered
      · exact afterWaiting_longer longerLimit answered
      · rfl
  | toBlobs operation path run =>
      unfold StoreRequest.toBlobs at answered ⊢
      rw [more.now]
      exact afterWaiting_longer longerLimit answered

end StoreRequest.IsCall

/-! ## Calls that are over in time -/

namespace World

/-- Two states between which one call was made that was over in time. -/
structure Punctual (conditions : Conditions) (before after : World) : Prop where
  called : ∃ (α : Type) (request : StoreRequest α), request.IsCall ∧
    (request conditions (Vault.timeLimit conditions before) before).2 = after
  noted : ∃ call, after.calls = call :: before.calls
  /-- The call took no longer than the settings allow. -/
  timeout : after.clock ≤ before.clock + conditions.settings.operationTimeout
  /-- The call was over at the deadline, or it took no time at all. -/
  deadline : ∀ deadline ∈ conditions.deadline, after.clock ≤ max before.clock deadline

theorem punctual_of_isCall {α : Type} {request : StoreRequest α} (isCall : request.IsCall)
    (conditions : Conditions) (before : World) :
    before.Punctual conditions
      (request conditions (Vault.timeLimit conditions before) before).2 := by
  obtain ⟨call, waited, inTime, clock, noted⟩ :=
    isCall.takes conditions (Vault.timeLimit conditions before) before
  -- What is left until the deadline is nothing once it has passed.
  unfold Vault.timeLimit at inTime
  refine ⟨⟨α, request, isCall, rfl⟩, ⟨call, noted⟩, ?_, fun deadline isDeadline => ?_⟩
  · rw [clock]
    split at inTime <;> omega
  · rw [Option.mem_def] at isDeadline
    rw [isDeadline] at inTime
    rw [clock]
    dsimp only at inTime
    omega

/-- A run whose calls are all over in time, but for those after an error that are excused. -/
inductive RunsOnTime {α : Type} (conditions : Conditions) (excused : World → World → Prop)
    (before : World) : Except VaultError α × World → Prop
  | throughout {outcome : Except VaultError α} {after : World} :
      ReflTransGen (Punctual conditions) before after →
        RunsOnTime conditions excused before (outcome, after)
  | untilFailure {failure : VaultError} {between after : World} :
      ReflTransGen (Punctual conditions) before between → excused between after →
        RunsOnTime conditions excused before (.error failure, after)

end World

/-! ## Operations and their time -/

namespace VaultAction

variable {α β : Type} {early late : Conditions} {excused : World → World → Prop}
  {expects : α → Prop} {wants : β → Prop}

/-- An operation that runs on time and whose results, as far as they are wanted, more time
does not change. -/
structure KeepsTime (early late : Conditions) (excused : World → World → Prop)
    (expects : α → Prop) (action : VaultAction α) : Prop where
  onTime : ∀ before : World, before.RunsOnTime early excused (action early before)
  unchanged : ∀ {before after value}, action early before = (.ok value, after) →
    expects value → action late before = (.ok value, after)

/-- An operation that never gives a result that is wanted. -/
def Spoilt (conditions : Conditions) (expects : α → Prop) (action : VaultAction α) : Prop :=
  ∀ before after value, action conditions before = (.ok value, after) → ¬ expects value

theorem Spoilt.throw (failure : VaultError) :
    Spoilt early expects (MonadExcept.throw failure : VaultAction α) := by
  rintro before after value ⟨⟩

theorem Spoilt.pure {value : α} (unwanted : ¬ expects value) :
    Spoilt early expects (Pure.pure value) := by
  rintro before after _ ⟨⟩
  exact unwanted

namespace KeepsTime

theorem pure (value : α) : KeepsTime early late excused expects (Pure.pure value) where
  onTime := fun _ => .throughout .refl
  unchanged := by
    rintro before after _ ⟨⟩ _
    rfl

theorem throw (failure : VaultError) :
    KeepsTime early late excused expects (MonadExcept.throw failure : VaultAction α) where
  onTime := fun _ => .throughout .refl
  unchanged := by
    rintro before after value ⟨⟩

/-- What follows a result that is not wanted must not be wanted either. -/
theorem bind_of_spoilt {first : VaultAction α} {next : α → VaultAction β}
    (keeps : KeepsTime early late excused expects first)
    (nextKeeps : ∀ value, KeepsTime early late excused wants (next value))
    (spoilt : ∀ value, ¬ expects value → Spoilt early wants (next value)) :
    KeepsTime early late excused wants (first >>= next) where
  onTime := by
    intro before
    have firstOnTime := keeps.onTime before
    rw [bind_apply]
    rcases outcome : first early before with ⟨failure | value, between⟩
    · rw [outcome] at firstOnTime
      cases firstOnTime with
      | throughout run =>
          exact .throughout run
      | untilFailure run excuse =>
          exact .untilFailure run excuse
    · rw [outcome] at firstOnTime
      cases firstOnTime with
      | throughout run =>
          have nextOnTime := (nextKeeps value).onTime between
          dsimp only
          generalize next value early between = result at nextOnTime ⊢
          cases nextOnTime with
          | throughout rest =>
              exact .throughout (run.trans rest)
          | untilFailure rest excuse =>
              exact .untilFailure (run.trans rest) excuse
  unchanged := by
    intro before after result done wanted
    obtain ⟨value, between, firstDone, nextDone⟩ := bind_eq_ok.1 done
    have expected : expects value :=
      Classical.byContradiction fun unwanted => spoilt value unwanted _ _ _ nextDone wanted
    exact bind_eq_ok.2
      ⟨value, between, keeps.unchanged firstDone expected,
        (nextKeeps value).unchanged nextDone wanted⟩

theorem bind {first : VaultAction α} {next : α → VaultAction β}
    (keeps : KeepsTime early late excused (fun _ => True) first)
    (nextKeeps : ∀ value, KeepsTime early late excused wants (next value)) :
    KeepsTime early late excused wants (first >>= next) :=
  keeps.bind_of_spoilt nextKeeps fun _ unwanted => absurd trivial unwanted

/-- Where the only result that is not wanted is that a call was given up, it is enough to know
what follows that. -/
theorem bind_of_answered {first : VaultAction (Except StoreFailure α)}
    {next : Except StoreFailure α → VaultAction β}
    (keeps : KeepsTime early late excused (· ≠ .error .timedOut) first)
    (spoilt : Spoilt early wants (next (.error .timedOut)))
    (nextKeeps : ∀ outcome, KeepsTime early late excused wants (next outcome)) :
    KeepsTime early late excused wants (first >>= next) := by
  refine keeps.bind_of_spoilt nextKeeps fun outcome unanswered => ?_
  rw [Classical.not_not.1 unanswered]
  exact spoilt

/-- What follows an error does not matter. -/
theorem throw_bind (failure : VaultError) (next : α → VaultAction β) :
    KeepsTime early late excused wants
      ((MonadExcept.throw failure : VaultAction α) >>= next) :=
  throw failure

theorem map {action : VaultAction α} {convert : α → β}
    (keeps : KeepsTime early late excused expects action)
    (wanted : ∀ value, wants (convert value) → expects value) :
    KeepsTime early late excused wants (convert <$> action) :=
  keeps.bind_of_spoilt (fun value => pure (convert value)) fun value unwanted =>
    Spoilt.pure fun isWanted => unwanted (wanted value isWanted)

theorem attempt (more : early.LeavesTime late) {request : StoreRequest α}
    (isCall : request.IsCall) :
    KeepsTime early late excused (· ≠ .error .timedOut) (Vault.attempt request) where
  onTime := fun before => .throughout (.single (World.punctual_of_isCall isCall early before))
  unchanged := by
    intro before after outcome done answered
    rw [attempt_eq_ok] at done ⊢
    rw [isCall.longer_eq more (more.timeLimit_le before) (by rwa [done]), done]

theorem bounded (more : early.LeavesTime late) {request : StoreRequest α}
    (isCall : request.IsCall) {raise : StoreFailure → VaultError} :
    KeepsTime early late excused expects (Vault.bounded raise request) where
  onTime := fun before => .throughout (.single (World.punctual_of_isCall isCall early before))
  unchanged := by
    intro before after value done _
    rw [bounded_eq_ok] at done ⊢
    rw [isCall.longer_eq more (more.timeLimit_le before) (by rw [done]; exact nofun), done]

theorem wallClock (more : early.LeavesTime late) {expects : Timestamp → Prop} :
    KeepsTime early late excused expects Vault.wallClock where
  onTime := fun _ => .throughout .refl
  unchanged := by
    rintro before after value ⟨⟩ _
    rw [Vault.wallClock, more.now]

end KeepsTime

end VaultAction

end ContentVault
