import ContentVault.Proofs.Catalog.Dates
import ContentVault.Proofs.Vault.FileHistory
import ContentVault.Proofs.Vault.Integrity
import Mathlib.Data.List.Pairwise

/-!
# Dates in a vault

What the times of files and versions tell in every state that a run of operations reaches
from empty tables, whatever faults and rivals it meets, under a clock that never goes back.

* a file is as old as its version 1, and no version is older than one with a lower number;
* a file was changed last when or after its current version was added, and never before an
  earlier reading of that time;
* a trashed file was changed last when it was moved to the trash.
-/

namespace ContentVault

open World StoreRequest

/-! ## Operations at a moment -/

theorem agesUntil_respectsCommits (conditions : Conditions) :
    RespectsCommits (Tables.AgesUntil conditions.now.seconds) conditions := by
  intro before after commit
  cases commit with
  | registered accepted created =>
      exact Tables.AgesUntil.created created rfl rfl rfl
  | overtaken accepted raced created =>
      exact Tables.AgesUntil.created created rfl rfl rfl
  | tagged live attached =>
      exact Tables.AgesUntil.tagged attached _
  | appended revertible added =>
      exact Tables.AgesUntil.appended added
  | described accepted changed =>
      exact Tables.AgesUntil.described changed
  | trashed removed =>
      exact Tables.AgesUntil.trashed removed

/-- The clock does not go back from one operation of a schedule to a later one. -/
def ClockAdvances (schedule : List ScheduledOperation) : Prop :=
  schedule.Pairwise fun earlier later => earlier.now.seconds ≤ later.now.seconds

instance (schedule : List ScheduledOperation) : Decidable (ClockAdvances schedule) :=
  inferInstanceAs (Decidable (schedule.Pairwise _))

/-- A run of operations that are not earlier than all times so far, nor later than some
moment, keeps times together until this moment. -/
theorem datedUntil_runOperations {schedule : List ScheduledOperation}
    (advances : ClockAdvances schedule) {earliest latest : Int} {start : World}
    (dated : start.tables.DatedUntil earliest) (inOrder : earliest ≤ latest)
    (notEarlier : ∀ scheduled ∈ schedule, earliest ≤ scheduled.now.seconds)
    (notLater : ∀ scheduled ∈ schedule, scheduled.now.seconds ≤ latest) :
    (runOperations schedule start).tables.DatedUntil latest ∧
      start.tables.KeepsAges (runOperations schedule start).tables := by
  induction schedule generalizing earliest start with
  | nil =>
      exact ⟨dated.mono inOrder, refl_of Tables.KeepsAges start.tables⟩
  | cons scheduled rest inductionHypothesis =>
      obtain ⟨fromFirst, restAdvances⟩ := List.pairwise_cons.1 advances
      obtain ⟨isNotLater, restNotLater⟩ := List.forall_mem_cons.1 notLater
      have step : start.tables.AgesUntil scheduled.now.seconds
          (scheduled.perform start).2.tables :=
        Operation.tablesRelated (agesUntil_respectsCommits (scheduled.conditionsAt start))
          scheduled.operation start
      obtain ⟨between, kept⟩ := step (dated.mono (notEarlier scheduled List.mem_cons_self))
      obtain ⟨onward, stillKept⟩ :=
        inductionHypothesis restAdvances between isNotLater fromFirst restNotLater
      exact ⟨onward, trans_of Tables.KeepsAges kept stillKept⟩

section Empty

variable {schedule : List ScheduledOperation} (advances : ClockAdvances schedule)
  {start : World} (emptyTables : start.tables = Tables.empty)

include advances emptyTables

/-- Nothing is dated later than any moment that is not earlier than all operations. -/
theorem datedUntil_of_empty {latest : Int}
    (notLater : ∀ scheduled ∈ schedule, scheduled.now.seconds ≤ latest) :
    (runOperations schedule start).tables.DatedUntil latest := by
  -- No operation is earlier than the first one, and if there is none nothing is dated.
  obtain ⟨earliest, inOrder, notEarlier⟩ : ∃ earliest, earliest ≤ latest ∧
      ∀ scheduled ∈ schedule, earliest ≤ scheduled.now.seconds := by
    cases schedule with
    | nil =>
        exact ⟨latest, Int.le_refl _, fun _ member => by cases member⟩
    | cons first rest =>
        exact ⟨first.now.seconds, notLater first List.mem_cons_self,
          List.forall_mem_cons.2 ⟨Int.le_refl _, (List.pairwise_cons.1 advances).1⟩⟩
  exact (datedUntil_runOperations advances (emptyTables ▸ Tables.datedUntil_empty earliest)
    inOrder notEarlier notLater).1

theorem dated_of_empty {row : FileRow}
    (member : row ∈ (runOperations schedule start).tables.files) :
    (runOperations schedule start).tables.Dated row := by
  have atMost : ∀ scheduled ∈ schedule, scheduled.now.seconds ≤ latestSecond :=
    fun scheduled _ => scheduled.now.seconds_inRange.2
  exact (datedUntil_of_empty advances emptyTables atMost).dated row member

end Empty

/-- What is there in the middle of a run ages in what follows. -/
theorem keepsAges_of_empty {earlier later : List ScheduledOperation}
    (advances : ClockAdvances (earlier ++ later)) {start : World}
    (emptyTables : start.tables = Tables.empty) :
    (runOperations earlier start).tables.KeepsAges
      (runOperations later (runOperations earlier start)).tables := by
  obtain ⟨earlierAdvances, laterAdvances, inOrder⟩ := List.pairwise_append.1 advances
  cases later with
  | nil =>
      exact refl_of Tables.KeepsAges _
  | cons next rest =>
      have dated : (runOperations earlier start).tables.DatedUntil next.now.seconds :=
        datedUntil_of_empty earlierAdvances emptyTables
          fun scheduled member => inOrder scheduled member next List.mem_cons_self
      exact (datedUntil_runOperations laterAdvances dated next.now.seconds_inRange.2
        (List.forall_mem_cons.2 ⟨Int.le_refl _, (List.pairwise_cons.1 laterAdvances).1⟩)
        fun scheduled _ => scheduled.now.seconds_inRange.2).2

/-! ## Coherent times -/

/-- The times of a file are coherent with those of the versions that the catalog has of it. -/
structure Tables.CoherentTimes (tables : Tables) (row : FileRow) : Prop where
  created : ∃ first, tables.version? row.fileId 1 = some first ∧
    first.createdAt = row.createdAt
  ordered : ∀ earlier ∈ tables.versions, ∀ later ∈ tables.versions,
    earlier.fileId = row.fileId → later.fileId = row.fileId →
      earlier.number.toInt ≤ later.number.toInt →
        earlier.createdAt.toInt ≤ later.createdAt.toInt
  current : ∃ current, tables.version? row.fileId row.currentVersion = some current ∧
    current.createdAt.toInt ≤ row.updatedAt.toInt
  lifetime : row.createdAt.toInt ≤ row.updatedAt.toInt
  trashed : row.status = FileStatus.trashed.text → row.trashedAt = some row.updatedAt
  untrashed : row.status ≠ FileStatus.trashed.text → row.trashedAt = none

section Coherent

variable {log : List CatalogChange} {tables : Tables} {row : FileRow} {file : FileRecord}
  {version : VersionRecord} {current : UInt32}

/-- The first version in the history of a file is the one with which it was registered. -/
theorem Recorded.head?_history (recorded : Recorded log tables row file version current) :
    (tables.historyOf row.fileId).head?.map VersionRow.number =
      some (encodeNumber file.currentVersion) := by
  have started := recorded.started
  have count : current.toNat + 1 - file.currentVersion.toNat =
      (current.toNat - file.currentVersion.toNat) + 1 := by
    omega
  rw [← List.head?_map, recorded.numbers, numbersThrough, count, List.range'_succ]
  rfl

/-- A version is not older than one with a lower number. -/
theorem Recorded.createdAt_le (recorded : Recorded log tables row file version current)
    (dated : tables.Dated row) {earlier later : VersionRow}
    (isEarlier : earlier ∈ tables.historyOf row.fileId)
    (isLater : later ∈ tables.historyOf row.fileId)
    (inOrder : earlier.number.toInt ≤ later.number.toInt) :
    earlier.createdAt.toInt ≤ later.createdAt.toInt := by
  -- Read in both directions the relation is symmetric, so it holds of any two versions.
  let ordered (first second : VersionRow) : Prop :=
    (first.number.toInt ≤ second.number.toInt →
        first.createdAt.toInt ≤ second.createdAt.toInt) ∧
      (second.number.toInt ≤ first.number.toInt →
        second.createdAt.toInt ≤ first.createdAt.toInt)
  have inHistory : (tables.historyOf row.fileId).Pairwise ordered := by
    refine (recorded.pairwise_history.and dated.ordered).imp ?_
    rintro first second ⟨lower, notLater⟩
    exact ⟨fun _ => notLater, fun notLower => absurd lower (Int.not_lt.2 notLower)⟩
  have symmetric : Std.Symm ordered := ⟨fun _ _ both => ⟨both.2, both.1⟩⟩
  have reflexive : ∀ stored ∈ tables.historyOf row.fileId, ordered stored stored :=
    fun _ _ => ⟨fun _ => Int.le_refl _, fun _ => Int.le_refl _⟩
  exact (List.Pairwise.forall_of_forall reflexive inHistory isEarlier isLater).1 inOrder

theorem Recorded.coherentTimes (recorded : Recorded log tables row file version current)
    (started : file.currentVersion = 1) (dated : tables.Dated row) (sound : row.IsSound) :
    tables.CoherentTimes row := by
  constructor
  · obtain ⟨first, isFirst, sameBirth⟩ := Option.map_eq_some_iff.1 dated.first
    have numbered := recorded.head?_history
    rw [isFirst, started, Option.map_some, Option.some.injEq] at numbered
    have found := recorded.version?_of_mem (List.mem_of_head? isFirst)
    rw [numbered] at found
    exact ⟨first, found, sameBirth⟩
  · intro earlier isEarlier later isLater ofFile alsoOfFile inOrder
    exact recorded.createdAt_le dated
      (List.mem_filter.2 ⟨isEarlier, decide_eq_true ofFile⟩)
      (List.mem_filter.2 ⟨isLater, decide_eq_true alsoOfFile⟩) inOrder
  · obtain ⟨stored, isStored, found, _⟩ := recorded.version?_eq_some
    exact ⟨stored, found, dated.latest stored isStored⟩
  · exact dated.createdAt_le_updatedAt
  · intro marked
    obtain ⟨moment, isTrashed⟩ := Option.isSome_iff_exists.1 (sound.status_eq_iff.1 marked)
    rw [isTrashed, dated.trashed moment isTrashed]
  · intro unmarked
    exact Option.not_isSome_iff_eq_none.1 fun isTrashed =>
      unmarked (sound.status_eq_iff.2 isTrashed)

end Coherent

/-- The times that a vault shows are coherent. In every state that a run of operations reaches
under a clock that never goes back, a file is as old as its version 1, its versions are in the
order of time, it was changed last when or after its current version was added, and if it is
trashed, when it was trashed; and nothing that follows makes a file older or sets back when it
was changed last. -/
theorem timestamps_are_coherent (schedule : List ScheduledOperation) (start : World)
    (emptyTables : start.tables = Tables.empty) (advances : ClockAdvances schedule) :
    (∀ row ∈ (runOperations schedule start).tables.files,
        (runOperations schedule start).tables.CoherentTimes row) ∧
      ∀ earlier later, schedule = earlier ++ later →
        ∀ row ∈ (runOperations earlier start).tables.files,
          ∃ next, (runOperations schedule start).tables.file? row.fileId = some next ∧
            next.createdAt = row.createdAt ∧ row.updatedAt.toInt ≤ next.updatedAt.toInt := by
  have evolves : Tables.empty.Evolves (runOperations schedule start).tables :=
    emptyTables ▸ evolves_runOperations schedule start
  constructor
  · intro row member
    obtain ⟨log, file, version, current, recorded, started, _⟩ :=
      evolves.recorded_of_empty member
    have sound := sound_runOperations schedule start (emptyTables ▸ Tables.sound_empty)
    exact recorded.coherentTimes started (dated_of_empty advances emptyTables member)
      (sound.files row member)
  · rintro earlier later rfl row member
    have aged := keepsAges_of_empty advances emptyTables
    rw [← runOperations_append] at aged
    obtain ⟨next, isNext, sameFile, sameBirth, notEarlier⟩ := aged row member
    have found : (runOperations (earlier ++ later) start).tables.file? next.fileId = some next :=
      find?_of_nodup_keys evolves.keyed_of_empty isNext
    exact ⟨next, sameFile ▸ found, sameBirth, notEarlier⟩

theorem inRange_delayed (seconds : Fin 100) :
    earliestSecond ≤ 1715000000 + (seconds.val : Int) ∧
      1715000000 + (seconds.val : Int) ≤ latestSecond := by
  constructor <;> simp only [earliestSecond, latestSecond] <;> omega

/-- The same operation at a number of seconds after the first moment. -/
def ScheduledOperation.delayed (scheduled : ScheduledOperation) (seconds : Fin 100) :
    ScheduledOperation :=
  { scheduled with
    now :=
      { Vault.firstMoment with
        seconds := 1715000000 + (seconds.val : Int)
        seconds_inRange := inRange_delayed seconds } }

/-- The first upload, a revert of it two seconds later, and its deletion after three more. -/
def shortLife : List ScheduledOperation :=
  [undisturbed (.upload Vault.firstUpload),
    (undisturbed (.revert (fileIdOf Vault.firstUpload.payload) 1)).delayed 2,
    (undisturbed (.delete (fileIdOf Vault.firstUpload.payload))).delayed 5]

/-- The file of a short life was trashed when it was changed last, five seconds after its
version 1 was added. -/
theorem short_life_is_dated :
    (Vault.emptyVault .empty).tables = Tables.empty ∧ ClockAdvances shortLife ∧
      ∃ row ∈ (runOperations shortLife (Vault.emptyVault .empty)).tables.files,
        row.createdAt.toInt + 5 = row.updatedAt.toInt ∧
          (runOperations shortLife (Vault.emptyVault .empty)).tables.CoherentTimes row := by
  have advances : ClockAdvances shortLife := by
    decide +kernel
  have evaluated :
      (runOperations shortLife (Vault.emptyVault .empty)).tables.files.map (fun row =>
        (row.status, row.createdAt.toInt, row.updatedAt.toInt)) =
        [("trashed", 1715000000, 1715000005)] := by
    decide +kernel
  obtain ⟨row, files, times⟩ := List.map_eq_singleton_iff.1 evaluated
  simp only [Prod.mk.injEq] at times
  obtain ⟨_, createdAt, updatedAt⟩ := times
  have registered : row ∈ (runOperations shortLife (Vault.emptyVault .empty)).tables.files :=
    files ▸ List.mem_singleton_self row
  have coherent := (timestamps_are_coherent shortLife (Vault.emptyVault .empty) rfl advances).1
  exact ⟨rfl, advances, row, registered, by rw [createdAt, updatedAt]; decide,
    coherent row registered⟩

end ContentVault
