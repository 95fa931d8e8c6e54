import ContentVault.Database.Migration

/-!
# Databases that are up to date

* a migration that was checked or run has a record with its checksum, and the records before
  it stay;
* so a database that was brought up to date needs no migration, and a reader may open it.
-/

namespace ContentVault.Snapshot

variable {snapshot current : Snapshot} {migration : Migration} {migrations : List Migration}
variable {isWritable : Bool}

/-- The first record of a migration has its checksum. -/
def HasRun (snapshot : Snapshot) (migration : Migration) : Prop :=
  ∃ record, snapshot.migrations.find? (fun record => record.version = migration.version) =
    some record ∧ record.checksum = migration.checksum

theorem HasRun.mono (hasRun : snapshot.HasRun migration)
    (longer : snapshot.migrations <+: current.migrations) : current.HasRun migration := by
  obtain ⟨record, found, same⟩ := hasRun
  obtain ⟨more, appended⟩ := longer
  exact ⟨record, by rw [← appended, List.find?_append, found, Option.some_or], same⟩

theorem checkOrRun?_of_hasRun (hasRun : snapshot.HasRun migration) :
    checkOrRun? isWritable snapshot migration = some snapshot := by
  obtain ⟨record, found, same⟩ := hasRun
  rw [checkOrRun?, found]
  exact if_pos same

/-- Migrations have run: the records are those from before and successes of these, each of
which has one. -/
structure HaveRun (migrations : List Migration) (before after : Snapshot) : Prop where
  kept : before.migrations <+: after.migrations
  added : ∀ record ∈ after.migrations, record ∈ before.migrations ∨
    ∃ migration ∈ migrations, record = ⟨migration.version, migration.checksum, true⟩
  hasRun : ∀ migration ∈ migrations, after.HasRun migration

theorem HaveRun.nil (snapshot : Snapshot) : HaveRun [] snapshot snapshot :=
  ⟨List.prefix_refl _, fun _ => Or.inl, nofun⟩

theorem HaveRun.cons {middle : Snapshot} (first : HaveRun [migration] snapshot middle)
    (others : HaveRun migrations middle current) :
    HaveRun (migration :: migrations) snapshot current := by
  refine ⟨first.kept.trans others.kept, fun record member => ?_, fun one member => ?_⟩
  · rcases others.added record member with earlier | ⟨one, isOne, same⟩
    · rcases first.added record earlier with before | ⟨one, isOne, same⟩
      · exact Or.inl before
      · exact Or.inr ⟨one, List.mem_singleton.1 isOne ▸ List.mem_cons_self, same⟩
    · exact Or.inr ⟨one, List.mem_cons_of_mem _ isOne, same⟩
  · rcases List.mem_cons.1 member with rfl | later
    · exact (first.hasRun one (List.mem_singleton_self one)).mono others.kept
    · exact others.hasRun one later

theorem checkOrRun?_haveRun (done : checkOrRun? isWritable snapshot migration = some current) :
    HaveRun [migration] snapshot current := by
  unfold checkOrRun? at done
  split at done
  · rename_i record found
    obtain ⟨same, unchanged⟩ := Option.ite_none_right_eq_some.1 done
    obtain rfl := Option.some.inj unchanged
    exact ⟨List.prefix_refl _, fun _ => Or.inl, by simpa using ⟨record, found, same⟩⟩
  · rename_i unknown
    obtain ⟨-, run⟩ := Option.ite_none_right_eq_some.1 done
    obtain ⟨-, appended⟩ := Option.ite_none_left_eq_some.1 run
    obtain rfl := Option.some.inj appended
    refine ⟨List.prefix_append _ _, by simp, ?_⟩
    rw [List.forall_mem_singleton]
    exact ⟨_, by rw [List.find?_append, unknown, Option.none_or, List.find?_singleton,
      if_pos (decide_eq_true rfl)], rfl⟩

theorem foldlM_haveRun
    (done : migrations.foldlM (checkOrRun? isWritable) snapshot = some current) :
    HaveRun migrations snapshot current := by
  induction migrations generalizing snapshot with
  | nil =>
      obtain rfl : snapshot = current := Option.some.inj done
      exact HaveRun.nil snapshot
  | cons migration migrations inductionHypothesis =>
      rw [List.foldlM_cons] at done
      obtain ⟨middle, first, others⟩ := Option.bind_eq_some_iff.1 done
      exact (checkOrRun?_haveRun first).cons (inductionHypothesis others)

theorem foldlM_of_hasRun (hasRun : ∀ migration ∈ migrations, snapshot.HasRun migration) :
    migrations.foldlM (checkOrRun? isWritable) snapshot = some snapshot := by
  induction migrations with
  | nil => rfl
  | cons migration migrations inductionHypothesis =>
      rw [List.foldlM_cons, checkOrRun?_of_hasRun (hasRun migration List.mem_cons_self)]
      exact inductionHypothesis fun one member => hasRun one (List.mem_cons_of_mem _ member)

/-- Bringing a database up to date again changes nothing, also if it cannot be written. -/
theorem migrate?_of_migrate? (migrated : snapshot.migrate? isWritable = some current)
    (canWrite : Bool) : current.migrate? canWrite = some current := by
  obtain ⟨accepted, done⟩ := Option.ite_none_left_eq_some.1 migrated
  rw [Bool.or_eq_true, not_or, Bool.not_eq_true, Bool.not_eq_true', Bool.not_eq_false] at accepted
  obtain ⟨clean, known⟩ := accepted
  have run := foldlM_haveRun done
  have stillClean : current.isDirty = false := by
    refine List.any_eq_false.2 fun record member => ?_
    rcases run.added record member with before | ⟨migration, _, rfl⟩
    · exact List.any_eq_false.1 clean record before
    · exact nofun
  have stillKnown : current.knowsRecords = true := by
    refine List.all_eq_true.2 fun record member => ?_
    rcases run.added record member with before | ⟨migration, isKnown, rfl⟩
    · exact List.all_eq_true.1 known record before
    · exact List.any_eq_true.2 ⟨migration, isKnown, by simp⟩
  rw [migrate?, stillClean, stillKnown]
  exact foldlM_of_hasRun run.hasRun

example : (new.migrate? true).bind (·.migrate? false) = new.migrate? true := by
  decide

end ContentVault.Snapshot
