import ContentVault.Proofs.Catalog.Atomicity
import ContentVault.Proofs.Vault.Operations

/-!
# Deleting several files

A deletion of several files parts the identifiers that it is given.

* blanks around an identifier do not count, and neither do repetitions;
* those of live files are reported as deleted and the others as missing, each once and in the
  order of first mention;
* the live files are moved to the trash by one unit of work, and nothing else is touched.
-/

namespace ContentVault

open World StoreRequest

/-! ## Each identifier once -/

theorem firstMentions_eq_append_eraseDups {α : Type} [DecidableEq α] (kept items : List α) :
    firstMentions kept items =
      kept ++ (items.filter fun item => decide (item ∉ kept)).eraseDups := by
  induction items generalizing kept with
  | nil =>
      simp [firstMentions]
  | cons first rest inductionHypothesis =>
      by_cases isKept : first ∈ kept
      · rw [firstMentions, if_pos isKept, List.filter_cons_of_neg (by simpa using isKept),
          inductionHypothesis]
      · rw [firstMentions, if_neg isKept, List.filter_cons_of_pos (by simpa using isKept),
          inductionHypothesis, List.eraseDups_cons, List.filter_filter, List.append_assoc,
          List.singleton_append]
        congr 3
        refine List.filter_congr fun item _ => ?_
        by_cases same : item = first <;> simp [same]

/-- The first mentions of a list are what is left of it when repetitions are dropped. -/
theorem firstMentions_eq_eraseDups {α : Type} [DecidableEq α] (items : List α) :
    firstMentions [] items = items.eraseDups := by
  rw [firstMentions_eq_append_eraseDups]
  simp

theorem filterMap_nonBlank? (texts : List String) :
    texts.filterMap nonBlank? = (texts.map trim).filter fun text => decide (text ≠ "") := by
  induction texts with
  | nil =>
      rfl
  | cons text rest inductionHypothesis =>
      rw [List.map_cons]
      by_cases blank : trim text = ""
      · rw [List.filterMap_cons_none (by simp [nonBlank?, blank]),
          List.filter_cons_of_neg (by simp [blank]), inductionHypothesis]
      · rw [List.filterMap_cons_some (nonBlank?_eq_some.2 ⟨rfl, blank⟩),
          List.filter_cons_of_pos (by simp [blank]), inductionHypothesis]

/-- The identifiers that a list names: without the blanks around them, without those of which
nothing is left, and each where it comes first. -/
def namedIds (fileIds : List String) : List String :=
  ((fileIds.map trim).filter fun fileId => decide (fileId ≠ "")).eraseDups

theorem firstMentions_nonBlank (fileIds : List String) :
    firstMentions [] (fileIds.filterMap nonBlank?) = namedIds fileIds := by
  rw [firstMentions_eq_eraseDups, filterMap_nonBlank?, namedIds]

theorem nodup_namedIds (fileIds : List String) : (namedIds fileIds).Nodup := by
  rw [← firstMentions_nonBlank]
  exact nodup_firstMentions _ List.nodup_nil

/-! ## Moving the live ones to the trash -/

/-- The row of a file that is moved to the trash. -/
def FileRow.discarded (row : FileRow) (trashedAt : Int64) : FileRow :=
  { row with
    status := FileStatus.trashed.text
    trashedAt := some trashedAt
    updatedAt := trashedAt }

namespace Tables

variable {tables : Tables} {fileIds : List String} {trashedAt : Int64}

theorem isLive_of_mem {row : FileRow} (member : row ∈ tables.files)
    (notTrashed : row.trashedAt = none) : tables.isLive row.fileId = true := by
  rw [isLive, Option.isSome_iff_ne_none, liveFile?_ne_none_iff]
  exact ⟨row, member, rfl, notTrashed⟩

/-- Only the live ones of some files are moved to the trash. -/
theorem discarding_filter_isLive :
    tables.discarding (fileIds.filter tables.isLive) trashedAt =
      tables.discarding fileIds trashedAt := by
  unfold discarding
  congr 1
  refine List.map_congr_left fun row member => ?_
  by_cases notTrashed : row.trashedAt = none
  · simp [isLive_of_mem member notTrashed]
  · simp [notTrashed]

/-- Distinct files are moved to the trash as a whole, and those that were live are reported. -/
theorem trash_eq (distinct : fileIds.Nodup) (now : Timestamp) :
    tables.trash fileIds now =
      (.ok (fileIds.filter tables.isLive), tables.discarding fileIds (encodeTime now)) := by
  refine Work.transaction_eq_ok.2 ?_
  rw [trashFiles_eq, firstMentions_of_nodup (distinct.filter _)]

end Tables

namespace Vault

variable {conditions : Conditions} {before : World}

/-- What a deletion of several files answers, and what it leaves of the tables. -/
structure Deletes (named : List String) (trashedAt : Int64) (before : Tables)
    (deletion : BatchDeletion) (after : Tables) : Prop where
  deleted : deletion.deleted = named.filter before.isLive
  missing : deletion.missing = named.filter fun fileId => !before.isLive fileId
  together : (deletion.deleted ++ deletion.missing).Perm named
  once : (deletion.deleted ++ deletion.missing).Nodup
  discarded : after.files = before.files.map fun row =>
    if row.fileId ∈ deletion.deleted ∧ row.trashedAt = none then row.discarded trashedAt else row
  versions : after.versions = before.versions
  tags : after.tags = before.tags
  links : after.links = before.links

theorem deletes_of_trash {named : List String} (distinct : named.Nodup) (now : Timestamp)
    (tables : Tables) :
    Deletes named (encodeTime now) tables
      ⟨named.filter tables.isLive,
        named.filter fun fileId => !(named.filter tables.isLive).contains fileId⟩
      (tables.discarding named (encodeTime now)) := by
  have missing : (named.filter fun fileId => !(named.filter tables.isLive).contains fileId) =
      named.filter fun fileId => !tables.isLive fileId := by
    refine List.filter_congr fun fileId member => ?_
    rw [Bool.eq_iff_iff]
    simp [member]
  have together : (named.filter tables.isLive ++
      named.filter fun fileId => !tables.isLive fileId).Perm named :=
    List.filter_append_perm tables.isLive named
  rw [missing]
  exact {
    deleted := rfl
    missing := rfl
    together := together
    once := together.nodup_iff.2 distinct
    discarded := by
      rw [← Tables.discarding_filter_isLive]
      rfl
    versions := rfl
    tags := rfl
    links := rfl }

theorem trash_of_letsThrough {fileIds : List String} (distinct : fileIds.Nodup)
    (through : Fault.letsThrough (timeLimit conditions before)
      (before.nextFault conditions .trash) = true) :
    ∃ after : World,
      after.blobs = before.blobs ∧
        after.tables = before.tables.discarding fileIds (encodeTime conditions.now) ∧
          bounded .catalogWrite (.trash fileIds conditions.now) conditions before =
            (.ok (fileIds.filter before.tables.isLive), after) := by
  obtain ⟨between, noted, carriedOut⟩ :=
    change_of_letsThrough (fun tables => tables.trash fileIds conditions.now) through
  rw [Tables.trash_eq distinct] at carriedOut
  exact ⟨{ between with tables := before.tables.discarding fileIds (encodeTime conditions.now) },
    noted.blobs, rfl, bounded_eq_ok.2 carriedOut⟩

theorem trash_of_not_letsThrough (fileIds : List String)
    (lost : Fault.letsThrough (timeLimit conditions before)
      (before.nextFault conditions .trash) = false) :
    ∃ cause after,
      before.Noted (.catalog .trash) after ∧
        bounded .catalogWrite (.trash fileIds conditions.now) conditions before =
          (.error (.catalogWrite cause), after) := by
  obtain ⟨cause, after, noted, outcome⟩ :=
    toCatalog_of_not_letsThrough (fun _ _ tables => tables)
      (fun tables => tables.trash fileIds conditions.now) lost
  refine ⟨cause, after, noted, ?_⟩
  unfold bounded trash change
  rw [outcome]
  rfl

/-- How a deletion of several files ends. -/
structure BatchDeletes (named : List String) (conditions : Conditions) (before : World)
    (answer : Except VaultError BatchDeletion) (after : World) : Prop where
  blobs : after.blobs = before.blobs
  refused : named = [] → answer = .error .noFileIds
  answered : named ≠ [] →
    Fault.letsThrough (timeLimit conditions before) (before.nextFault conditions .trash) = true →
      ∃ deletion, answer = .ok deletion
  done : ∀ deletion, answer = .ok deletion →
    Deletes named (encodeTime conditions.now) before.tables deletion after.tables
  failed : ∀ failure, answer = .error failure →
    after.tables = before.tables ∧
      (named = [] ∧ failure = .noFileIds ∨ named ≠ [] ∧ ∃ cause, failure = .catalogWrite cause)

/-- Whatever identifiers it is given, and whatever goes wrong on the way: a deletion of several
files parts those that it names into the live ones, which are in the trash from then on, and the
others, or it changes nothing at all. -/
theorem batch_deletion_parts_identifiers (fileIds : List String) (conditions : Conditions)
    (before : World) :
    BatchDeletes (namedIds fileIds) conditions before
      (batchDelete fileIds conditions before).1 (batchDelete fileIds conditions before).2 := by
  unfold batchDelete
  rw [firstMentions_nonBlank]
  dsimp only
  by_cases nothing : namedIds fileIds = []
  · rw [if_pos nothing]
    exact {
      blobs := rfl
      refused := fun _ => rfl
      answered := fun something => absurd nothing something
      done := nofun
      failed := by
        intro failure failed
        cases failed
        exact ⟨rfl, Or.inl ⟨nothing, rfl⟩⟩ }
  rw [if_neg nothing, wallClock_bind, VaultAction.bind_apply]
  have distinct := nodup_namedIds fileIds
  rcases through : Fault.letsThrough (timeLimit conditions before)
    (before.nextFault conditions .trash)
  · obtain ⟨cause, after, noted, lost⟩ := trash_of_not_letsThrough (namedIds fileIds) through
    rw [lost]
    exact {
      blobs := noted.blobs
      refused := fun empty => absurd empty nothing
      answered := fun _ arrived => absurd (through.symm.trans arrived) Bool.false_ne_true
      done := nofun
      failed := by
        intro failure failed
        cases failed
        exact ⟨noted.tables, Or.inr ⟨nothing, cause, rfl⟩⟩ }
  · obtain ⟨after, blobs, tables, trashed⟩ := trash_of_letsThrough distinct through
    rw [trashed]
    exact {
      blobs := blobs
      refused := fun empty => absurd empty nothing
      answered := fun _ _ => ⟨_, rfl⟩
      done := by
        intro deletion isDeletion
        cases isDeletion
        exact tables ▸ deletes_of_trash distinct conditions.now before.tables
      failed := nofun }

end Vault

end ContentVault
