import ContentVault.Proofs.Vault.Alongside
import ContentVault.Proofs.Vault.Labels
import ContentVault.Proofs.Vault.Mirror

/-!
# Operations on different files

Operations that are about different files do not interfere.

* what an operation does to the rows and blobs of its files does not depend on whether an
  operation on other files came before it;
* so two operations on different files can be carried out in either order, over a store in
  memory and over a directory with room for what they store.
-/

namespace ContentVault

/-! ## Two operations in either order -/

/-- Two stores in memory or two directories that hold the same at some keys. -/
inductive BlobStore.AgreeAt (keys : List PathName → Prop) : BlobStore → BlobStore → Prop where
  | memory {store other : MemoryStore}
      (same : ∀ names, keys names → store.blobs.get? names = other.blobs.get? names) :
      AgreeAt keys (.memory store) (.memory other)
  | directory {files others : DirectoryStore}
      (same : ∀ names, keys names → files.contentAt? names = others.contentAt? names) :
      AgreeAt keys (.directory files) (.directory others)

/-- The same rows and the same blobs. -/
structure World.SameContents (first second : World) : Prop where
  files : first.tables.files.Perm second.tables.files
  versions : first.tables.versions.Perm second.tables.versions
  tags : first.tables.tags.Perm second.tables.tags
  links : ∃ links others, first.tables.links = some links ∧
    second.tables.links = some others ∧ links.Perm others
  blobs : first.blobs.AgreeAt (fun _ => True) second.blobs

/-- All rows and blobs are left alone but those of some files, and tags are only added. -/
structure World.LeavesOthers (subjects : List String) (before after : World) : Prop where
  rows : ∀ fileId, fileId ∉ subjects → after.tables.part fileId = before.tables.part fileId
  tags : before.tables.tags <+: after.tables.tags
  blobs : before.blobs.AgreeAt (fun names => ¬ IsKeyOf (· ∈ subjects) names) after.blobs

/-- Two operations can be carried out in either order: each of them answers the same, the
rows and blobs afterwards are the same, and neither touches those of files that it is not
about. -/
structure World.Independent (start : World) (first second : ScheduledOperation) : Prop where
  firstAnswer : (first.perform start).1 = (first.perform (second.perform start).2).1
  secondAnswer : (second.perform start).1 = (second.perform (first.perform start).2).1
  contents : (second.perform (first.perform start).2).2.SameContents
    (first.perform (second.perform start).2).2
  firstLeaves : start.LeavesOthers first.operation.subjects (first.perform start).2
  secondLeaves : start.LeavesOthers second.operation.subjects (second.perform start).2

/-- Different names of tags that are in use or may be added have different identifiers. -/
def World.TellsTags (start : World) (first second : Operation) : Prop :=
  ∀ left ∈ start.tables.tags.map Tag.name ++ first.tagNames ++ second.tagNames,
    ∀ right ∈ start.tables.tags.map Tag.name ++ first.tagNames ++ second.tagNames,
      tagIdOf left = tagIdOf right → left = right

section Pair

variable {names : List String} {start here there : World} {store : MemoryStore}
  {first second : ScheduledOperation}

/-- An operation beside itself. -/
theorem World.Alongside.diagonal {scope : Scope} (tags : start.tables.NamesTags scope)
    (kept : start.blobs = .memory store) :
    World.Alongside scope start start store store start start := by
  refine ⟨.start tags tags (fun _ _ => rfl) (List.prefix_refl _), rfl, ?_⟩
  rw [kept]
  exact .intro ⟨⟨rfl, rfl⟩, fun _ _ => rfl, fun _ _ => ⟨rfl, rfl⟩⟩

theorem World.Alongside.leavesOthers {operation : Operation}
    (frame : World.Alongside (operation.scope names) start start store store here here)
    (kept : start.blobs = .memory store) : start.LeavesOthers operation.subjects here where
  rows := fun fileId outside => (frame.tables.beside fileId outside).1
  tags := frame.tables.grown.1
  blobs := by
    have related := frame.blobs
    generalize here.blobs = blobs at related ⊢
    rw [kept]
    obtain ⟨related⟩ := related
    exact .memory fun names outside => (related.beside names outside).1.symm

theorem not_isKeyOf_of_disjoint {subjects others : List String}
    (different : subjects.Disjoint others) {names : List PathName}
    (isKey : IsKeyOf (· ∈ others) names) : ¬ IsKeyOf (· ∈ subjects) names := by
  rintro ⟨fileId, isSubject, isLast⟩
  obtain ⟨other, isOther, isLastToo⟩ := isKey
  have same : fileId = other :=
    Utf8.encode_injective (Option.some.inj (isLast.symm.trans isLastToo))
  exact different isSubject (same ▸ isOther)

/-- What one operation did does not matter for an operation on other files. -/
theorem World.Alongside.after {operation other : Operation}
    (tags : start.tables.NamesTags (other.scope names)) (kept : start.blobs = .memory store)
    (frame : World.Alongside (operation.scope names) start start store store here here)
    (different : operation.subjects.Disjoint other.subjects) :
    ∃ later, here.blobs = .memory later ∧
      World.Alongside (other.scope names) start here store later start here := by
  have outside : ∀ {fileId}, fileId ∈ other.subjects → fileId ∉ operation.subjects :=
    fun isOther isOwn => different isOwn isOther
  have tables : Tables.Alongside (other.scope names) start.tables here.tables start.tables
      here.tables :=
    .start tags ⟨frame.tables.namesHere.orderly, frame.tables.namesHere.named⟩
      (fun fileId isOther => (frame.tables.beside fileId (outside isOther)).1.symm)
      frame.tables.grown.1
  have related := frame.blobs
  rcases isMemory : here.blobs with later | files | bucket
  · rw [isMemory] at related
    obtain ⟨related⟩ := related
    refine ⟨later, rfl, tables, Nat.add_comm _ _, ?_⟩
    rw [kept, isMemory]
    exact .intro ⟨⟨rfl, related.behaviour.1⟩,
      fun names isKey => (related.beside names (not_isKeyOf_of_disjoint different isKey)).1.symm,
      fun _ _ => ⟨rfl, rfl⟩⟩
  · rw [isMemory] at related
    nomatch related
  · rw [isMemory] at related
    nomatch related

/-- Two changes of different places, made in either order, leave the same: each does to its
own places the same before and after the other, and leaves the others alone. -/
theorem same_in_either_order {Place Value : Type} {own other : Place → Prop}
    {origin ownAfter otherAfter left right : Place → Value}
    (different : ∀ place, other place → ¬ own place)
    (ownWithin : ∀ place, own place → ownAfter place = right place)
    (ownBeside : ∀ place, ¬ own place →
      ownAfter place = origin place ∧ right place = otherAfter place)
    (otherWithin : ∀ place, other place → otherAfter place = left place)
    (otherBeside : ∀ place, ¬ other place →
      otherAfter place = origin place ∧ left place = ownAfter place)
    (place : Place) : left place = right place := by
  by_cases isOther : other place
  · calc left place = otherAfter place := (otherWithin place isOther).symm
      _ = right place := (ownBeside place (different place isOther)).2.symm
  · by_cases isOwn : own place
    · calc left place = ownAfter place := (otherBeside place isOther).2
        _ = right place := ownWithin place isOwn
    · calc left place = ownAfter place := (otherBeside place isOther).2
        _ = origin place := (ownBeside place isOwn).1
        _ = otherAfter place := (otherBeside place isOther).1.symm
        _ = right place := (ownBeside place isOwn).2.symm

theorem World.SameContents.of_alongside {own other : Operation}
    {ownAfter otherAfter left right : World} {storeOwn storeOther : MemoryStore}
    (different : own.subjects.Disjoint other.subjects)
    (isOwn : ownAfter.blobs = .memory storeOwn) (isOther : otherAfter.blobs = .memory storeOther)
    (ownFirst : World.Alongside (own.scope names) start otherAfter store storeOther ownAfter right)
    (otherFirst : World.Alongside (other.scope names) start ownAfter store storeOwn otherAfter left)
    (leftTags : left.tables.tags.Nodup) (rightTags : right.tables.tags.Nodup) :
    left.SameContents right := by
  have rows := Tables.perm_of_part (same_in_either_order
    (fun fileId isOther isOwn => different isOwn isOther)
    ownFirst.tables.within ownFirst.tables.beside
    otherFirst.tables.within otherFirst.tables.beside)
  refine ⟨rows.1, rows.2.1, ?_, ?_, ?_⟩
  · rw [List.perm_ext_iff_of_nodup leftTags rightTags]
    intro tag
    rw [otherFirst.tables.tags, ownFirst.tables.tags]
    exact or_comm
  · obtain ⟨links, present, _⟩ := otherFirst.tables.namesThere.orderly.links
    obtain ⟨others, presentToo, _⟩ := ownFirst.tables.namesThere.orderly.links
    exact ⟨links, others, present, presentToo, rows.2.2 links others present presentToo⟩
  · have ownBlobs := ownFirst.blobs
    have otherBlobs := otherFirst.blobs
    rw [isOwn] at ownBlobs
    rw [isOther] at otherBlobs
    generalize left.blobs = leftStore at otherBlobs ⊢
    generalize right.blobs = rightStore at ownBlobs ⊢
    obtain ⟨ownBlobs⟩ := ownBlobs
    obtain ⟨otherBlobs⟩ := otherBlobs
    exact .memory fun names _ => same_in_either_order
      (fun names isKey => not_isKeyOf_of_disjoint different isKey)
      ownBlobs.within ownBlobs.beside otherBlobs.within otherBlobs.beside names

/-- Operations on different files do not interfere in a vault that keeps its blobs in
memory. -/
theorem World.independent_of_orderly (kept : start.blobs = .memory store)
    (orderly : start.tables.Orderly IsBlobPath) (labelled : start.tables.Labelled)
    (faultless : first.faults = noFaults ∧ second.faults = noFaults)
    (notListing : ∀ request, first.operation ≠ .list request ∧ second.operation ≠ .list request)
    (different : first.operation.subjects.Disjoint second.operation.subjects)
    (distinct : start.TellsTags first.operation second.operation) :
    start.Independent first second := by
  let names := start.tables.tags.map Tag.name ++ first.operation.tagNames ++
    second.operation.tagNames
  have tells : ∀ operation : Operation, (operation.scope names).TellsTags :=
    fun _ left right isLeft isRight => distinct left isLeft right isRight
  have tags : ∀ operation : Operation, start.tables.NamesTags (operation.scope names) :=
    fun _ => ⟨orderly, fun tag member => List.mem_append_left _
      (List.mem_append_left _ (List.mem_map_of_mem member))⟩
  have addedFirst : ∀ name ∈ first.operation.tagNames, name ∈ names :=
    fun name member => List.mem_append_left _ (List.mem_append_right _ member)
  have addedSecond : ∀ name ∈ second.operation.tagNames, name ∈ names :=
    fun name member => List.mem_append_right _ member
  have perform : ∀ {scheduled : ScheduledOperation}, scheduled.faults = noFaults →
      (∀ request, scheduled.operation ≠ .list request) →
      (∀ name ∈ scheduled.operation.tagNames, name ∈ names) →
      World.Alongside (scheduled.operation.scope names) start start store store
        (scheduled.perform start).2 (scheduled.perform start).2 :=
    fun noFault noList added => (World.Alongside.perform noFault noList (tells _) added
      (.diagonal (tags _) kept)).2
  have frameFirst := perform faultless.1 (fun request => (notListing request).1) addedFirst
  have frameSecond := perform faultless.2 (fun request => (notListing request).2) addedSecond
  obtain ⟨laterFirst, isFirst, afterFirst⟩ := frameFirst.after (tags _) kept different
  obtain ⟨laterSecond, isSecond, afterSecond⟩ := frameSecond.after (tags _) kept
    fun fileId isSecond isFirst => different isFirst isSecond
  obtain ⟨sameSecond, secondStates⟩ := afterFirst.perform faultless.2
    (fun request => (notListing request).2) (tells _) addedSecond
  obtain ⟨sameFirst, firstStates⟩ := afterSecond.perform faultless.1
    (fun request => (notListing request).1) (tells _) addedFirst
  have tagsOf : ∀ run, (runOperations run start).tables.tags.Nodup :=
    fun run => (labelled_runOperations run start labelled).tagNames.of_map
  exact
    { firstAnswer := sameFirst
      secondAnswer := sameSecond
      contents := .of_alongside different isFirst isSecond firstStates secondStates
        (tagsOf [first, second]) (tagsOf [second, first])
      firstLeaves := frameFirst.leavesOthers kept
      secondLeaves := frameSecond.leavesOthers kept }

end Pair

/-- What holds in every state that operations without rivals reach over a store in memory. -/
theorem orderly_of_reached (schedule : List ScheduledOperation) (store : MemoryStore)
    (unrivalled : ∀ scheduled ∈ schedule, scheduled.Unrivalled) :
    ∃ reached, (runOperations schedule (Vault.emptyVault store)).blobs = .memory reached ∧
      (runOperations schedule (Vault.emptyVault store)).tables.Orderly IsBlobPath ∧
      (runOperations schedule (Vault.emptyVault store)).tables.Labelled := by
  obtain ⟨reached, advances⟩ :=
    progresses_runOperations schedule (Vault.emptyVault store) unrivalled store rfl
  exact ⟨reached, advances.blobs, orderly_runOperations schedule _ unrivalled .empty,
    labelled_runOperations schedule _ Tables.labelled_empty⟩

/-- In every state that operations without rivals reach, two operations on different files
that meet no faults can be carried out in either order: each of them answers the same, and
the rows and blobs afterwards are the same.  Neither touches the rows or blobs of any other
file than its own, and tags are only added. -/
theorem operations_on_different_files_commute (schedule : List ScheduledOperation)
    (store : MemoryStore) (unrivalled : ∀ scheduled ∈ schedule, scheduled.Unrivalled)
    (first second : ScheduledOperation)
    (faultless : first.faults = noFaults ∧ second.faults = noFaults)
    (notListing : ∀ request, first.operation ≠ .list request ∧ second.operation ≠ .list request)
    (different : first.operation.subjects.Disjoint second.operation.subjects)
    (distinct : (runOperations schedule (Vault.emptyVault store)).TellsTags first.operation
      second.operation) :
    (runOperations schedule (Vault.emptyVault store)).Independent first second := by
  obtain ⟨reached, kept, orderly, labelled⟩ := orderly_of_reached schedule store unrivalled
  exact World.independent_of_orderly kept orderly labelled faultless notListing different
    distinct

/-- New tags for the first upload. -/
def firstRetagged : ScheduledOperation :=
  undisturbed (.update (fileIdOf Vault.firstUpload.payload) ⟨none, none, none, some "home, play"⟩)

/-- Another upload by the same owner, under the same name and with a tag in common. -/
def secondUpload : ScheduledOperation :=
  undisturbed (.upload ⟨"alice", "notes.md", none, none, "play, home", "", "world".toUTF8⟩)

/-- The vault after a first upload. -/
def vaultInUse : World :=
  runOperations [undisturbed (.upload Vault.firstUpload)] (Vault.emptyVault .empty)

theorem secondUpload_commutes_with_firstRetagged :
    vaultInUse.Independent firstRetagged secondUpload := by
  have unrivalled : ∀ scheduled ∈ [undisturbed (.upload Vault.firstUpload)],
      scheduled.Unrivalled := by
    intro scheduled member
    rw [List.mem_singleton.1 member]
    exact undisturbed_unrivalled _
  refine operations_on_different_files_commute [undisturbed (.upload Vault.firstUpload)] .empty
    unrivalled firstRetagged secondUpload ⟨rfl, rfl⟩ (fun _ => ⟨nofun, nofun⟩) ?_ ?_
  · have different : fileIdOf Vault.firstUpload.payload ≠ fileIdOf "world".toUTF8 := by
      decide +kernel
    intro fileId isFirst isSecond
    exact different
      ((List.mem_singleton.1 isFirst).symm.trans (List.mem_singleton.1 isSecond))
  · have known : ∀ name ∈ vaultInUse.tables.tags.map Tag.name ++
        firstRetagged.operation.tagNames ++ secondUpload.operation.tagNames,
        name ∈ ["work", "home", "play"] := by
      decide +kernel
    have apart : (["work", "home", "play"].map tagIdOf).Nodup := by
      decide +kernel
    exact fun left isLeft right isRight =>
      List.inj_on_of_nodup_map apart (known left isLeft) (known right isRight)

/-! ## Blobs in a directory -/

section Directory

variable {root : List PathName} {process : UInt32}

theorem BlobStore.AgreeAt.mirrored {keys : List PathName → Prop}
    {first second firstMirror secondMirror : BlobStore} (agree : first.AgreeAt keys second)
    (mirrorsFirst : MirroredBy root process first firstMirror)
    (mirrorsSecond : MirroredBy root process second secondMirror) :
    firstMirror.AgreeAt keys secondMirror := by
  obtain ⟨mirrorsFirst, _, _⟩ := mirrorsFirst
  obtain ⟨mirrorsSecond, _, _⟩ := mirrorsSecond
  cases agree with
  | memory same =>
      refine .directory fun names isKey => ?_
      rw [mirrorsFirst.same, mirrorsSecond.same, same names isKey]

theorem World.LeavesOthers.mirrored {subjects : List String}
    {before after beforeMirror afterMirror : World} (leaves : before.LeavesOthers subjects after)
    (mirrorsBefore : World.MirroredBy root process before beforeMirror)
    (mirrorsAfter : World.MirroredBy root process after afterMirror) :
    beforeMirror.LeavesOthers subjects afterMirror where
  rows := by
    rw [← mirrorsBefore.tables.1, ← mirrorsAfter.tables.1]
    exact leaves.rows
  tags := by
    rw [← mirrorsBefore.tables.1, ← mirrorsAfter.tables.1]
    exact leaves.tags
  blobs := leaves.blobs.mirrored mirrorsBefore.blobs mirrorsAfter.blobs

theorem World.SameContents.mirrored {first second firstMirror secondMirror : World}
    (same : first.SameContents second)
    (mirrorsFirst : World.MirroredBy root process first firstMirror)
    (mirrorsSecond : World.MirroredBy root process second secondMirror) :
    firstMirror.SameContents secondMirror := by
  have blobs := same.blobs.mirrored mirrorsFirst.blobs mirrorsSecond.blobs
  obtain ⟨files, versions, tags, links, _⟩ := same
  rw [mirrorsFirst.tables.1, mirrorsSecond.tables.1] at files versions tags links
  exact ⟨files, versions, tags, links, blobs⟩

theorem World.Independent.mirrored {start mirror : World} {first second : ScheduledOperation}
    (independent : start.Independent first second)
    (mirrors : World.MirroredBy root process start mirror)
    (faultless : first.faults = noFaults ∧ second.faults = noFaults)
    (room : first.HasRoom root process ∧ second.HasRoom root process) :
    mirror.Independent first second := by
  obtain ⟨sameFirst, afterFirst⟩ := mirrors.perform faultless.1 room.1
  obtain ⟨sameSecond, afterSecond⟩ := mirrors.perform faultless.2 room.2
  obtain ⟨sameThen, firstThenSecond⟩ := afterFirst.perform faultless.2 room.2
  obtain ⟨sameBefore, secondThenFirst⟩ := afterSecond.perform faultless.1 room.1
  exact
    { firstAnswer := sameFirst.symm.trans (independent.firstAnswer.trans sameBefore)
      secondAnswer := sameSecond.symm.trans (independent.secondAnswer.trans sameThen)
      contents := independent.contents.mirrored firstThenSecond secondThenFirst
      firstLeaves := independent.firstLeaves.mirrored mirrors afterFirst
      secondLeaves := independent.secondLeaves.mirrored mirrors afterSecond }

/-- The same in every state that operations without faults reach over a new directory, as
long as there is room for what is stored. -/
theorem operations_on_different_files_commute_in_directory (files : DirectoryStore)
    (fresh : files.IsFresh) (schedule : List ScheduledOperation)
    (first second : ScheduledOperation)
    (faultless : ∀ scheduled ∈ first :: second :: schedule, scheduled.faults = noFaults)
    (room : ∀ scheduled ∈ first :: second :: schedule,
      scheduled.HasRoom files.root files.process)
    (notListing : ∀ request, first.operation ≠ .list request ∧ second.operation ≠ .list request)
    (different : first.operation.subjects.Disjoint second.operation.subjects)
    (distinct : (runOperations schedule (Vault.emptyDirectoryVault files)).TellsTags
      first.operation second.operation) :
    (runOperations schedule (Vault.emptyDirectoryVault files)).Independent first second := by
  simp only [List.forall_mem_cons] at faultless room
  obtain ⟨faultlessFirst, faultlessSecond, faultlessBefore⟩ := faultless
  obtain ⟨roomFirst, roomSecond, roomBefore⟩ := room
  have unrivalled : ∀ scheduled ∈ schedule, scheduled.Unrivalled := by
    intro scheduled member index owner path
    rw [faultlessBefore scheduled member]
    nofun
  have mirrors := ((Vault.mirroredBy_emptyDirectoryVault fresh).runOperations faultlessBefore
    roomBefore).2
  rw [World.TellsTags, ← mirrors.tables.1] at distinct
  obtain ⟨reached, kept, orderly, labelled⟩ := orderly_of_reached schedule .empty unrivalled
  have independent := World.independent_of_orderly kept orderly labelled
    ⟨faultlessFirst, faultlessSecond⟩ notListing different distinct
  exact independent.mirrored mirrors ⟨faultlessFirst, faultlessSecond⟩ ⟨roomFirst, roomSecond⟩

end Directory

end ContentVault
