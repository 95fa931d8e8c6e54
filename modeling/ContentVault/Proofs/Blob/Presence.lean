import ContentVault.Blob.Store
import ContentVault.Proofs.Blob.Directory
import ContentVault.Proofs.Blob.Memory

/-!
# What stores say about absent blobs

What a store in memory or in a directory answers about a key, after any writes and deletes.

* where a blob is stored, every operation finds it;
* a store in memory reports every absent blob as not found;
* a store in a directory does so unless the tree is in the way: a directory at the key is
  not found by a description but opened by a read, and a delete says that it is a directory;
  below a blob, and where a path or a name is too long, every operation gives the error of
  the operating system.
-/

namespace ContentVault

/-- A write or a delete that a store is asked for. -/
inductive BlobChange where
  | write (path : List UInt8) (content : ByteArray) (contentType : Option String)
      (now : Timestamp)
  | delete (path : List UInt8)

/-- The store after a change, whether or not it succeeded. -/
def BlobChange.perform (store : BlobStore) : BlobChange → BlobStore
  | .write path content contentType now => (store.write path content contentType now).2
  | .delete path => (store.delete path).2

namespace BlobStore

/-- The store after some changes. -/
def afterChanges (store : BlobStore) (changes : List BlobChange) : BlobStore :=
  changes.foldl BlobChange.perform store

/-- The blob under a key. -/
def contentAt? : BlobStore → List PathName → Option ByteArray
  | .memory store, names => (store.blobs.get? names).map StoredBlob.content
  | .directory store, names => store.contentAt? names
  | .bucket store, names =>
      match BucketStore.fullKey store.keyPrefix (keyPath names) with
      | .ok key => (store.service.objects.get? key).map BucketObject.content
      | .error _ => none

/-- A store in memory that was not told to fail, or one in a directory that is there. -/
inductive IsSound : BlobStore → Prop where
  | memory {store : MemoryStore} (permitted : store.failing = []) : IsSound (.memory store)
  | directory {store : DirectoryStore} (standing : store.IsStanding) :
      IsSound (.directory store)

/-- Every operation on a path finds a blob. -/
structure Finds (store : BlobStore) (path : List UInt8) (content : ByteArray) : Prop where
  stat : ∀ now, ∃ told, (store.stat path now).1 = .ok told ∧ told.size = content.size
  holds : ∀ now, (store.holds path now).1 = .ok true
  reader : ∃ stream, (store.reader path).1 = .ok stream
  delete : (store.delete path).1 = .ok ()

/-- Every operation on a path fails, and whether there is a blob is answered only if the
failure is absence. -/
structure Fails (store : BlobStore) (path : List UInt8) (failure : BlobError) : Prop where
  stat : ∀ now, (store.stat path now).1 = .error failure
  holds : ∀ now, (store.holds path now).1 =
    if failure.isNotFound then .ok false else .error failure
  reader : (store.reader path).1 = .error failure
  delete : (store.delete path).1 = .error failure

/-- A path leads to a directory: no blob is described there, but it is opened, and only
reading and deleting say what it is. -/
structure FindsDirectory (store : BlobStore) (path : List UInt8) : Prop where
  stat : ∀ now, ∃ text, (store.stat path now).1 = .error (.notFound text)
  holds : ∀ now, (store.holds path now).1 = .ok false
  reader : (store.reader path).1 =
    .ok [.error (.inputOutput FileFailure.isADirectory.message)]
  delete : (store.delete path).1 = .error (.inputOutput FileFailure.isADirectory.message)

/-- What is in the way of a key without a blob. -/
inductive Obstructs : BlobStore → List PathName → FileFailure → Prop where
  | isDirectory {store : DirectoryStore} {names : List PathName}
      (stands : store.tree.entryAt? (store.placeOf names) = some .directory) :
      Obstructs (.directory store) names .isADirectory
  | longPath {store : DirectoryStore} {names : List PathName}
      (long : FileTree.longestPath < FileTree.pathLength (store.placeOf names)) :
      Obstructs (.directory store) names .nameTooLong
  | longName {store : DirectoryStore} {names above below : List PathName} {name : PathName}
      (fits : FileTree.pathLength (store.placeOf names) ≤ FileTree.longestPath)
      (passes : names = above ++ name :: below)
      (stands : store.tree.entryAt? (store.placeOf above) = some .directory)
      (long : FileTree.longestName < name.length) :
      Obstructs (.directory store) names .nameTooLong
  | belowBlob {store : DirectoryStore} {names above below : List PathName} {name : PathName}
      {content : ByteArray}
      (fits : FileTree.pathLength (store.placeOf names) ≤ FileTree.longestPath)
      (passes : names = above ++ name :: below)
      (stored : store.contentAt? above = some content) :
      Obstructs (.directory store) names .notADirectory

section Answers

variable {store : BlobStore} {path : List UInt8}

theorem holds_of_stat_ok {now : Timestamp} {told : BlobStat}
    (described : (store.stat path now).1 = .ok told) :
    (store.holds path now).1 = .ok true := by
  rw [holds]
  rcases answered : store.stat path now with ⟨_ | _, after⟩
  · rw [answered] at described
    cases described
  · rfl

theorem holds_of_stat_error {now : Timestamp} {failure : BlobError}
    (refused : (store.stat path now).1 = .error failure) :
    (store.holds path now).1 = if failure.isNotFound then .ok false else .error failure := by
  rw [holds]
  rcases answered : store.stat path now with ⟨_ | _, after⟩
  · rw [answered] at refused
    cases refused
    simp only
    split <;> rfl
  · rw [answered] at refused
    cases refused

end Answers

/-! ## In memory -/

section Memory

variable {store : MemoryStore} {path : List UInt8} {names : List PathName}

theorem permit_of_sound (permitted : store.failing = []) (operation : BlobOperation) :
    store.permit operation = .ok () := by
  rw [MemoryStore.permit, permitted]
  rfl

theorem finds_of_memory {content : ByteArray} (permitted : store.failing = [])
    (keyed : blobKey? path = some names)
    (stored : (memory store).contentAt? names = some content) :
    (memory store).Finds path content := by
  obtain ⟨blob, found, rfl⟩ := Option.map_eq_some_iff.1 stored
  have described : ∀ now, ((memory store).stat path now).1 =
      .ok ⟨keyPath names, blob.content.size, blob.contentType, some blob.storedAt⟩ := by
    intro now
    simp only [stat, MemoryStore.stat, permit_of_sound permitted, requireKey, keyed,
      bind, Except.bind, MemoryStore.require, found]
    rfl
  refine ⟨fun now => ⟨_, described now, rfl⟩, fun now => holds_of_stat_ok (described now),
    ⟨store.streamOf blob.content, ?_⟩, ?_⟩
  · simp only [reader, MemoryStore.reader, permit_of_sound permitted, requireKey, keyed,
      bind, Except.bind, MemoryStore.require, found]
    rfl
  · simp only [delete, MemoryStore.delete, permit_of_sound permitted, requireKey, keyed,
      bind, Except.bind, MemoryStore.require, found]
    rfl

theorem fails_of_memory (permitted : store.failing = []) (keyed : blobKey? path = some names)
    (absent : (memory store).contentAt? names = none) :
    (memory store).Fails path (.notFound (Utf8.decodeBytesLossy (keyPath names))) := by
  have missing : store.blobs.get? names = none := Option.map_eq_none_iff.1 absent
  have refused : ∀ now, ((memory store).stat path now).1 =
      .error (.notFound (Utf8.decodeBytesLossy (keyPath names))) := by
    intro now
    simp only [stat, MemoryStore.stat, permit_of_sound permitted, requireKey, keyed,
      bind, Except.bind, MemoryStore.require, missing]
  refine ⟨refused, fun now => holds_of_stat_error (refused now), ?_, ?_⟩
  · simp only [reader, MemoryStore.reader, permit_of_sound permitted, requireKey, keyed,
      bind, Except.bind, MemoryStore.require, missing]
  · simp only [delete, MemoryStore.delete, permit_of_sound permitted, requireKey, keyed,
      bind, Except.bind, MemoryStore.require, missing]

end Memory

/-! ## In a directory -/

section Directory

variable {store : DirectoryStore} {path : List UInt8} {names : List PathName}

theorem finds_of_directory {content : ByteArray} (standing : store.IsStanding)
    (keyed : blobKey? path = some names) (stored : store.contentAt? names = some content) :
    (directory store).Finds path content := by
  have found : store.tree.find (store.placeOf names) = .ok (.file content) :=
    standing.standing.find_of_entry (DirectoryStore.contentAt?_eq_some.1 stored)
  have described : ∀ now, ((directory store).stat path now).1 =
      .ok ⟨path, content.size, none, none⟩ := by
    intro now
    simp only [stat, DirectoryStore.stat, requireKey, keyed, bind, Except.bind, found]
    rfl
  refine ⟨fun now => ⟨_, described now, rfl⟩, fun now => holds_of_stat_ok (described now),
    ⟨(chunksOf content).map Except.ok, standing.reader_of_stored keyed stored⟩, ?_⟩
  simp only [delete, (standing.delete_eq_ok keyed).2 ⟨content, stored, rfl⟩]

theorem findsDirectory_of_directory (standing : store.IsStanding)
    (keyed : blobKey? path = some names)
    (stands : store.tree.entryAt? (store.placeOf names) = some .directory) :
    (directory store).FindsDirectory path := by
  have found := standing.standing.find_of_entry stands
  have refused : ∀ now, ((directory store).stat path now).1 =
      .error (.notFound (Utf8.decodeBytesLossy path)) := by
    intro now
    simp only [stat, DirectoryStore.stat, requireKey, keyed, bind, Except.bind, found]
    rfl
  refine ⟨fun now => ⟨_, refused now⟩, fun now => holds_of_stat_error (refused now), ?_, ?_⟩
  · simp only [reader, DirectoryStore.reader, requireKey, keyed, bind, Except.bind, found]
    rfl
  · simp only [delete, DirectoryStore.delete, requireKey, keyed, bind, Except.bind,
      FileTree.removeFile, found]
    rfl

/-- All operations fail alike where nothing is found. -/
theorem fails_of_find_error {failure : FileFailure} (keyed : blobKey? path = some names)
    (missing : store.tree.find (store.placeOf names) = .error failure) :
    (directory store).Fails path (.ofFileFailure path failure) := by
  have refused : ∀ now, ((directory store).stat path now).1 =
      .error (.ofFileFailure path failure) := by
    intro now
    simp only [stat, DirectoryStore.stat, requireKey, keyed, bind, Except.bind, missing]
    rfl
  refine ⟨refused, fun now => holds_of_stat_error (refused now), ?_, ?_⟩
  · simp only [reader, DirectoryStore.reader, requireKey, keyed, bind, Except.bind, missing]
    rfl
  · simp only [delete, DirectoryStore.delete, requireKey, keyed, bind, Except.bind,
      FileTree.removeFile, missing]
    rfl

/-! ## What is in the way -/

theorem whole_placeOf (standing : store.IsStanding) (keyed : blobKey? path = some names) :
    ∀ name ∈ store.placeOf names, 0 ∉ name := by
  intro name member
  rcases List.mem_append.1 member with above | below
  · exact (standing.standing.place store.root (by simp [standing.rooted])).whole name above
  · exact (exists_of_blobKey? keyed).2 name below

/-- A name that is not on the way to the root is one of the key. -/
theorem exists_of_passes {above below : List PathName} {name : PathName}
    (passes : store.placeOf names = above ++ name :: below)
    (belowRoot : ¬ above ++ [name] <+: store.root) :
    ∃ inner, above = store.placeOf inner ∧ names = inner ++ name :: below := by
  rcases List.append_eq_append_iff.1 passes with ⟨inner, isAbove, isNames⟩ |
    ⟨outer, isRoot, isBelow⟩
  · exact ⟨inner, isAbove, isNames⟩
  · rcases outer with _ | ⟨first, outer⟩
    · rw [List.append_nil] at isRoot
      exact ⟨[], by rw [← isRoot, DirectoryStore.placeOf, List.append_nil], isBelow.symm⟩
    · obtain ⟨rfl, _⟩ := List.cons.inj isBelow
      exact absurd ⟨outer, by rw [isRoot, List.append_assoc, List.singleton_append]⟩ belowRoot

/-- An obstacle other than a directory gives all operations its own error. -/
theorem Obstructs.fails {failure : FileFailure} (standing : store.IsStanding)
    (keyed : blobKey? path = some names)
    (obstructs : Obstructs (directory store) names failure)
    (notDirectory : failure ≠ .isADirectory) :
    (directory store).Fails path (.inputOutput failure.message) := by
  have whole := whole_placeOf standing keyed
  cases obstructs with
  | isDirectory stands =>
      exact absurd rfl notDirectory
  | longPath long =>
      exact fails_of_find_error keyed (FileTree.find_of_pathTooLong whole long)
  | longName fits passes stands long =>
      exact fails_of_find_error keyed (standing.standing.find_of_blocks whole fits
        (.longName (by rw [passes, DirectoryStore.placeOf, ← List.append_assoc]; rfl) stands long))
  | belowBlob fits passes stored =>
      exact fails_of_find_error keyed (standing.standing.find_of_blocks whole fits
        (.belowFile (by rw [passes, DirectoryStore.placeOf, ← List.append_assoc]; rfl)
          (DirectoryStore.contentAt?_eq_some.1 stored)))

/-- With nothing in the way, an absent blob is not found. -/
theorem fails_of_unobstructed (standing : store.IsStanding)
    (keyed : blobKey? path = some names) (absent : store.contentAt? names = none)
    (free : ∀ failure, ¬ Obstructs (directory store) names failure) :
    (directory store).Fails path (.notFound (Utf8.decodeBytesLossy path)) := by
  have fits : FileTree.pathLength (store.placeOf names) ≤ FileTree.longestPath :=
    Nat.le_of_not_lt fun long => free _ (.longPath long)
  have missing : store.tree.entryAt? (store.placeOf names) = none := by
    rcases stands : store.tree.entryAt? (store.placeOf names) with _ | _ | content
    · rfl
    · exact absurd (.isDirectory stands) (free _)
    · rw [DirectoryStore.contentAt?_eq_some.2 stands] at absent
      cases absent
  obtain ⟨failure, blocked⟩ := FileTree.exists_blocks missing
  have refused := standing.standing.find_of_blocks (whole_placeOf standing keyed) fits blocked
  have rootPlace := standing.standing.place store.root (by simp [standing.rooted])
  cases blocked with
  | @belowFile above below name content passes file =>
      have belowRoot : ¬ above ++ [name] <+: store.root := by
        intro onTheWay
        have directory := standing.standing.directory_of_prefix
          ((List.prefix_append above [name]).trans onTheWay) standing.rooted
        rw [file] at directory
        cases directory
      obtain ⟨inner, rfl, isBelow⟩ := exists_of_passes passes belowRoot
      exact absurd (.belowBlob fits isBelow (DirectoryStore.contentAt?_eq_some.2 file)) (free _)
  | @longName above below name passes directory long =>
      have belowRoot : ¬ above ++ [name] <+: store.root := fun onTheWay =>
        absurd (rootPlace.short name (onTheWay.subset (by simp))) (Nat.not_le.2 long)
      obtain ⟨inner, rfl, isBelow⟩ := exists_of_passes passes belowRoot
      exact absurd (.longName fits isBelow directory long) (free _)
  | missing =>
      exact fails_of_find_error keyed refused

end Directory

/-! ## After any writes and deletes -/

theorem IsSound.perform {store : BlobStore} (sound : store.IsSound) (change : BlobChange) :
    (change.perform store).IsSound := by
  cases sound with
  | @memory store permitted =>
      cases change with
      | write path content contentType now =>
          rw [BlobChange.perform, write]
          split
          · rename_i after written
            rcases keyed : blobKey? path with _ | names
            · simp only [MemoryStore.write, requireKey, keyed, permit_of_sound permitted, bind,
                Except.bind] at written
              cases written
            · obtain ⟨_, rfl⟩ := (MemoryStore.write_eq_ok keyed).1 written
              exact .memory permitted
          · exact .memory permitted
      | delete path =>
          rw [BlobChange.perform, delete]
          split
          · rename_i after deleted
            rcases keyed : blobKey? path with _ | names
            · simp only [MemoryStore.delete, requireKey, keyed, permit_of_sound permitted, bind,
                Except.bind] at deleted
              cases deleted
            · obtain ⟨_, _, rfl⟩ := (MemoryStore.delete_eq_ok keyed).1 deleted
              exact .memory permitted
          · exact .memory permitted
  | @directory store standing =>
      cases change with
      | write path content contentType now =>
          exact .directory (standing.write path content)
      | delete path =>
          rw [BlobChange.perform, delete]
          split
          · exact .directory (standing.delete ‹_›)
          · exact .directory standing

theorem IsSound.afterChanges {store : BlobStore} (sound : store.IsSound)
    (changes : List BlobChange) : (store.afterChanges changes).IsSound := by
  induction changes generalizing store with
  | nil =>
      exact sound
  | cons change rest inductionHypothesis =>
      exact inductionHypothesis (sound.perform change)

/-- After any writes and deletes every stored blob is found by every operation.  An absent
one is not found by any, unless something of the tree is in the way of its key; then a
directory at the key is told from a blob only by reading and deleting, and any other
obstacle makes every operation fail with its own error. -/
theorem presence_is_told_after_changes (start : BlobStore) (sound : start.IsSound)
    (changes : List BlobChange) (path : List UInt8) (names : List PathName)
    (keyed : blobKey? path = some names) :
    (∀ content, (start.afterChanges changes).contentAt? names = some content →
      (start.afterChanges changes).Finds path content) ∧
    ((start.afterChanges changes).contentAt? names = none →
      ((∀ failure, ¬ (start.afterChanges changes).Obstructs names failure) →
        ∃ text, (start.afterChanges changes).Fails path (.notFound text)) ∧
      ((start.afterChanges changes).Obstructs names .isADirectory →
        (start.afterChanges changes).FindsDirectory path) ∧
      ∀ failure, failure ≠ .isADirectory →
        (start.afterChanges changes).Obstructs names failure →
        (start.afterChanges changes).Fails path (.inputOutput failure.message)) := by
  have reached := sound.afterChanges changes
  generalize start.afterChanges changes = store at reached ⊢
  cases reached with
  | memory permitted =>
      refine ⟨fun content => finds_of_memory permitted keyed, fun absent => ⟨fun _ => ?_, ?_, ?_⟩⟩
      · exact ⟨_, fails_of_memory permitted keyed absent⟩
      · nofun
      · nofun
  | directory standing =>
      refine ⟨fun content => finds_of_directory standing keyed,
        fun absent => ⟨fun free => ?_, fun obstructs => ?_,
          fun failure notDirectory obstructs => ?_⟩⟩
      · exact ⟨_, fails_of_unobstructed standing keyed absent free⟩
      · cases obstructs with
        | isDirectory stands =>
            exact findsDirectory_of_directory standing keyed stands
      · exact obstructs.fails standing keyed notDirectory

/-- A fresh store in a directory. -/
def freshDirectory : DirectoryStore :=
  ⟨.empty, [], 1, 0⟩

/-- A blob named `a` and one named `d/e`. -/
def nestedWrites : List BlobChange :=
  [.write (Utf8.encode "a") (ByteArray.mk #[0x68, 0x69]) none .epoch,
    .write (Utf8.encode "d/e") (ByteArray.mk #[0x78]) none .epoch]

/-- The store after these writes. -/
def nestedStore : DirectoryStore :=
  ((freshDirectory.write (Utf8.encode "a") (ByteArray.mk #[0x68, 0x69])).2.write
    (Utf8.encode "d/e") (ByteArray.mk #[0x78])).2

theorem afterChanges_nestedWrites :
    (directory freshDirectory).afterChanges nestedWrites = directory nestedStore :=
  rfl

theorem presence_is_told_after_nestedWrites :
    ((directory freshDirectory).afterChanges nestedWrites).Finds (Utf8.encode "a")
        (ByteArray.mk #[0x68, 0x69]) ∧
      (∃ text, ((directory freshDirectory).afterChanges nestedWrites).Fails
        (Utf8.encode "b") (.notFound text)) ∧
      ((directory freshDirectory).afterChanges nestedWrites).FindsDirectory
        (Utf8.encode "d") ∧
      ((directory freshDirectory).afterChanges nestedWrites).Fails (Utf8.encode "a/b")
        (.inputOutput FileFailure.notADirectory.message) := by
  have sound : (directory freshDirectory).IsSound :=
    .directory ⟨FileTree.isStanding_empty, rfl⟩
  have told := presence_is_told_after_changes (directory freshDirectory) sound nestedWrites
  refine ⟨(told _ [Utf8.encode "a"] (by decide +kernel)).1 _ (by decide +kernel),
    ((told _ [Utf8.encode "b"] (by decide +kernel)).2 (by decide +kernel)).1 ?_,
    ((told _ [Utf8.encode "d"] (by decide +kernel)).2 (by decide +kernel)).2.1 ?_,
    ((told _ [Utf8.encode "a", Utf8.encode "b"] (by decide +kernel)).2
      (by decide +kernel)).2.2 .notADirectory nofun ?_⟩
  · rw [afterChanges_nestedWrites]
    intro failure obstructs
    have single : ∀ {above below : List PathName} {name : PathName},
        [Utf8.encode "b"] = above ++ name :: below → above = [] ∧ name = Utf8.encode "b" := by
      rintro (_ | ⟨first, above⟩) below name passes
      · exact ⟨rfl, (List.cons.inj passes).1.symm⟩
      · simp at passes
    cases obstructs with
    | isDirectory stands =>
        exact absurd stands (by decide +kernel)
    | longPath long =>
        exact absurd long (by decide +kernel)
    | longName fits passes stands long =>
        rw [(single passes).2] at long
        exact absurd long (by decide +kernel)
    | belowBlob fits passes stored =>
        have notAtRoot : nestedStore.contentAt? [] = none := by decide +kernel
        rw [(single passes).1, notAtRoot] at stored
        cases stored
  · rw [afterChanges_nestedWrites]
    exact .isDirectory (by decide +kernel)
  · rw [afterChanges_nestedWrites]
    have stored : nestedStore.contentAt? [Utf8.encode "a"] =
        some (ByteArray.mk #[0x68, 0x69]) := by decide +kernel
    exact .belowBlob (by decide +kernel) rfl stored

/-- Below a blob and at a directory nothing is stored, and yet whether there is a blob is not
answered, or a read and a delete say something other than absence. -/
theorem absence_is_not_told_after_nestedWrites :
    (blobKey? (Utf8.encode "a/b") = some [Utf8.encode "a", Utf8.encode "b"] ∧
      ((directory freshDirectory).afterChanges nestedWrites).contentAt?
        [Utf8.encode "a", Utf8.encode "b"] = none ∧
      (((directory freshDirectory).afterChanges nestedWrites).holds
        (Utf8.encode "a/b") .epoch).1 =
          .error (.inputOutput "Not a directory (os error 20)")) ∧
    (blobKey? (Utf8.encode "d") = some [Utf8.encode "d"] ∧
      ((directory freshDirectory).afterChanges nestedWrites).contentAt?
        [Utf8.encode "d"] = none ∧
      (((directory freshDirectory).afterChanges nestedWrites).reader
        (Utf8.encode "d")).1 =
          .ok [.error (.inputOutput "Is a directory (os error 21)")] ∧
      (((directory freshDirectory).afterChanges nestedWrites).delete
        (Utf8.encode "d")).1 =
          .error (.inputOutput "Is a directory (os error 21)")) := by
  refine ⟨⟨?_, ?_, ?_⟩, ?_, ?_, ?_, ?_⟩ <;> decide +kernel

end BlobStore

end ContentVault
