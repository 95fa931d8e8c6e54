import ContentVault.Proofs.Blob.Presence

/-!
# A directory that mirrors a store in memory

A store in a directory and one in memory that hold the same blobs, all of them under
storage paths.

* the two answer alike about every storage path for which the directory has room;
* writing to such a path succeeds in both, and deleting from it succeeds in both or in
  neither; afterwards they still hold the same blobs;
* below the root directory there is no other file than these blobs.
-/

namespace ContentVault

namespace DirectoryStore

/-- The names of a blob are not too long for the operating system, and neither are the path
of the blob and the path where it is staged, however many writes were staged before. -/
structure HasRoomFor (root : List PathName) (process : UInt32) (owner : String)
    (storedAt : Timestamp) (fileId : String) : Prop where
  shortOwner : (Utf8.encode owner).length ≤ FileTree.longestName
  fits : FileTree.pathLength (root ++ storageKey owner storedAt fileId) ≤ FileTree.longestPath
  fitsStaged : ∀ count, FileTree.pathLength (root ++ [Utf8.encode owner,
    Utf8.encode storedAt.yearMonth.text,
    stagingName process count (Utf8.encode fileId)]) ≤ FileTree.longestPath

section StagingName

variable {fileId : String} (address : IsContentAddress fileId) (process : UInt32)
  (count : UInt64)

include address

theorem isPlain_staging :
    Utf8.IsPlain ("." ++ fileId ++ "." ++ toString process.toNat ++ "." ++
      toString count.toNat ++ ".part") := by
  have dot : Utf8.IsPlain "." := by simp [Utf8.IsPlain]
  have part : Utf8.IsPlain ".part" := by simp [Utf8.IsPlain]
  exact (((((dot.append (isPlain_fileId address)).append dot).append
    (Utf8.isPlain_repr _)).append dot).append (Utf8.isPlain_repr _)).append part

theorem stagingName_fileId :
    stagingName process count (Utf8.encode fileId) =
      Utf8.encode ("." ++ fileId ++ "." ++ toString process.toNat ++ "." ++
        toString count.toNat ++ ".part") := by
  rw [stagingName, Utf8.decodeBytesLossy_encode (isPlain_fileId address)]

theorem length_stagingName :
    64 < (stagingName process count (Utf8.encode fileId)).length ∧
      (stagingName process count (Utf8.encode fileId)).length ≤ FileTree.longestName := by
  have processDigits : (toString process.toNat).length ≤ 10 :=
    Nat.repr_length _ _ (by decide) (process.toNat_lt.trans (by decide))
  have countDigits : (toString count.toNat).length ≤ 20 :=
    Nat.repr_length _ _ (by decide) (count.toNat_lt.trans (by decide))
  have addressDigits := address.length_eq
  rw [stagingName_fileId address, Utf8.length_encode (isPlain_staging address process count)]
  simp only [String.length_toList, String.length_append] at addressDigits ⊢
  have dot : ".".length = 1 := rfl
  have part : ".part".length = 5 := rfl
  rw [dot, part, FileTree.longestName]
  omega

theorem stagingName_short :
    (stagingName process count (Utf8.encode fileId)).length ≤ FileTree.longestName :=
  (length_stagingName address process count).2

/-- Below a root directory whose path is not very long there is room for every owner with a
name that is not too long. -/
theorem hasRoomFor_of_shortRoot {root : List PathName} {owner : String} {storedAt : Timestamp}
    (shortOwner : (Utf8.encode owner).length ≤ FileTree.longestName)
    (shortRoot : FileTree.pathLength root ≤ 3572) :
    HasRoomFor root process owner storedAt fileId := by
  have shortMonth := length_encode_yearMonth_le storedAt
  have fitsBelow : ∀ name : PathName, name.length ≤ FileTree.longestName →
      FileTree.pathLength (root ++ [Utf8.encode owner, Utf8.encode storedAt.yearMonth.text,
        name]) ≤ FileTree.longestPath := by
    intro name short
    rw [FileTree.pathLength_append]
    simp only [FileTree.pathLength, List.foldr_cons, List.foldr_nil] at shortRoot ⊢
    simp only [FileTree.longestName, FileTree.longestPath] at shortOwner short ⊢
    omega
  refine ⟨shortOwner, fitsBelow _ ?_, fun count => fitsBelow _ ?_⟩
  · rw [length_encode_fileId address]
    decide
  · exact stagingName_short address process count

end StagingName

section Room

variable {store : DirectoryStore} {owner fileId : String} {storedAt : Timestamp}

/-- Names beside the blob of an owner can stand in a tree if they and their path are not too
long. -/
theorem isPlace_beside (standing : store.IsStanding) (safe : isSafeOwner owner = true)
    (shortOwner : (Utf8.encode owner).length ≤ FileTree.longestName) {name : PathName}
    (whole : 0 ∉ name) (short : name.length ≤ FileTree.longestName)
    (fits : FileTree.pathLength (store.placeOf
      [Utf8.encode owner, Utf8.encode storedAt.yearMonth.text, name]) ≤ FileTree.longestPath) :
    FileTree.IsPlace (store.placeOf
      [Utf8.encode owner, Utf8.encode storedAt.yearMonth.text, name]) := by
  have rootPlace := standing.standing.place store.root (by simp [standing.rooted])
  have shortMonth : (Utf8.encode storedAt.yearMonth.text).length ≤ FileTree.longestName :=
    (length_encode_yearMonth_le storedAt).trans (by decide)
  have wholeNames : ∀ other ∈ [Utf8.encode owner, Utf8.encode storedAt.yearMonth.text, name],
      0 ∉ other := by
    simp only [List.forall_mem_cons]
    exact ⟨(isPathName_owner safe).noNul, (isPathName_yearMonth _).noNul, whole, nofun⟩
  have shortNames : ∀ other ∈ [Utf8.encode owner, Utf8.encode storedAt.yearMonth.text, name],
      other.length ≤ FileTree.longestName := by
    simp only [List.forall_mem_cons]
    exact ⟨shortOwner, shortMonth, short, nofun⟩
  refine ⟨fun other member => ?_, fun other member => ?_, fits⟩
  · exact (List.mem_append.1 member).elim (rootPlace.whole other) (wholeNames other)
  · exact (List.mem_append.1 member).elim (rootPlace.short other) (shortNames other)

/-- Where there is room, the operating system takes the path of the blob. -/
theorem HasRoomFor.isPlace (room : HasRoomFor store.root store.process owner storedAt fileId)
    (standing : store.IsStanding) (safe : isSafeOwner owner = true)
    (address : IsContentAddress fileId) :
    FileTree.IsPlace (store.placeOf (storageKey owner storedAt fileId)) :=
  isPlace_beside standing safe room.shortOwner (isPathName_fileId address).noNul
    (by rw [length_encode_fileId address]; decide) room.fits

/-- Where there is room, the operating system takes the path where the blob is staged. -/
theorem HasRoomFor.isPlace_staged
    (room : HasRoomFor store.root store.process owner storedAt fileId)
    (standing : store.IsStanding) (safe : isSafeOwner owner = true)
    (address : IsContentAddress fileId) :
    FileTree.IsPlace (store.stagedPlace
      [Utf8.encode owner, Utf8.encode storedAt.yearMonth.text] (Utf8.encode fileId)) := by
  have whole : 0 ∉ stagingName store.process store.stagedWrites (Utf8.encode fileId) := by
    rw [stagingName_fileId address]
    exact Utf8.zero_not_mem_encode (isPlain_staging address _ _)
  have place := isPlace_beside standing safe room.shortOwner whole
    (stagingName_short address _ _) (room.fitsStaged store.stagedWrites)
  rwa [stagedPlace, ← placeOf_concat]

end Room

/-- What is on the way to a key lies on the way to the root or below it. -/
theorem passed_cases {store : DirectoryStore} {passed names : List PathName}
    (onTheWay : passed <+: store.placeOf names) :
    passed <+: store.root ∨ ∃ inner, passed = store.placeOf inner ∧ inner <+: names := by
  rcases List.prefix_or_prefix_of_prefix onTheWay (List.prefix_append store.root names) with
    above | ⟨inner, rfl⟩
  · exact .inl above
  · exact .inr ⟨inner, rfl, placeOf_prefix.1 onTheWay⟩

end DirectoryStore

/-- A path under which a vault stores the blob of a file, and for which there is room below
a root directory. -/
def IsStoragePath (root : List PathName) (process : UInt32) (fileId path : String) : Prop :=
  ∃ owner storedAt, isSafeOwner owner = true ∧ IsContentAddress fileId ∧
    DirectoryStore.HasRoomFor root process owner storedAt fileId ∧
    path = storagePath owner storedAt fileId

/-- A store in memory that behaves well, and a directory that holds the same blobs and no
other file.  All blobs are in the directories of the months in the directories of the
owners. -/
structure MemoryStore.MirroredBy (memory : MemoryStore) (files : DirectoryStore) : Prop where
  permitted : memory.failing = []
  prompt : memory.latency = 0
  whole : memory.interruptAfter = none
  standing : files.IsStanding
  same : ∀ names, files.contentAt? names = (memory.blobs.get? names).map StoredBlob.content
  keyed : ∀ names, memory.blobs.get? names ≠ none →
    ∃ owner storedAt fileId, IsContentAddress fileId ∧ names = storageKey owner storedAt fileId
  shallow : ∀ names, files.tree.entryAt? (files.placeOf names) = some .directory →
    names.length ≤ 2

/-- A root directory with nothing in it. -/
structure DirectoryStore.IsFresh (files : DirectoryStore) : Prop where
  standing : files.IsStanding
  bare : ∀ names, names ≠ [] → files.tree.entryAt? (files.placeOf names) = none

namespace MemoryStore.MirroredBy

theorem empty {files : DirectoryStore} (fresh : files.IsFresh) :
    MemoryStore.empty.MirroredBy files where
  permitted := rfl
  prompt := rfl
  whole := rfl
  standing := fresh.standing
  same := by
    intro names
    refine DirectoryStore.contentAt?_of_no_file fun content stands => ?_
    rcases names with _ | ⟨name, rest⟩
    · rw [DirectoryStore.placeOf, List.append_nil, fresh.standing.rooted] at stands
      cases stands
    · rw [fresh.bare _ (List.cons_ne_nil name rest)] at stands
      cases stands
  keyed := fun names present => absurd rfl present
  shallow := by
    intro names stands
    rcases names with _ | ⟨name, rest⟩
    · exact Nat.zero_le 2
    · rw [fresh.bare _ (List.cons_ne_nil name rest)] at stands
      cases stands

variable {memory : MemoryStore} {files : DirectoryStore}
  (mirrored : memory.MirroredBy files)

include mirrored

theorem names_of_file {names : List PathName} {content : ByteArray}
    (stands : files.tree.entryAt? (files.placeOf names) = some (.file content)) :
    ∃ owner storedAt fileId, IsContentAddress fileId ∧
      names = storageKey owner storedAt fileId := by
  refine mirrored.keyed names fun absent => ?_
  have missing := mirrored.same names
  rw [DirectoryStore.contentAt?_eq_some.2 stands, absent] at missing
  cases missing

theorem length_of_file {names : List PathName} {content : ByteArray}
    (stands : files.tree.entryAt? (files.placeOf names) = some (.file content)) :
    names.length = 3 := by
  obtain ⟨_, _, _, _, rfl⟩ := mirrored.names_of_file stands
  rfl

/-- Beside the blobs there is no file whose name is no content address. -/
theorem absent_beside {above : List PathName} {name : PathName} (deep : above.length = 2)
    (differs : name.length ≠ 64) :
    files.tree.entryAt? (files.placeOf above ++ [name]) = none := by
  rw [← DirectoryStore.placeOf_concat]
  rcases stands : files.tree.entryAt? (files.placeOf (above ++ [name])) with _ | _ | content
  · rfl
  · have shallow := mirrored.shallow _ stands
    simp [deep] at shallow
  · obtain ⟨owner, storedAt, fileId, address, isKey⟩ := mirrored.names_of_file stands
    have isName : name = Utf8.encode fileId := by
      have last := congrArg List.getLast? isKey
      rw [List.getLast?_concat] at last
      exact Option.some.inj last
    exact absurd (isName ▸ length_encode_fileId address) differs

section StoragePath

variable {owner fileId : String} {storedAt : Timestamp} (safe : isSafeOwner owner = true)
  (address : IsContentAddress fileId)
  (room : DirectoryStore.HasRoomFor files.root files.process owner storedAt fileId)

/-- Nothing is in the way of a storage path. -/
theorem unobstructed (place : FileTree.IsPlace (files.placeOf (storageKey owner storedAt fileId)))
    (failure : FileFailure) :
    ¬ (BlobStore.directory files).Obstructs (storageKey owner storedAt fileId) failure := by
  intro obstructs
  cases obstructs with
  | isDirectory stands =>
      exact absurd (mirrored.shallow _ stands) (by simp [storageKey])
  | longPath long =>
      exact absurd place.fits (Nat.not_le.2 long)
  | @longName _ names above below name fits passes stands long =>
      refine absurd (place.short name ?_) (Nat.not_le.2 long)
      rw [passes, DirectoryStore.placeOf]
      simp
  | @belowBlob _ names above below name content fits passes stored =>
      have deep := mirrored.length_of_file (DirectoryStore.contentAt?_eq_some.1 stored)
      have short := congrArg List.length passes
      simp [storageKey, deep] at short

include safe address room

/-- A blob under a storage path is found in both stores or in neither. -/
theorem finds_or_fails :
    (∃ blob, memory.blobs.get? (storageKey owner storedAt fileId) = some blob ∧
      (BlobStore.memory memory).Finds (Utf8.encode (storagePath owner storedAt fileId))
        blob.content ∧
      (BlobStore.directory files).Finds (Utf8.encode (storagePath owner storedAt fileId))
        blob.content) ∨
    (memory.blobs.get? (storageKey owner storedAt fileId) = none ∧ ∃ failure,
      (BlobStore.memory memory).Fails (Utf8.encode (storagePath owner storedAt fileId))
        failure ∧
      (BlobStore.directory files).Fails (Utf8.encode (storagePath owner storedAt fileId))
        failure) := by
  have keyed := blobKey?_storagePath storedAt safe address
  have same := mirrored.same (storageKey owner storedAt fileId)
  have place := room.isPlace mirrored.standing safe address
  rcases found : memory.blobs.get? (storageKey owner storedAt fileId) with _ | blob
  · rw [found] at same
    have absent : (BlobStore.memory memory).contentAt? (storageKey owner storedAt fileId) =
        none := by rw [BlobStore.contentAt?, found]; rfl
    refine .inr ⟨rfl, _, BlobStore.fails_of_memory mirrored.permitted keyed absent, ?_⟩
    rw [← encode_storagePath]
    exact BlobStore.fails_of_unobstructed mirrored.standing keyed same
      (mirrored.unobstructed place)
  · rw [found] at same
    have stored : (BlobStore.memory memory).contentAt? (storageKey owner storedAt fileId) =
        some blob.content := by rw [BlobStore.contentAt?, found]; rfl
    exact .inl ⟨blob, rfl, BlobStore.finds_of_memory mirrored.permitted keyed stored,
      BlobStore.finds_of_directory mirrored.standing keyed same⟩

theorem stat (now : Timestamp) :
    ((BlobStore.memory memory).stat (Utf8.encode (storagePath owner storedAt fileId))
        now).1.map (fun _ => ()) =
      ((BlobStore.directory files).stat (Utf8.encode (storagePath owner storedAt fileId))
        now).1.map fun _ => () := by
  rcases mirrored.finds_or_fails safe address room with
    ⟨blob, _, inMemory, inDirectory⟩ | ⟨_, failure, inMemory, inDirectory⟩
  · obtain ⟨told, isTold, _⟩ := inMemory.stat now
    obtain ⟨other, isOther, _⟩ := inDirectory.stat now
    rw [isTold, isOther]
    rfl
  · rw [inMemory.stat now, inDirectory.stat now]

theorem reader :
    ((BlobStore.memory memory).reader (Utf8.encode (storagePath owner storedAt fileId))).1 =
      ((BlobStore.directory files).reader
        (Utf8.encode (storagePath owner storedAt fileId))).1 := by
  have keyed := blobKey?_storagePath storedAt safe address
  rcases mirrored.finds_or_fails safe address room with
    ⟨blob, found, _, _⟩ | ⟨_, failure, inMemory, inDirectory⟩
  · have inMemory : memory.reader (Utf8.encode (storagePath owner storedAt fileId)) =
        .ok ((chunksOf blob.content).map Except.ok) := by
      refine MemoryStore.reader_of_found (by simp [mirrored.permitted]) mirrored.whole ?_
      rw [MemoryStore.blobAt?, keyed, Option.bind_some, found]
    have same := mirrored.same (storageKey owner storedAt fileId)
    rw [found] at same
    exact inMemory.trans (mirrored.standing.reader_of_stored keyed same).symm
  · rw [inMemory.reader, inDirectory.reader]

end StoragePath

/-! ## Storing and deleting -/

section Changes

variable {owner fileId : String} {storedAt : Timestamp} (safe : isSafeOwner owner = true)
  (address : IsContentAddress fileId)
  (room : DirectoryStore.HasRoomFor files.root files.process owner storedAt fileId)

include address

/-- A blob is put in its place on both sides, with directories above it. -/
theorem written {tree : FileTree} {count : UInt64} {blob : StoredBlob}
    (standing : DirectoryStore.IsStanding { files with tree, stagedWrites := count })
    (entries : ∀ wanted, tree.entryAt? wanted =
      if files.placeOf (storageKey owner storedAt fileId) = wanted then some (.file blob.content)
      else if wanted <+: files.placeOf [Utf8.encode owner, Utf8.encode storedAt.yearMonth.text]
        then some .directory
      else files.tree.entryAt? wanted) :
    (memory.withBlob (storageKey owner storedAt fileId) blob).MirroredBy
      { files with tree, stagedWrites := count } where
  permitted := mirrored.permitted
  prompt := mirrored.prompt
  whole := mirrored.whole
  standing := standing
  same := by
    intro names
    have stands := entries (files.placeOf names)
    rw [MemoryStore.withBlob, Table.get?_put]
    by_cases isKey : storageKey owner storedAt fileId = names
    · rw [if_pos (congrArg files.placeOf isKey)] at stands
      rw [if_pos isKey]
      exact DirectoryStore.contentAt?_eq_some.2 stands
    · rw [if_neg fun same => isKey (DirectoryStore.placeOf_inj.1 same)] at stands
      rw [if_neg isKey]
      split at stands
      · rename_i onTheWay
        have short := (DirectoryStore.placeOf_prefix.1 onTheWay).length_le
        have absent : memory.blobs.get? names = none := by
          by_contra present
          obtain ⟨_, _, _, _, rfl⟩ := mirrored.keyed names present
          exact absurd short (by simp [storageKey])
        rw [absent]
        exact DirectoryStore.contentAt?_of_no_file fun content file =>
          absurd (stands.symm.trans file) (by simp)
      · rw [← mirrored.same names]
        exact DirectoryStore.contentAt?_congr stands
  keyed := by
    intro names present
    rw [MemoryStore.withBlob, Table.get?_put] at present
    split at present
    · rename_i isKey
      exact ⟨owner, storedAt, fileId, address, isKey.symm⟩
    · exact mirrored.keyed names present
  shallow := by
    intro names directory
    have stands : tree.entryAt? (files.placeOf names) = some .directory := directory
    rw [entries] at stands
    split at stands
    · cases stands
    · split at stands
      · rename_i onTheWay
        exact (DirectoryStore.placeOf_prefix.1 onTheWay).length_le
      · exact mirrored.shallow names stands

omit address in
/-- A blob is taken away on both sides. -/
theorem removed {names : List PathName} (notRoot : files.placeOf names ≠ [])
    (standing : DirectoryStore.IsStanding
      { files with tree := files.tree.remove (files.placeOf names) }) :
    (memory.withoutBlob names).MirroredBy
      { files with tree := files.tree.remove (files.placeOf names) } where
  permitted := mirrored.permitted
  prompt := mirrored.prompt
  whole := mirrored.whole
  standing := standing
  same := by
    intro wanted
    have stands :
        FileTree.entryAt? (files.tree.remove (files.placeOf names)) (files.placeOf wanted) =
          if files.placeOf names = files.placeOf wanted then none
          else files.tree.entryAt? (files.placeOf wanted) := FileTree.entryAt?_remove notRoot
    rw [MemoryStore.withoutBlob, Table.get?_erase]
    by_cases isKey : names = wanted
    · rw [if_pos (congrArg files.placeOf isKey)] at stands
      rw [if_pos isKey]
      exact DirectoryStore.contentAt?_of_no_file fun content file =>
        absurd (stands.symm.trans file) (by simp)
    · rw [if_neg fun same => isKey (DirectoryStore.placeOf_inj.1 same)] at stands
      rw [if_neg isKey, ← mirrored.same wanted]
      exact DirectoryStore.contentAt?_congr stands
  keyed := by
    intro wanted present
    rw [MemoryStore.withoutBlob, Table.get?_erase] at present
    split at present
    · exact absurd rfl present
    · exact mirrored.keyed wanted present
  shallow := by
    intro wanted directory
    have stands :
        FileTree.entryAt? (files.tree.remove (files.placeOf names)) (files.placeOf wanted) =
          some .directory := directory
    rw [FileTree.entryAt?_remove notRoot] at stands
    split at stands
    · cases stands
    · exact mirrored.shallow wanted stands

include safe room

/-- The blob is written to both stores, which hold the same blobs again. -/
theorem write (content : ByteArray) (contentType : Option String) (now : Timestamp) :
    ∃ after tree, memory.write (Utf8.encode (storagePath owner storedAt fileId)) content
          contentType now = .ok after ∧
      files.write (Utf8.encode (storagePath owner storedAt fileId)) content =
        (.ok (), { files with tree, stagedWrites := files.stagedWrites + 1 }) ∧
      after.MirroredBy { files with tree, stagedWrites := files.stagedWrites + 1 } := by
  have keyed := blobKey?_storagePath storedAt safe address
  have longer := (DirectoryStore.length_stagingName address files.process files.stagedWrites).1
  have keyEnds : storageKey owner storedAt fileId =
      [Utf8.encode owner, Utf8.encode storedAt.yearMonth.text] ++ [Utf8.encode fileId] := rfl
  have place := room.isPlace mirrored.standing safe address
  rw [keyEnds, DirectoryStore.placeOf_concat] at place
  have clear : ∀ passed,
      passed <+: files.placeOf [Utf8.encode owner, Utf8.encode storedAt.yearMonth.text] →
        ∀ old, files.tree.entryAt? passed ≠ some (.file old) := by
    intro passed onTheWay old stands
    rcases DirectoryStore.passed_cases onTheWay with above | ⟨names, rfl, below⟩
    · rw [mirrored.standing.standing.directory_of_prefix above mirrored.standing.rooted] at stands
      cases stands
    · have short := below.length_le
      rw [mirrored.length_of_file stands] at short
      exact absurd short (by simp)
  have notDirectory : files.tree.entryAt? (files.placeOf [Utf8.encode owner,
      Utf8.encode storedAt.yearMonth.text] ++ [Utf8.encode fileId]) ≠ some .directory := by
    intro directory
    rw [← DirectoryStore.placeOf_concat] at directory
    exact absurd (mirrored.shallow _ directory) (by simp)
  obtain ⟨tree, wrote, _, entries⟩ := mirrored.standing.write_eq_ok content keyed
    place (room.isPlace_staged mirrored.standing safe address) clear notDirectory
    (mirrored.absent_beside rfl longer.ne')
  simp only [← DirectoryStore.placeOf_concat, ← keyEnds] at entries
  refine ⟨_, tree, (MemoryStore.write_eq_ok keyed).2 ⟨by simp [mirrored.permitted], rfl⟩, wrote,
    mirrored.written address ?_ entries⟩
  have standing := mirrored.standing.write (Utf8.encode (storagePath owner storedAt fileId)) content
  rwa [wrote] at standing

/-- The blob is deleted from both stores, which hold the same blobs again, or from
neither. -/
theorem delete :
    (∃ after tree, memory.delete (Utf8.encode (storagePath owner storedAt fileId)) = .ok after ∧
        files.delete (Utf8.encode (storagePath owner storedAt fileId)) =
          .ok { files with tree } ∧
        after.MirroredBy { files with tree }) ∨
      ∃ failure, memory.delete (Utf8.encode (storagePath owner storedAt fileId)) =
          .error failure ∧
        files.delete (Utf8.encode (storagePath owner storedAt fileId)) = .error failure := by
  have keyed := blobKey?_storagePath storedAt safe address
  rcases mirrored.finds_or_fails safe address room with
    ⟨blob, found, _, _⟩ | ⟨_, failure, inMemory, inDirectory⟩
  · have stored := mirrored.same (storageKey owner storedAt fileId)
    rw [found] at stored
    have deleted := (mirrored.standing.delete_eq_ok keyed).2 ⟨blob.content, stored, rfl⟩
    refine .inl ⟨_, _, (MemoryStore.delete_eq_ok keyed).2
      ⟨by simp [mirrored.permitted], by simp [found], rfl⟩, deleted, ?_⟩
    exact mirrored.removed (by simp [DirectoryStore.placeOf, storageKey])
      (mirrored.standing.delete deleted)
  · refine .inr ⟨failure, ?_, ?_⟩
    · have refused := inMemory.delete
      rw [BlobStore.delete] at refused
      split at refused
      · cases refused
      · rename_i isFailure
        rw [isFailure, Except.error.inj refused]
    · have refused := inDirectory.delete
      rw [BlobStore.delete] at refused
      split at refused
      · cases refused
      · rename_i isFailure
        rw [isFailure, Except.error.inj refused]

end Changes

end MemoryStore.MirroredBy

end ContentVault
