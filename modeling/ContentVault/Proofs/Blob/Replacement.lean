import ContentVault.Proofs.Blob.Chunks
import ContentVault.Proofs.Blob.Directory

/-!
# A write replaces a blob or nothing

A store in a directory that has been filled by writes and deletes alone.

* a write that succeeds puts its bytes under the key, and one that fails leaves every blob with
  the bytes that it had;
* in both cases no staged file is left, and nothing else is new but directories on the way to
  the key;
* a write succeeds if and only if nothing is in its way.

The last name of a key must not have the form of the name of a staged file.
-/

namespace ContentVault

namespace DirectoryStore

variable {store : DirectoryStore} {path : List UInt8} {above : List PathName} {name : PathName}
  {content : ByteArray} {grown : FileTree}

/-- Whether a name has the form of that of a staged file. -/
def IsStagingName (name : PathName) : Prop :=
  ∃ process count base, name = stagingName process count base

/-- A path whose key does not end in a name of that form. -/
def EndsVisibly (path : List UInt8) : Prop :=
  ∀ above name, blobKey? path = some (above ++ [name]) → ¬IsStagingName name

/-- No file below the root has a name of that form. -/
def HasNoStaged (store : DirectoryStore) : Prop :=
  ∀ above name content, IsStagingName name →
    store.tree.entryAt? (store.placeOf above ++ [name]) ≠ some (.file content)

/-- Nothing is in the way of a write. -/
structure IsClear (store : DirectoryStore) (above : List PathName) (name : PathName) : Prop where
  place : FileTree.IsPlace (store.placeOf above ++ [name])
  notDirectory : store.tree.entryAt? (store.placeOf above ++ [name]) ≠ some .directory
  stagedPlace : FileTree.IsPlace (store.stagedPlace above name)
  stagedNotDirectory : store.tree.entryAt? (store.stagedPlace above name) ≠ some .directory
  noFileAbove : ∀ passed, passed <+: store.placeOf above → ∀ old,
    store.tree.entryAt? passed ≠ some (.file old)

/-- A store that writes and deletes have filled, by whichever processes. -/
inductive Produced : DirectoryStore → Prop
  | fresh {store : DirectoryStore} (standing : store.IsStanding)
      (nothing : ∀ above name, store.tree.entryAt? (store.placeOf above ++ [name]) = none) :
      Produced store
  | reopened {store : DirectoryStore} (produced : Produced store) (process : UInt32)
      (stagedWrites : UInt64) : Produced { store with process, stagedWrites }
  | written {store : DirectoryStore} (produced : Produced store) {path : List UInt8}
      (visible : EndsVisibly path) (content : ByteArray) :
      Produced (store.write path content).2
  | deleted {store after : DirectoryStore} (produced : Produced store) {path : List UInt8}
      (done : store.delete path = .ok after) : Produced after

theorem isStagingName_stagingName (process : UInt32) (count : UInt64) (base : PathName) :
    IsStagingName (stagingName process count base) :=
  ⟨process, count, base, rfl⟩

/-- The names of staged files begin with a dot. -/
theorem IsStagingName.head?_eq (staging : IsStagingName name) : name.head? = some 0x2E := by
  obtain ⟨process, count, base, rfl⟩ := staging
  have dot : Utf8.encode "." = [0x2E] := by decide +kernel
  unfold stagingName
  simp only [Utf8.encode_append, dot]
  rfl

theorem entryAt?_unstaged_of_none {tree : FileTree} {hidden : PathName} {target : List PathName}
    (unused : tree.entryAt? (target ++ [hidden]) = none) (wanted : List PathName) :
    FileTree.entryAt? (unstaged tree (target ++ [hidden]) content) wanted =
      tree.entryAt? wanted := by
  rw [entryAt?_unstaged]
  split
  · rename_i same
    rw [← same, unused]
  · rfl

/-- The place of a staged file is free but for a directory. -/
theorem HasNoStaged.staged_eq_none (noStaged : store.HasNoStaged)
    (notDirectory : store.tree.entryAt? (store.stagedPlace above name) ≠ some .directory) :
    store.tree.entryAt? (store.stagedPlace above name) = none := by
  refine Option.eq_none_iff_forall_ne_some.2 fun entry stands => ?_
  cases entry with
  | directory => exact notDirectory stands
  | file old => exact noStaged above _ old (isStagingName_stagingName _ _ _) stands

/-- What a write leaves where no staged file was: the blob in its place, or nothing new but
directories on the way. -/
theorem write_of_noStaged (standing : store.IsStanding) (noStaged : store.HasNoStaged)
    (keyed : blobKey? path = some (above ++ [name])) (content : ByteArray) :
    ∃ grown tree count, store.tree.GrowsTowards (store.placeOf above) grown ∧
      tree.IsStanding ∧
      ((∃ failure, store.write path content =
          (.error failure, { store with tree, stagedWrites := count }) ∧
        ∀ wanted, tree.entryAt? wanted = grown.entryAt? wanted) ∨
      (store.write path content = (.ok (), { store with tree, stagedWrites := count }) ∧
        IsReplaceable grown (store.placeOf above)
          (stagingName store.process store.stagedWrites name) name ∧
        ∀ wanted, tree.entryAt? wanted =
          if store.placeOf above ++ [name] = wanted then some (.file content)
          else grown.entryAt? wanted)) := by
  obtain ⟨grown, tree, count, grows, stands, outcome⟩ := standing.write_cases keyed content
  have same := grows.entryAt?_concat (stagingName store.process store.stagedWrites name)
  have unused : grown.entryAt? (store.stagedPlace above name) ≠ some .directory →
      grown.entryAt? (store.stagedPlace above name) = none := by
    intro notDirectory
    rw [stagedPlace, same] at notDirectory ⊢
    exact noStaged.staged_eq_none notDirectory
  refine ⟨grown, tree, count, grows, stands, ?_⟩
  rcases outcome with ⟨failure, written, rfl | ⟨notDirectory, rfl⟩⟩ | ⟨written, replaceable, rfl⟩
  · exact Or.inl ⟨failure, written, fun _ => rfl⟩
  · exact Or.inl ⟨failure, written, entryAt?_unstaged_of_none (unused notDirectory)⟩
  · refine Or.inr ⟨written, replaceable, fun wanted => ?_⟩
    rw [FileTree.entryAt?_put (List.concat_ne_nil name _), stagedPlace,
      entryAt?_unstaged_of_none (unused replaceable.stagedNotDirectory)]

/-- What can be replaced after the way to it was made was not in the way before. -/
theorem isClear_of_isReplaceable (grows : store.tree.GrowsTowards (store.placeOf above) grown)
    (replaceable : IsReplaceable grown (store.placeOf above)
      (stagingName store.process store.stagedWrites name) name) : store.IsClear above name where
  place := replaceable.place
  notDirectory := by
    rw [← grows.entryAt?_concat name]
    exact replaceable.notDirectory
  stagedPlace := replaceable.stagedPlace
  stagedNotDirectory := by
    rw [stagedPlace, ← grows.entryAt?_concat]
    exact replaceable.stagedNotDirectory
  noFileAbove := by
    intro passed onTheWay old isFile
    have directory := grows.standing.directory_of_prefix onTheWay replaceable.directory
    rcases grows.grown passed with same | ⟨absent, _, _⟩
    · rw [← same, directory] at isFile
      cases isFile
    · rw [absent] at isFile
      cases isFile

theorem write_eq_ok_of_isClear (standing : store.IsStanding) (noStaged : store.HasNoStaged)
    (keyed : blobKey? path = some (above ++ [name])) (clear : store.IsClear above name)
    (content : ByteArray) : (store.write path content).1 = .ok () := by
  obtain ⟨tree, written, _, _⟩ := standing.write_eq_ok content keyed clear.place clear.stagedPlace
    clear.noFileAbove clear.notDirectory (noStaged.staged_eq_none clear.stagedNotDirectory)
  rw [written]

/-- How a write of some bytes to a path ends. -/
structure Replaces (store : DirectoryStore) (path : List UInt8) (content : ByteArray)
    (answer : Except BlobError Unit) (after : DirectoryStore) : Prop where
  written : answer = .ok () → ∀ names, blobKey? path = some names →
    after.contentAt? names = some content ∧
      ∀ other, other ≠ names → after.contentAt? other = store.contentAt? other
  read : answer = .ok () → ∀ spelling, blobKey? spelling = blobKey? path →
    ((BlobStore.directory after).read spelling).1 = .ok content
  failed : ∀ failure, answer = .error failure →
    ∀ names, after.contentAt? names = store.contentAt? names
  noStaged : after.HasNoStaged
  elsewhere : ∀ place, after.tree.entryAt? place = store.tree.entryAt? place ∨
    (answer = .ok () ∧ ∃ names, blobKey? path = some names ∧ place = store.placeOf names) ∨
    (store.tree.entryAt? place = none ∧ after.tree.entryAt? place = some .directory ∧
      ∃ above name, blobKey? path = some (above ++ [name]) ∧ place <+: store.placeOf above)
  succeeds_iff : answer = .ok () ↔
    ∃ above name, blobKey? path = some (above ++ [name]) ∧ store.IsClear above name

/-- Directories that are new on the way to a key hold no blobs. -/
theorem contentAt?_of_growsTowards {tree : FileTree} {count : UInt64} {target : List PathName}
    (grows : store.tree.GrowsTowards target grown) {names : List PathName}
    (same : tree.entryAt? (store.placeOf names) = grown.entryAt? (store.placeOf names)) :
    DirectoryStore.contentAt? { store with tree, stagedWrites := count } names =
      store.contentAt? names := by
  rcases grows.grown (store.placeOf names) with kept | ⟨absent, directory, _⟩
  · exact contentAt?_congr (same.trans kept)
  · rw [contentAt?_of_no_file, contentAt?_of_no_file]
    · intro old isFile
      rw [absent] at isFile
      cases isFile
    · intro old isFile
      change tree.entryAt? (store.placeOf names) = _ at isFile
      rw [same, directory] at isFile
      cases isFile

theorem HasNoStaged.of_growsTowards {tree : FileTree} {count : UInt64} {target : List PathName}
    (noStaged : store.HasNoStaged) (grows : store.tree.GrowsTowards target grown)
    (same : ∀ above name, IsStagingName name →
      tree.entryAt? (store.placeOf above ++ [name]) =
        grown.entryAt? (store.placeOf above ++ [name])) :
    HasNoStaged { store with tree, stagedWrites := count } := by
  intro above name content staging isFile
  change tree.entryAt? (store.placeOf above ++ [name]) = _ at isFile
  rw [same above name staging] at isFile
  rcases grows.grown (store.placeOf above ++ [name]) with kept | ⟨_, directory, _⟩
  · rw [kept] at isFile
    exact noStaged above name content staging isFile
  · rw [directory] at isFile
    cases isFile

theorem read_of_contentAt? (standing : store.IsStanding) {names : List PathName}
    (keyed : blobKey? path = some names) (stored : store.contentAt? names = some content) :
    ((BlobStore.directory store).read path).1 = .ok content := by
  change (store.reader path).bind (joinStream ByteArray.empty) = _
  rw [standing.reader_of_stored keyed stored]
  exact joinStream_chunksOf content

/-- On the way to a key everything is kept but for new directories. -/
theorem kept_or_new {tree : FileTree} {place : List PathName}
    (keyed : blobKey? path = some (above ++ [name]))
    (grows : store.tree.GrowsTowards (store.placeOf above) grown)
    (same : tree.entryAt? place = grown.entryAt? place) :
    tree.entryAt? place = store.tree.entryAt? place ∨
      store.tree.entryAt? place = none ∧ tree.entryAt? place = some .directory ∧
        ∃ above name, blobKey? path = some (above ++ [name]) ∧ place <+: store.placeOf above := by
  rw [same]
  rcases grows.grown place with kept | ⟨absent, directory, onTheWay⟩
  · exact Or.inl kept
  · exact Or.inr ⟨absent, directory, above, name, keyed, onTheWay⟩

theorem replaces_of_no_key (noStaged : store.HasNoStaged) (noKey : blobKey? path = none)
    (content : ByteArray) :
    Replaces store path content (store.write path content).1 (store.write path content).2 := by
  rw [write_of_no_key noKey]
  exact {
    written := nofun
    read := nofun
    failed := fun _ _ _ => rfl
    noStaged := noStaged
    elsewhere := fun _ => Or.inl rfl
    succeeds_iff := ⟨nofun, by simp [noKey]⟩ }

section Ends

variable {tree : FileTree} {count : UInt64} (standing : store.IsStanding)
  (noStaged : store.HasNoStaged) (keyed : blobKey? path = some (above ++ [name]))
  (grows : store.tree.GrowsTowards (store.placeOf above) grown)

include standing noStaged keyed grows

theorem replaces_of_error {failure : BlobError}
    (written : store.write path content =
      (.error failure, { store with tree, stagedWrites := count }))
    (same : ∀ wanted, tree.entryAt? wanted = grown.entryAt? wanted) :
    Replaces store path content (store.write path content).1 (store.write path content).2 where
  written := by
    rw [written]
    nofun
  read := by
    rw [written]
    nofun
  failed := by
    rw [written]
    exact fun _ _ names => contentAt?_of_growsTowards grows (same _)
  noStaged := by
    rw [written]
    exact noStaged.of_growsTowards grows fun _ _ _ => same _
  elsewhere := by
    rw [written]
    exact fun place => (kept_or_new keyed grows (same place)).imp_right Or.inr
  succeeds_iff := by
    refine ⟨by rw [written]; nofun, fun ⟨above', name', keyed', clear⟩ => ?_⟩
    exact write_eq_ok_of_isClear standing noStaged keyed' clear content

theorem replaces_of_ok (visible : EndsVisibly path)
    (written : store.write path content = (.ok (), { store with tree, stagedWrites := count }))
    (replaceable : IsReplaceable grown (store.placeOf above)
      (stagingName store.process store.stagedWrites name) name)
    (entries : ∀ wanted, tree.entryAt? wanted =
      if store.placeOf above ++ [name] = wanted then some (.file content)
      else grown.entryAt? wanted) :
    Replaces store path content (store.write path content).1 (store.write path content).2 := by
  have stillStanding := standing.write path content
  rw [written] at stillStanding ⊢
  have stored : DirectoryStore.contentAt? { store with tree, stagedWrites := count }
      (above ++ [name]) = some content := by
    rw [contentAt?_eq_some]
    change tree.entryAt? (store.placeOf (above ++ [name])) = _
    rw [entries, if_pos (store.placeOf_concat above name).symm]
  have elsewhere : ∀ place, store.placeOf above ++ [name] ≠ place →
      tree.entryAt? place = grown.entryAt? place := by
    intro place different
    rw [entries, if_neg different]
  constructor
  · intro _ names isKey
    rw [keyed, Option.some_inj] at isKey
    subst isKey
    refine ⟨stored, fun other different => ?_⟩
    refine contentAt?_of_growsTowards grows (elsewhere _ fun same => different ?_)
    rw [← placeOf_concat, placeOf_inj] at same
    exact same.symm
  · intro _ spelling same
    exact read_of_contentAt? stillStanding (same.trans keyed) stored
  · nofun
  · refine noStaged.of_growsTowards grows fun other hidden staging => elsewhere _ fun same => ?_
    have sameName : name = hidden := List.singleton_inj.1 (List.append_inj' same rfl).2
    exact visible above name keyed (sameName ▸ staging)
  · intro place
    by_cases isTarget : store.placeOf above ++ [name] = place
    · refine Or.inr (Or.inl ⟨rfl, above ++ [name], keyed, ?_⟩)
      rw [placeOf_concat, isTarget]
    · exact (kept_or_new keyed grows (elsewhere place isTarget)).imp_right Or.inr
  · exact ⟨fun _ => ⟨above, name, keyed, isClear_of_isReplaceable grows replaceable⟩, fun _ => rfl⟩

end Ends

theorem replaces_of_noStaged (standing : store.IsStanding) (noStaged : store.HasNoStaged)
    (visible : EndsVisibly path) (content : ByteArray) :
    Replaces store path content (store.write path content).1 (store.write path content).2 := by
  rcases keyed : blobKey? path with _ | names
  · exact replaces_of_no_key noStaged keyed content
  obtain ⟨⟨above, name, rfl⟩, _⟩ := exists_of_blobKey? keyed
  obtain ⟨grown, tree, count, grows, stands, outcome⟩ :=
    write_of_noStaged standing noStaged keyed content
  rcases outcome with ⟨failure, written, same⟩ | ⟨written, replaceable, entries⟩
  · exact replaces_of_error standing noStaged keyed grows written same
  · exact replaces_of_ok standing noStaged keyed grows visible written replaceable entries

/-! ## Stores that writes and deletes produce -/

theorem HasNoStaged.delete (standing : store.IsStanding) (noStaged : store.HasNoStaged)
    {after : DirectoryStore} (deleted : store.delete path = .ok after) : after.HasNoStaged := by
  rcases keyed : blobKey? path with _ | names
  · rw [DirectoryStore.delete, requireKey, keyed] at deleted
    cases deleted
  obtain ⟨old, stored, rfl⟩ := (standing.delete_eq_ok keyed).1 deleted
  obtain ⟨⟨above, name, rfl⟩, _⟩ := exists_of_blobKey? keyed
  intro above' name' content staging isFile
  change FileTree.entryAt? (store.tree.remove (store.placeOf (above ++ [name]))) _ = _ at isFile
  rw [placeOf_concat, FileTree.entryAt?_remove (List.concat_ne_nil name _)] at isFile
  split at isFile
  · cases isFile
  · exact noStaged above' name' content staging isFile

/-- In what writes and deletes produce, the tree stands and no staged file is left. -/
theorem Produced.standing_and_noStaged (produced : Produced store) :
    store.IsStanding ∧ store.HasNoStaged := by
  induction produced with
  | fresh standing nothing =>
      refine ⟨standing, fun above name content _ isFile => ?_⟩
      rw [nothing] at isFile
      cases isFile
  | reopened _ process stagedWrites inductionHypothesis =>
      exact ⟨⟨inductionHypothesis.1.standing, inductionHypothesis.1.rooted⟩, inductionHypothesis.2⟩
  | written _ visible content inductionHypothesis =>
      exact ⟨inductionHypothesis.1.write _ content,
        (replaces_of_noStaged inductionHypothesis.1 inductionHypothesis.2 visible content).noStaged⟩
  | deleted _ done inductionHypothesis =>
      exact ⟨inductionHypothesis.1.delete done,
        inductionHypothesis.2.delete inductionHypothesis.1 done⟩

/-- In whatever writes and deletes produce, a write puts all its bytes in the place of the older
ones or leaves every blob as it was, and it leaves no staged file. -/
theorem write_replaces_blob_or_nothing (store : DirectoryStore) (produced : Produced store)
    (path : List UInt8) (visible : EndsVisibly path) (content : ByteArray) :
    Replaces store path content (store.write path content).1 (store.write path content).2 :=
  replaces_of_noStaged produced.standing_and_noStaged.1 produced.standing_and_noStaged.2 visible
    content

theorem endsVisibly_of_head? (keyed : blobKey? path = some (above ++ [name]))
    (undotted : name.head? ≠ some 0x2E) : EndsVisibly path := by
  intro other last isKey staging
  rw [keyed, Option.some_inj] at isKey
  have sameName : name = last := List.singleton_inj.1 (List.append_inj' isKey rfl).2
  exact undotted (sameName ▸ staging.head?_eq)

/-- A store on an empty root directory, opened by process 7. -/
def emptyStore : DirectoryStore := ⟨.empty, [], 7, 0⟩

/-- The path of a blob one directory below another path. -/
def innerPath : List UInt8 := Utf8.encode "alice/abc/inner"

/-- The store in which a blob is the only one. -/
def innerStore : DirectoryStore := (emptyStore.write innerPath "x".toUTF8).2

theorem produced_emptyStore : Produced emptyStore := by
  refine .fresh ⟨FileTree.isStanding_empty, rfl⟩ fun above name => ?_
  rw [FileTree.entryAt?, if_neg (List.concat_ne_nil name _)]
  rfl

/-- A write to a directory fails, and the blob below it stays. -/
theorem blob_below_failed_write_stays :
    Produced innerStore ∧ EndsVisibly (Utf8.encode "alice/abc") ∧
      ∃ failure names,
        (innerStore.write (Utf8.encode "alice/abc") "data".toUTF8).1 = .error failure ∧
          blobKey? innerPath = some names ∧
            (innerStore.write (Utf8.encode "alice/abc") "data".toUTF8).2.contentAt? names =
              some "x".toUTF8 := by
  have innerKey : blobKey? innerPath =
      some ([Utf8.encode "alice", Utf8.encode "abc"] ++ [Utf8.encode "inner"]) := by
    decide +kernel
  have outerKey : blobKey? (Utf8.encode "alice/abc") =
      some ([Utf8.encode "alice"] ++ [Utf8.encode "abc"]) := by
    decide +kernel
  have produced : Produced innerStore :=
    .written produced_emptyStore (endsVisibly_of_head? innerKey (by decide +kernel)) _
  have visible : EndsVisibly (Utf8.encode "alice/abc") :=
    endsVisibly_of_head? outerKey (by decide +kernel)
  have replaces := write_replaces_blob_or_nothing innerStore produced (Utf8.encode "alice/abc")
    visible "data".toUTF8
  have refused : (innerStore.write (Utf8.encode "alice/abc") "data".toUTF8).1.isOk = false := by
    decide +kernel
  have stored : (innerStore.contentAt?
      ([Utf8.encode "alice", Utf8.encode "abc"] ++ [Utf8.encode "inner"])).map ByteArray.data =
        some "x".toUTF8.data := by
    decide +kernel
  rcases answer : (innerStore.write (Utf8.encode "alice/abc") "data".toUTF8).1 with failure | _
  · refine ⟨produced, visible, failure, _, rfl, innerKey, ?_⟩
    obtain ⟨content, isStored, same⟩ := Option.map_eq_some_iff.1 stored
    rw [replaces.failed failure answer, isStored, ByteArray.ext same]
  · rw [answer] at refused
    cases refused

end DirectoryStore

end ContentVault
