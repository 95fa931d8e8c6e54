import ContentVault.Blob.Directory
import ContentVault.Proofs.BlobKey
import ContentVault.Proofs.FileTree

/-!
# Blobs in a directory and the files that hold them

* writes and deletes keep the tree of a store standing, with its root directory in it;
* a write puts the blob in its place, and the only other file that it can touch is the one
  in which it was staged, which is gone afterwards;
* a delete takes the blob away and nothing else.
-/

namespace ContentVault

namespace DirectoryStore

/-- The blob under a key. -/
def contentAt? (store : DirectoryStore) (names : List PathName) : Option ByteArray :=
  match store.tree.entryAt? (store.placeOf names) with
  | some (.file content) => some content
  | _ => none

/-- The root directory is there, in a standing tree. -/
structure IsStanding (store : DirectoryStore) : Prop where
  standing : store.tree.IsStanding
  rooted : store.tree.entryAt? store.root = some .directory

theorem contentAt?_eq_some {store : DirectoryStore} {names : List PathName}
    {content : ByteArray} :
    store.contentAt? names = some content ↔
      store.tree.entryAt? (store.placeOf names) = some (.file content) := by
  rw [contentAt?]
  split
  · rename_i other stands
    simp [stands]
  · rename_i notFile
    refine ⟨nofun, fun stands => absurd stands (notFile content)⟩

theorem contentAt?_of_no_file {store : DirectoryStore} {names : List PathName}
    (notFile : ∀ content, store.tree.entryAt? (store.placeOf names) ≠ some (.file content)) :
    store.contentAt? names = none :=
  Option.eq_none_iff_forall_ne_some.2 fun content stored =>
    notFile content (contentAt?_eq_some.1 stored)

theorem contentAt?_congr {store other : DirectoryStore} {names : List PathName}
    (same : other.tree.entryAt? (other.placeOf names) = store.tree.entryAt? (store.placeOf names)) :
    other.contentAt? names = store.contentAt? names := by
  rw [contentAt?, contentAt?, same]

theorem placeOf_inj {store : DirectoryStore} {names others : List PathName} :
    store.placeOf names = store.placeOf others ↔ names = others :=
  List.append_right_inj store.root

theorem placeOf_prefix {store : DirectoryStore} {names others : List PathName} :
    store.placeOf names <+: store.placeOf others ↔ names <+: others :=
  List.prefix_append_right_inj store.root

theorem placeOf_concat (store : DirectoryStore) (above : List PathName) (name : PathName) :
    store.placeOf (above ++ [name]) = store.placeOf above ++ [name] :=
  (List.append_assoc store.root above [name]).symm

theorem placeOf_concat_ne_root (store : DirectoryStore) (above : List PathName)
    (name : PathName) : store.placeOf above ++ [name] ≠ store.root := by
  rw [placeOf, List.append_assoc]
  intro isRoot
  exact List.concat_ne_nil name above (List.append_right_eq_self.1 isRoot)

/-- A store that is there hands out the chunks of a blob that it has. -/
theorem IsStanding.reader_of_stored {store : DirectoryStore} {path : List UInt8}
    {names : List PathName} {content : ByteArray} (standing : store.IsStanding)
    (keyed : blobKey? path = some names) (stored : store.contentAt? names = some content) :
    store.reader path = .ok ((chunksOf content).map Except.ok) := by
  have found := standing.standing.find_of_entry (contentAt?_eq_some.1 stored)
  simp only [reader, requireKey, keyed, bind, Except.bind, found]
  rfl

/-! ## Replacing a file -/

section Replacing

variable {tree : FileTree} {above wanted : List PathName} {hidden name : PathName}
  {content : ByteArray}

/-- The tree in which a file was written and removed again. -/
def unstaged (tree : FileTree) (staged : List PathName) (content : ByteArray) : FileTree :=
  (tree.put staged (.file content)).remove staged

theorem entryAt?_unstaged :
    FileTree.entryAt? (unstaged tree (above ++ [hidden]) content) wanted =
      if above ++ [hidden] = wanted then none else tree.entryAt? wanted := by
  have notRoot : above ++ [hidden] ≠ [] := List.concat_ne_nil hidden above
  rw [unstaged, FileTree.entryAt?_remove notRoot, FileTree.entryAt?_put notRoot]
  split <;> rfl

/-- A file can be staged and moved into its place. -/
structure IsReplaceable (tree : FileTree) (above : List PathName) (hidden name : PathName) :
    Prop where
  directory : tree.entryAt? above = some .directory
  stagedPlace : FileTree.IsPlace (above ++ [hidden])
  stagedNotDirectory : tree.entryAt? (above ++ [hidden]) ≠ some .directory
  place : FileTree.IsPlace (above ++ [name])
  notDirectory : tree.entryAt? (above ++ [name]) ≠ some .directory

/-- A file is replaced, or everything is as it was but for the staged file, which is gone
if it was written. -/
theorem replaceFile_cases (standing : tree.IsStanding) (above : List PathName)
    (hidden name : PathName) (content : ByteArray) :
    (∃ failure, replaceFile tree (above ++ [hidden]) (above ++ [name]) content =
      (.error failure, tree)) ∨
    (tree.entryAt? (above ++ [hidden]) ≠ some .directory ∧
      (unstaged tree (above ++ [hidden]) content).IsStanding ∧
      ∃ failure, replaceFile tree (above ++ [hidden]) (above ++ [name]) content =
        (.error failure, unstaged tree (above ++ [hidden]) content)) ∨
    (IsReplaceable tree above hidden name ∧
      ((unstaged tree (above ++ [hidden]) content).put (above ++ [name])
        (.file content)).IsStanding ∧
      replaceFile tree (above ++ [hidden]) (above ++ [name]) content =
        (.ok (), (unstaged tree (above ++ [hidden]) content).put (above ++ [name])
          (.file content))) := by
  rw [replaceFile]
  rcases written : tree.writeFile (above ++ [hidden]) content with failure | staged
  · exact .inl ⟨failure, rfl⟩
  · obtain ⟨place, directory, notDirectory, rfl⟩ := (standing.writeFile_eq_ok content).1 written
    have standingStaged := standing.put place directory notDirectory (.file content)
    have stagedFile :
        FileTree.entryAt? (tree.put (above ++ [hidden]) (.file content)) (above ++ [hidden]) =
          some (.file content) := by
      rw [FileTree.entryAt?_put (List.concat_ne_nil hidden above), if_pos rfl]
    have standingUnstaged : (unstaged tree (above ++ [hidden]) content).IsStanding :=
      standingStaged.remove stagedFile
    rcases renamed : (tree.put (above ++ [hidden]) (.file content)).renameFile
      (above ++ [hidden]) (above ++ [name]) with failure | after
    · have removed := standingStaged.removeFile_eq_ok.2 ⟨content, stagedFile, rfl⟩
      refine .inr (.inl ⟨notDirectory, standingUnstaged, failure, ?_⟩)
      simp only [renamed, removed, unstaged]
    · obtain ⟨moved, isMoved, targetPlace, targetNotDirectory, rfl⟩ :=
        standingStaged.renameFile_eq_ok.1 renamed
      cases stagedFile.symm.trans isMoved
      have notDirectoryTarget : tree.entryAt? (above ++ [name]) ≠ some .directory := by
        rw [FileTree.entryAt?_put (List.concat_ne_nil hidden above)] at targetNotDirectory
        split at targetNotDirectory
        · rename_i same
          rwa [← same]
        · exact targetNotDirectory
      refine .inr (.inr ⟨⟨directory, place, notDirectory, targetPlace, notDirectoryTarget⟩,
        standingUnstaged.put targetPlace ?_ ?_ _, ?_⟩)
      · rw [entryAt?_unstaged, if_neg (by simp), directory]
      · rw [entryAt?_unstaged]
        split
        · nofun
        · exact notDirectoryTarget
      · simp only [renamed, unstaged]

/-- A file can be replaced where its directory is and no directory stands. -/
theorem replaceFile_eq_ok (standing : tree.IsStanding) (content : ByteArray)
    (replaceable : IsReplaceable tree above hidden name) :
    replaceFile tree (above ++ [hidden]) (above ++ [name]) content =
      (.ok (), (unstaged tree (above ++ [hidden]) content).put (above ++ [name])
        (.file content)) := by
  obtain ⟨directory, stagedPlace, stagedNotDirectory, place, notDirectory⟩ := replaceable
  have standingStaged := standing.put stagedPlace directory stagedNotDirectory (.file content)
  have written := (standing.writeFile_eq_ok content).2
    ⟨stagedPlace, directory, stagedNotDirectory, rfl⟩
  have stagedFile :
      FileTree.entryAt? (tree.put (above ++ [hidden]) (.file content)) (above ++ [hidden]) =
        some (.file content) := by
    rw [FileTree.entryAt?_put (List.concat_ne_nil hidden above), if_pos rfl]
  have notDirectoryStaged :
      FileTree.entryAt? (tree.put (above ++ [hidden]) (.file content)) (above ++ [name]) ≠
        some .directory := by
    rw [FileTree.entryAt?_put (List.concat_ne_nil hidden above)]
    split
    · nofun
    · exact notDirectory
  have renamed := standingStaged.renameFile_eq_ok.2
    ⟨content, stagedFile, place, notDirectoryStaged, rfl⟩
  simp only [replaceFile, written, renamed, unstaged]

end Replacing

/-! ## Storing and deleting -/

section Storing

variable {store : DirectoryStore} {path : List UInt8} {names above other : List PathName}
  {name : PathName} {content : ByteArray}

/-- The place where the next write to a key is staged. -/
def stagedPlace (store : DirectoryStore) (above : List PathName) (name : PathName) :
    List PathName :=
  store.placeOf above ++ [stagingName store.process store.stagedWrites name]

theorem write_of_key (keyed : blobKey? path = some (above ++ [name])) :
    store.write path content =
      match store.tree.createDirectories (store.placeOf above) with
      | (.error failure, tree) => (.error (.ofFileFailure path failure), { store with tree })
      | (.ok (), tree) =>
          let (outcome, tree) := replaceFile tree (store.stagedPlace above name)
            (store.placeOf above ++ [name]) content
          let after := { store with tree, stagedWrites := store.stagedWrites + 1 }
          match outcome with
          | .ok () => (.ok (), after)
          | .error failure => (.error (.ofFileFailure path failure), after) := by
  rw [write, requireKey, keyed]
  simp only [placeOf_concat, List.dropLast_concat, List.getLast?_concat, Option.getD_some]
  rfl

theorem write_of_no_key (noKey : blobKey? path = none) :
    store.write path content = (.error (.ofBadPath path), store) := by
  rw [write, requireKey, noKey]

/-- What a write leaves: directories on the way, and either the blob in its place or no
more than there was, in both cases without the staged file. -/
theorem IsStanding.write_cases (standing : store.IsStanding)
    (keyed : blobKey? path = some (above ++ [name])) (content : ByteArray) :
    ∃ grown tree count, store.tree.GrowsTowards (store.placeOf above) grown ∧
      tree.IsStanding ∧
      ((∃ failure, store.write path content =
          (.error failure, { store with tree, stagedWrites := count }) ∧
        (tree = grown ∨ grown.entryAt? (store.stagedPlace above name) ≠ some .directory ∧
          tree = unstaged grown (store.stagedPlace above name) content)) ∨
      (store.write path content = (.ok (), { store with tree, stagedWrites := count }) ∧
        IsReplaceable grown (store.placeOf above)
          (stagingName store.process store.stagedWrites name) name ∧
        tree = (unstaged grown (store.stagedPlace above name) content).put
          (store.placeOf above ++ [name]) (.file content))) := by
  rw [write_of_key keyed]
  have grows := (standing.standing.createDirectories (store.placeOf above)).1
  rcases created : store.tree.createDirectories (store.placeOf above) with ⟨outcome, grown⟩
  rw [created] at grows
  rcases outcome with failure | _
  · exact ⟨grown, grown, store.stagedWrites, grows, grows.standing,
      .inl ⟨_, rfl, .inl rfl⟩⟩
  · rw [stagedPlace]
    rcases replaceFile_cases grows.standing (store.placeOf above)
        (stagingName store.process store.stagedWrites name) name content with
      ⟨failure, replaced⟩ | ⟨notDirectory, stands, failure, replaced⟩ |
        ⟨replaceable, stands, replaced⟩
    · simp only [replaced]
      exact ⟨grown, grown, _, grows, grows.standing, .inl ⟨_, rfl, .inl rfl⟩⟩
    · simp only [replaced]
      exact ⟨grown, _, _, grows, stands, .inl ⟨_, rfl, .inr ⟨notDirectory, rfl⟩⟩⟩
    · simp only [replaced]
      exact ⟨grown, _, _, grows, stands, .inr ⟨rfl, replaceable, rfl⟩⟩

theorem IsStanding.write (standing : store.IsStanding) (path : List UInt8)
    (content : ByteArray) : (store.write path content).2.IsStanding := by
  rcases keyed : blobKey? path with _ | names
  · rw [write_of_no_key keyed]
    exact standing
  · obtain ⟨⟨above, name, rfl⟩, _⟩ := exists_of_blobKey? keyed
    obtain ⟨grown, tree, count, grows, stands, outcome⟩ :=
      standing.write_cases keyed content
    have rootedGrown := grows.directory standing.rooted
    have rootedUnstaged :
        FileTree.entryAt? (unstaged grown (store.stagedPlace above name) content) store.root =
          some .directory := by
      rw [stagedPlace, entryAt?_unstaged, if_neg (store.placeOf_concat_ne_root above _),
        rootedGrown]
    rcases outcome with ⟨failure, written, rfl | ⟨_, rfl⟩⟩ | ⟨written, _, rfl⟩
    · rw [written]
      exact ⟨stands, rootedGrown⟩
    · rw [written]
      exact ⟨stands, rootedUnstaged⟩
    · rw [written]
      refine ⟨stands, ?_⟩
      rw [FileTree.entryAt?_put (List.concat_ne_nil name _),
        if_neg (store.placeOf_concat_ne_root above name), rootedUnstaged]

/-- Where nothing is in the way, a write succeeds. -/
theorem IsStanding.write_eq_ok (standing : store.IsStanding) (content : ByteArray)
    (keyed : blobKey? path = some (above ++ [name]))
    (place : FileTree.IsPlace (store.placeOf above ++ [name]))
    (staged : FileTree.IsPlace (store.stagedPlace above name))
    (clear : ∀ passed, passed <+: store.placeOf above → ∀ old,
      store.tree.entryAt? passed ≠ some (.file old))
    (notDirectory : store.tree.entryAt? (store.placeOf above ++ [name]) ≠ some .directory)
    (unused : store.tree.entryAt? (store.stagedPlace above name) = none) :
    ∃ tree, store.write path content = (.ok (),
        { store with tree, stagedWrites := store.stagedWrites + 1 }) ∧
      tree.IsStanding ∧ ∀ wanted, tree.entryAt? wanted =
        if store.placeOf above ++ [name] = wanted then some (.file content)
        else if wanted <+: store.placeOf above then some .directory
        else store.tree.entryAt? wanted := by
  obtain ⟨grows, reaches⟩ := standing.standing.createDirectories (store.placeOf above)
  have created := FileTree.createDirectories_eq_ok place.above clear
  rcases outcome : store.tree.createDirectories (store.placeOf above) with ⟨result, grown⟩
  rw [outcome] at grows reaches created
  obtain rfl : result = .ok () := created
  have directory : grown.entryAt? (store.placeOf above) = some .directory := reaches rfl
  have unchanged : ∀ wanted, ¬ wanted <+: store.placeOf above →
      grown.entryAt? wanted = store.tree.entryAt? wanted := fun wanted notOnTheWay =>
    (grows.grown wanted).resolve_right fun ⟨_, _, onTheWay⟩ => notOnTheWay onTheWay
  have replaced := replaceFile_eq_ok grows.standing content ⟨directory, staged,
    (by rw [grows.entryAt?_concat]; exact unused ▸ nofun), place,
    (by rw [grows.entryAt?_concat]; exact notDirectory)⟩
  have written : store.write path content = (.ok (),
      { store with
        tree := (unstaged grown (store.stagedPlace above name) content).put
          (store.placeOf above ++ [name]) (.file content)
        stagedWrites := store.stagedWrites + 1 }) := by
    rw [write_of_key keyed, outcome]
    simp only [stagedPlace, replaced]
  have stands := (standing.write path content).standing
  rw [written] at stands
  refine ⟨_, written, stands, fun wanted => ?_⟩
  rw [FileTree.entryAt?_put (List.concat_ne_nil name _)]
  split
  · rfl
  · rw [stagedPlace, entryAt?_unstaged]
    split
    · rename_i isStaged
      rw [← isStaged, if_neg (FileTree.concat_not_prefix _ _)]
      exact unused.symm
    · split
      · rename_i onTheWay
        exact grows.standing.directory_of_prefix onTheWay directory
      · rename_i notPassed
        exact unchanged wanted notPassed

/-- A delete takes one blob away, or nothing. -/
theorem IsStanding.delete_eq_ok (standing : store.IsStanding)
    (keyed : blobKey? path = some names) {after : DirectoryStore} :
    store.delete path = .ok after ↔ ∃ content, store.contentAt? names = some content ∧
      after = { store with tree := store.tree.remove (store.placeOf names) } := by
  rw [delete, requireKey, keyed]
  simp only [bind, Except.bind, contentAt?_eq_some]
  rcases removed : store.tree.removeFile (store.placeOf names) with failure | tree
  · refine ⟨nofun, fun ⟨content, stands, _⟩ => ?_⟩
    cases (standing.standing.removeFile_eq_ok.2 ⟨content, stands, rfl⟩).symm.trans removed
  · obtain ⟨content, stands, rfl⟩ := standing.standing.removeFile_eq_ok.1 removed
    simp [pure, Except.pure, stands, eq_comm]

theorem IsStanding.delete (standing : store.IsStanding) {after : DirectoryStore}
    (deleted : store.delete path = .ok after) : after.IsStanding := by
  rcases keyed : blobKey? path with _ | names
  · rw [DirectoryStore.delete, requireKey, keyed] at deleted
    cases deleted
  · obtain ⟨content, stands, rfl⟩ := (standing.delete_eq_ok keyed).1 deleted
    rw [contentAt?_eq_some] at stands
    refine ⟨standing.standing.remove stands, ?_⟩
    have notRoot : store.placeOf names ≠ [] := by
      intro isRoot
      rw [isRoot] at stands
      cases stands
    rw [FileTree.entryAt?_remove notRoot, if_neg, standing.rooted]
    intro isRoot
    rw [isRoot, standing.rooted] at stands
    cases stands

end Storing

end DirectoryStore

end ContentVault
