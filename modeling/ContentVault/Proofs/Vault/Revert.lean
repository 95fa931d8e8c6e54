import ContentVault.Proofs.Vault.Operations

/-!
# Reverts commit one version or nothing

* a revert asks the catalog for its new version at most three times, and again only if
  somebody else's version was in the way;
* each time the version has the number after the one that was just read; if there is none,
  the revert breaks off without having asked;
* a revert that succeeds adds one version, which shares the blob of the older one, and
  makes it the current one of its file;
* a revert that fails changes neither store.
-/

namespace ContentVault

open World StoreRequest

/-! ## The calls of a revert -/

/-- Two states between which the stores stayed as they were and no version was asked
for. -/
structure World.Consulted (before after : World) : Prop where
  tables : after.tables = before.tables
  blobs : after.blobs = before.blobs
  appends : after.callCount .appendVersion = before.callCount .appendVersion

instance : IsPreorder World Consulted where
  refl := fun _ => ⟨rfl, rfl, rfl⟩
  trans := fun _ _ _ left right =>
    ⟨right.tables.trans left.tables, right.blobs.trans left.blobs,
      right.appends.trans left.appends⟩

theorem consulted_allowsQueries (conditions : Conditions) :
    AllowsQueries Consulted conditions := by
  intro α call run lookup limit before
  have noted : before.Noted (.catalog call) (read call run conditions limit before).2 :=
    read_noted rfl
  refine ⟨noted.tables, noted.blobs, ?_⟩
  have other : StoreCall.catalog call ≠ .catalog .appendVersion := by
    rintro ⟨⟩
    cases lookup
  rw [callCount_of_calls noted.calls, if_neg other, Nat.add_zero]

namespace Vault

/-- The calls in which a revert asks for its version.  Each of them uses the file and the
older version as they were just read and the number that follows the file's, and only a
conflict is followed by another one. -/
inductive RevertCalls (conditions : Conditions) (fileId : String) (target : UInt32) :
    Nat → World → Except VaultError RevertReceipt → World → Prop
  | refused {before after : World} {failure : VaultError}
      (consulted : before.Consulted after)
      (refuses : before.tables.RefusesRevert fileId target failure) :
      RevertCalls conditions fileId target 0 before (.error failure) after
  | exhausted {before after : World} {file : FileRecord} {source : VersionRecord}
      (consulted : before.Consulted after)
      (revertible : after.tables.Revertible fileId target file source)
      (largest : file.currentVersion = 0xFFFFFFFF) :
      RevertCalls conditions fileId target 0 before (.error .overflow) after
  | settled {before asked after : World} {file : FileRecord} {source : VersionRecord}
      {number : UInt32} {answer : Except StoreFailure Unit}
      (consulted : before.Consulted asked)
      (revertible : asked.tables.Revertible fileId target file source)
      (follows : file.currentVersion.toNat + 1 = number.toNat)
      (called :
        appendVersion (revertedVersion file number source target conditions.now)
            file.currentVersion conditions (timeLimit conditions asked) asked =
          (answer, after)) :
      RevertCalls conditions fileId target 1 before
        (raiseAs .catalogWrite (answer.map fun () => ⟨fileId, number, target⟩)) after
  | repeated {before asked between after : World} {file : FileRecord}
      {source : VersionRecord} {number : UInt32} {conflicting : String} {calls : Nat}
      {outcome : Except VaultError RevertReceipt}
      (consulted : before.Consulted asked)
      (revertible : asked.tables.Revertible fileId target file source)
      (follows : file.currentVersion.toNat + 1 = number.toNat)
      (called :
        appendVersion (revertedVersion file number source target conditions.now)
            file.currentVersion conditions (timeLimit conditions asked) asked =
          (.error (.catalog (.conflict conflicting)), between))
      (onward : RevertCalls conditions fileId target calls between outcome after) :
      RevertCalls conditions fileId target (calls + 1) before outcome after

variable {conditions : Conditions} {fileId : String} {target : UInt32} {before after : World}

/-- A version is appended, or the tables stay as they were. -/
theorem appendVersion_outcome {version : VersionRecord} {expected : UInt32} {limit : Nat}
    {answer : Except StoreFailure Unit}
    (called : appendVersion version expected conditions limit before = (answer, after)) :
    after.blobs = before.blobs ∧ after.calls = .catalog .appendVersion :: before.calls ∧
      ((∃ value, answer = .ok value ∧
          before.tables.appendVersion version expected = (.ok value, after.tables)) ∨
        (∃ failure, answer = .error failure) ∧ after.tables = before.tables) :=
  change_outcome Work.transaction_of_error called

/-- One attempt makes at most one call, after which a conflict leaves room for others. -/
theorem revertOnce_calls (conditions : Conditions) (fileId : String) (target : UInt32)
    (before : World) :
    (∃ failure last, revertOnce fileId target conditions before = (.error failure, last) ∧
        RevertCalls conditions fileId target 0 before (.error failure) last) ∨
      ∃ answer last, revertOnce fileId target conditions before = (.ok answer, last) ∧
        RevertCalls conditions fileId target 1 before (raiseAs .catalogWrite answer) last ∧
          ∀ conflicting, answer = .error (.catalog (.conflict conflicting)) →
            ∀ {calls outcome after},
              RevertCalls conditions fileId target calls last outcome after →
                RevertCalls conditions fileId target (calls + 1) before outcome after := by
  rcases revertOnce_cases (consulted_allowsQueries conditions) fileId target before with
    ⟨failure, last, consulted, refuses, attempted⟩ |
      ⟨file, source, asked, consulted, _, revertible, ⟨largest, attempted⟩ |
        ⟨number, answer, last, follows, called, attempted⟩⟩
  · exact Or.inl ⟨failure, last, attempted, RevertCalls.refused consulted refuses⟩
  · exact Or.inl ⟨_, asked, attempted, RevertCalls.exhausted consulted revertible largest⟩
  · refine Or.inr ⟨_, last, attempted, RevertCalls.settled consulted revertible follows called, ?_⟩
    intro conflicting isConflict calls outcome after onward
    cases answer with
    | ok value => cases isConflict
    | error failure =>
        cases isConflict
        exact RevertCalls.repeated consulted revertible follows called onward

theorem revertCalls_of_revertWithin (again : Nat) {outcome : Except VaultError RevertReceipt}
    (done : revertWithin fileId target again conditions before = (outcome, after)) :
    ∃ calls, calls ≤ again + 1 ∧
      RevertCalls conditions fileId target calls before outcome after := by
  induction again generalizing before with
  | zero =>
      rw [revertWithin, VaultAction.bind_apply] at done
      rcases revertOnce_calls conditions fileId target before with
        ⟨failure, last, attempted, refused⟩ | ⟨answer, last, attempted, settled, _⟩
      · rw [attempted] at done
        cases done
        exact ⟨0, Nat.zero_le _, refused⟩
      · rw [attempted] at done
        cases answer <;> cases done <;> exact ⟨1, Nat.le_refl _, settled⟩
  | succ again inductionHypothesis =>
      rw [revertWithin, VaultAction.bind_apply] at done
      rcases revertOnce_calls conditions fileId target before with
        ⟨failure, last, attempted, refused⟩ | ⟨answer, last, attempted, settled, repeated⟩
      · rw [attempted] at done
        cases done
        exact ⟨0, Nat.zero_le _, refused⟩
      · rw [attempted] at done
        have once : 1 ≤ again + 1 + 1 := Nat.le_add_left 1 (again + 1)
        rcases answer with (_ | error | _) | _
        · cases done
          exact ⟨1, once, settled⟩
        -- Only a conflict leads to another attempt.
        · cases error with
          | conflict conflicting =>
              obtain ⟨calls, bound, onward⟩ := inductionHypothesis done
              exact ⟨calls + 1, Nat.succ_le_succ bound, repeated conflicting rfl onward⟩
          | _ =>
              cases done
              exact ⟨1, once, settled⟩
        · cases done
          exact ⟨1, once, settled⟩
        · cases done
          exact ⟨1, once, settled⟩

namespace RevertCalls

variable {calls : Nat} {outcome : Except VaultError RevertReceipt}

theorem callCount (made : RevertCalls conditions fileId target calls before outcome after) :
    after.callCount .appendVersion = before.callCount .appendVersion + calls := by
  induction made with
  | refused consulted refuses =>
      exact consulted.appends
  | exhausted consulted revertible largest =>
      exact consulted.appends
  | settled consulted revertible follows called =>
      rw [callCount_of_calls (appendVersion_outcome called).2.1, consulted.appends]
      simp
  | repeated consulted revertible follows called onward inductionHypothesis =>
      rw [inductionHypothesis, callCount_of_calls (appendVersion_outcome called).2.1,
        consulted.appends]
      simp
      omega

/-- Calls that all fail leave both stores as they were. -/
theorem unchanged {failure : VaultError}
    (made : RevertCalls conditions fileId target calls before outcome after)
    (failed : outcome = .error failure) :
    after.tables = before.tables ∧ after.blobs = before.blobs := by
  induction made with
  | refused consulted refuses =>
      exact ⟨consulted.tables, consulted.blobs⟩
  | exhausted consulted revertible largest =>
      exact ⟨consulted.tables, consulted.blobs⟩
  | settled consulted revertible follows called =>
      obtain ⟨sameBlobs, _, ⟨value, rfl, _⟩ | ⟨_, sameTables⟩⟩ := appendVersion_outcome called
      · cases failed
      · exact ⟨sameTables.trans consulted.tables, sameBlobs.trans consulted.blobs⟩
  | repeated consulted revertible follows called onward inductionHypothesis =>
      obtain ⟨sameBlobs, _, ⟨value, succeeded, _⟩ | ⟨_, sameTables⟩⟩ :=
        appendVersion_outcome called
      · cases succeeded
      · obtain ⟨laterTables, laterBlobs⟩ := inductionHypothesis failed
        exact ⟨laterTables.trans (sameTables.trans consulted.tables),
          laterBlobs.trans (sameBlobs.trans consulted.blobs)⟩

/-- Of calls that end well exactly the last one changed the tables. -/
theorem appended {receipt : RevertReceipt}
    (made : RevertCalls conditions fileId target calls before outcome after)
    (succeeded : outcome = .ok receipt) :
    after.blobs = before.blobs ∧
      ∃ file source number,
        before.tables.Revertible fileId target file source ∧
          receipt = ⟨fileId, number, target⟩ ∧
          before.tables.appendVersion (revertedVersion file number source target conditions.now)
              file.currentVersion = (.ok (), after.tables) := by
  induction made with
  | refused consulted refuses =>
      cases succeeded
  | exhausted consulted revertible largest =>
      cases succeeded
  | @settled before asked after file source number answer consulted revertible follows called =>
      obtain ⟨sameBlobs, _, ⟨value, rfl, appended⟩ | ⟨⟨failure, rfl⟩, _⟩⟩ :=
        appendVersion_outcome called
      · cases succeeded
        rw [consulted.tables] at revertible appended
        exact ⟨sameBlobs.trans consulted.blobs, file, source, number, revertible, rfl, appended⟩
      · cases succeeded
  | repeated consulted revertible follows called onward inductionHypothesis =>
      obtain ⟨sameBlobs, _, ⟨value, wrong, _⟩ | ⟨_, sameTables⟩⟩ := appendVersion_outcome called
      · cases wrong
      · obtain ⟨laterBlobs, file, source, number, revertibleLater, isReceipt, appended⟩ :=
          inductionHypothesis succeeded
        rw [sameTables, consulted.tables] at revertibleLater appended
        exact ⟨laterBlobs.trans (sameBlobs.trans consulted.blobs), file, source, number,
          revertibleLater, isReceipt, appended⟩

/-- A revert that breaks off has found a file with the largest number. -/
theorem exists_largest (made : RevertCalls conditions fileId target calls before outcome after)
    (brokeOff : outcome = .error .overflow) :
    ∃ file source, before.tables.Revertible fileId target file source ∧
      file.currentVersion = 0xFFFFFFFF := by
  induction made with
  | refused consulted refuses =>
      cases brokeOff
      cases refuses
  | exhausted consulted revertible largest =>
      exact ⟨_, _, consulted.tables ▸ revertible, largest⟩
  | @settled _ _ _ _ _ _ answer =>
      cases answer <;> cases brokeOff
  | repeated consulted revertible follows called onward inductionHypothesis =>
      obtain ⟨_, _, ⟨value, succeeded, _⟩ | ⟨_, sameTables⟩⟩ := appendVersion_outcome called
      · cases succeeded
      · rw [sameTables, consulted.tables] at inductionHypothesis
        exact inductionHypothesis brokeOff

/-- A file with the largest number breaks a revert off, unless a lookup goes unanswered; a
version is not asked for. -/
theorem of_largest {file : FileRecord} {source : VersionRecord}
    (made : RevertCalls conditions fileId target calls before outcome after)
    (revertible : before.tables.Revertible fileId target file source)
    (largest : file.currentVersion = 0xFFFFFFFF) :
    calls = 0 ∧
      (outcome = .error .overflow ∨ ∃ cause, outcome = .error (.catalogRead cause)) := by
  -- What an attempt reads is this file, and no number follows the largest one.
  have noneFollows : ∀ {asked : World} {read : FileRecord} {older : VersionRecord}
      {number : UInt32}, before.Consulted asked →
        asked.tables.Revertible fileId target read older →
          read.currentVersion.toNat + 1 ≠ number.toNat := by
    intro asked read older number consulted revertibleAsked follows
    have sameFile := revertibleAsked.live
    rw [consulted.tables, revertible.live] at sameFile
    cases sameFile
    have bound := number.toNat_lt
    rw [largest] at follows
    change 4294967295 + 1 = number.toNat at follows
    omega
  cases made with
  | refused consulted refuses =>
      refine ⟨rfl, Or.inr ?_⟩
      cases refuses with
      | unanswered cause => exact ⟨cause, rfl⟩
      | noFile absent =>
          rw [revertible.live] at absent
          cases absent
      | noVersion absent =>
          rw [revertible.found] at absent
          cases absent
  | exhausted => exact ⟨rfl, Or.inl rfl⟩
  | settled consulted revertibleAsked follows =>
      exact absurd follows (noneFollows consulted revertibleAsked)
  | repeated consulted revertibleAsked follows =>
      exact absurd follows (noneFollows consulted revertibleAsked)

end RevertCalls

/-! ## What a revert adds -/

/-- What a revert adds to the tables, and that it changes nothing else: a version that
repeats the older one under the next number, and the file that now describes it. -/
structure CommittedRevert (conditions : Conditions) (fileId : String) (target : UInt32)
    (before after : World) (receipt : RevertReceipt) (file : FileRow)
    (source : VersionRow) : Prop where
  live : before.tables.liveFile? fileId = some file
  found : before.tables.version? fileId (encodeNumber target) = some source
  readable : ∃ version, source.toRecord = .ok version
  receiptFile : receipt.fileId = fileId
  revertedTo : receipt.revertedTo = target
  number : (receipt.newVersion.toNat : Int) = file.currentVersion.toInt + 1
  unused : ∀ version ∈ before.tables.versions,
    version.fileId = fileId → version.number ≠ encodeNumber receipt.newVersion
  versions :
    after.tables.versions =
      before.tables.versions ++
        [{ versionId := versionIdOf fileId receipt.newVersion
           fileId
           number := encodeNumber receipt.newVersion
           size := source.size
           path := source.path
           contentType := source.contentType
           createdAt := encodeTime conditions.now
           commitMessage := "Revert to version " ++ toString target.toNat }]
  files :
    after.tables.files =
      before.tables.files.map fun row =>
        if row.fileId = fileId then
          { file with
            currentVersion := encodeNumber receipt.newVersion
            path := source.path
            contentType := source.contentType
            size := source.size
            updatedAt := encodeTime conditions.now }
        else row
  tags : after.tables.tags = before.tables.tags
  links : after.tables.links = before.tables.links
  blobs : after.blobs = before.blobs

theorem committedRevert_of_appended {file : FileRecord} {source : VersionRecord}
    {number : UInt32} (keyed : (before.tables.files.map FileRow.fileId).Nodup)
    (revertible : before.tables.Revertible fileId target file source)
    (appended :
      before.tables.appendVersion (revertedVersion file number source target conditions.now)
          file.currentVersion = (.ok (), after.tables))
    (blobs : after.blobs = before.blobs) :
    ∃ fileRow sourceRow,
      CommittedRevert conditions fileId target before after
        ⟨fileId, number, target⟩ fileRow sourceRow := by
  obtain ⟨fileRow, live, fileDecoded⟩ := Tables.getFile_eq_some.1 revertible.live
  obtain ⟨sourceRow, found, sourceDecoded⟩ := Tables.getVersion_eq_some.1 revertible.found
  obtain ⟨isMember, sameFile, notTrashed⟩ := Tables.mem_of_liveFile?_eq_some live
  have fileEncoded := FileRow.toRow_of_toRecord fileDecoded
  have sourceEncoded := VersionRow.toRow_of_toRecord sourceDecoded
  obtain ⟨_, isFileRow⟩ := FileRecord.toRow_eq_ok.1 fileEncoded
  obtain ⟨_, isSourceRow⟩ := VersionRecord.toRow_eq_ok.1 sourceEncoded
  obtain ⟨follows, row, encoded, _, fresh, tables⟩ := Tables.appendVersion_eq_ok.1 appended
  obtain ⟨_, isRow⟩ := VersionRecord.toRow_eq_ok.1 encoded
  have recordFile : file.fileId = fileId := by
    rw [← sameFile, isFileRow]
  have rowFile : row.fileId = fileId := by
    rw [isRow, ← recordFile]
    rfl
  have current : fileRow.currentVersion = encodeNumber file.currentVersion := by
    rw [isFileRow]
  refine ⟨fileRow, sourceRow, live, found, ⟨source, sourceDecoded⟩, rfl, rfl, ?_, ?_, ?_, ?_, ?_,
    ?_, blobs⟩
  · change file.currentVersion.toNat + 1 = number.toNat at follows
    change (number.toNat : Int) = _
    rw [current, toInt_encodeNumber, ← follows, Int.natCast_succ]
  · intro version member sameId sameNumber
    refine (fresh version member).2 ⟨sameId.trans rowFile.symm, ?_⟩
    rw [sameNumber, isRow]
    rfl
  · rw [tables, isRow, isSourceRow, ← recordFile]
    rfl
  · rw [tables, Tables.bumpVersion, Tables.updateLive_files]
    refine List.map_congr_left fun other member => ?_
    by_cases same : other.fileId = fileId
    -- Identifiers are unique, so the row that was bumped is the one that was read.
    · have isFile : other = fileRow :=
        List.inj_on_of_nodup_map keyed member isMember (same.trans sameFile.symm)
      subst isFile
      rw [if_pos same, if_pos ⟨same.trans rowFile.symm, notTrashed, decide_eq_true current⟩,
        isRow, isSourceRow]
      rfl
    · rw [if_neg same, if_neg fun hit => same (hit.1.trans rowFile)]
  · rw [tables]
    rfl
  · rw [tables]
    rfl

/-! ## Downloads after a revert -/

section Downloads

variable {receipt : RevertReceipt} {file : FileRow} {source : VersionRow}

theorem CommittedRevert.liveFile?_eq_some
    (committed : CommittedRevert conditions fileId target before after receipt file source)
    (keyed : (before.tables.files.map FileRow.fileId).Nodup) :
    after.tables.liveFile? fileId =
      some
        { file with
          currentVersion := encodeNumber receipt.newVersion
          path := source.path
          contentType := source.contentType
          size := source.size
          updatedAt := encodeTime conditions.now } := by
  obtain ⟨member, sameFile, notTrashed⟩ := Tables.mem_of_liveFile?_eq_some committed.live
  have stillKeyed : (after.tables.files.map FileRow.fileId).Nodup := by
    have sameIds : after.tables.files.map FileRow.fileId =
        before.tables.files.map FileRow.fileId := by
      rw [committed.files, List.map_map]
      refine List.map_congr_left fun row _ => ?_
      by_cases same : row.fileId = fileId
      · simp [same, sameFile]
      · simp [same]
    rw [sameIds]
    exact keyed
  refine (Tables.liveFile?_eq_some_iff stillKeyed).2 ⟨?_, sameFile, notTrashed⟩
  rw [committed.files]
  exact List.mem_map.2 ⟨file, member, if_pos sameFile⟩

theorem CommittedRevert.getVersion_target
    (committed : CommittedRevert conditions fileId target before after receipt file source)
    {version : VersionRecord} (decoded : source.toRecord = .ok version) :
    after.tables.getVersion fileId target = .ok (some version) := by
  refine Tables.getVersion_eq_some.2 ⟨source, ?_, decoded⟩
  have found := committed.found
  rw [Tables.version?] at found ⊢
  rw [committed.versions, List.find?_append, found]
  rfl

theorem CommittedRevert.getVersion_new
    (committed : CommittedRevert conditions fileId target before after receipt file source) :
    ∃ version, after.tables.getVersion fileId receipt.newVersion = .ok (some version) := by
  obtain ⟨older, decoded⟩ := committed.readable
  obtain ⟨fits, isSource⟩ := VersionRecord.toRow_eq_ok.1 (VersionRow.toRow_of_toRecord decoded)
  have encoded :
      (VersionRecord.make fileId receipt.newVersion older.size older.path older.contentType
        conditions.now ("Revert to version " ++ toString target.toNat)).toRow = .ok _ :=
    VersionRecord.toRow_eq_ok.2 ⟨fits, rfl⟩
  refine ⟨_, Tables.getVersion_eq_some.2 ⟨_, ?_, VersionRow.toRecord_of_toRow encoded⟩⟩
  have notBefore : before.tables.versions.find? (fun row =>
      row.fileId = fileId && row.number = encodeNumber receipt.newVersion) = none := by
    refine List.find?_eq_none.2 fun version member => ?_
    simpa using committed.unused version member
  rw [Tables.version?, committed.versions, List.find?_append, notBefore, isSource]
  simp [VersionRecord.make]

/-- Whether a lookup of a revision is answered depends on the store alone: it fails for all
the revisions there are, or it finds each of them. -/
theorem getVersion_fails_or_finds (fileId : String) (conditions : Conditions) (world : World) :
    (∃ failure lost, ∀ number version,
        world.tables.getVersion fileId number = .ok (some version) →
          bounded .catalogRead (getVersion fileId number) conditions world =
            (.error failure, lost)) ∨
      ∃ arrived, ∀ number version,
        world.tables.getVersion fileId number = .ok (some version) →
          bounded .catalogRead (getVersion fileId number) conditions world =
            (.ok (some version), arrived) := by
  rcases arrives : arrival .getVersion conditions (timeLimit conditions world) world with
    ⟨failure | _, arrived⟩
  · refine Or.inl ⟨.catalogRead failure, arrived, fun number version _ => ?_⟩
    rw [bounded, getVersion, read_eq, arrives]
    rfl
  · refine Or.inr ⟨arrived, fun number version isFound => ?_⟩
    rw [bounded, getVersion, read_eq, arrives, isFound]
    rfl

/-- After a revert the file's row and the older version's row describe the same blob. -/
theorem CommittedRevert.resolveIn_current
    (committed : CommittedRevert conditions fileId target before after receipt file source)
    (keyed : (before.tables.files.map FileRow.fileId).Nodup) (positive : 0 < target.toNat)
    {later : Conditions} {current : FileRecord} {between : World}
    (live : liveFile fileId later after = (.ok current, between)) :
    (∃ failure last,
        resolveIn current none later between = (.error failure, last) ∧
          resolveIn current (some target.toNat) later between = (.error failure, last)) ∨
      ∃ older newer last,
        resolveIn current none later between = (.ok newer, last) ∧
          resolveIn current (some target.toNat) later between = (.ok older, last) ∧
          newer.version = receipt.newVersion ∧ newer.path = older.path ∧
            newer.contentType = older.contentType ∧ newer.size = older.size := by
  have sameTables := (within_liveFile (onlyRead_allowsLookups later).queries fileId after).tables
  rw [live] at sameTables
  change between.tables = after.tables at sameTables
  obtain ⟨older, decoded⟩ := committed.readable
  obtain ⟨_, isSource⟩ := VersionRecord.toRow_eq_ok.1 (VersionRow.toRow_of_toRecord decoded)
  obtain ⟨newer, newerFound⟩ := committed.getVersion_new
  obtain ⟨row, isLive, currentDecoded⟩ :=
    Tables.getFile_eq_some.1 (getFile_of_liveFile live)
  rw [committed.liveFile?_eq_some keyed, Option.some.injEq] at isLive
  obtain ⟨_, isRow⟩ := FileRecord.toRow_eq_ok.1 (FileRow.toRow_of_toRecord currentDecoded)
  rw [← isLive, FileRow.mk.injEq] at isRow
  obtain ⟨isFile, -, -, -, sameType, sameSize, samePath, -, -, isNumber, -⟩ := isRow
  rw [isSource] at sameType sameSize samePath
  have sameFile : current.fileId = fileId :=
    isFile.symm.trans (Tables.mem_of_liveFile?_eq_some committed.live).2.1
  have number : current.currentVersion = receipt.newVersion :=
    (encodeNumber_injective isNumber).symm
  have isNewer : between.tables.getVersion current.fileId current.currentVersion =
      .ok (some newer) := by
    rw [sameTables, sameFile, number]
    exact newerFound
  have isOlder : between.tables.getVersion current.fileId target = .ok (some older) := by
    rw [sameTables, sameFile]
    exact committed.getVersion_target decoded
  have selects : resolveIn current (some (target.toNat : Int)) =
      resolveNumber current target.toNat := by
    rw [resolveIn, if_pos (Int.natCast_pos.2 positive)]
  rw [selects, resolveIn, resolveCurrent, resolveNumber, versionNumber?_toNat]
  simp only [VaultAction.bind_apply]
  rcases getVersion_fails_or_finds current.fileId later between with
    ⟨failure, lost, fails⟩ | ⟨arrived, finds⟩
  · rw [fails _ _ isNewer, fails _ _ isOlder]
    exact Or.inl ⟨failure, lost, rfl, rfl⟩
  · rw [finds _ _ isNewer, finds _ _ isOlder]
    exact Or.inr ⟨_, _, arrived, rfl, rfl, number, samePath.symm, sameType.symm,
      congrArg Int64.toUInt64 sameSize.symm⟩

/-- Downloading the current version after a revert is downloading the older one, but for
the number. -/
theorem CommittedRevert.download_current
    (committed : CommittedRevert conditions fileId target before after receipt file source)
    (keyed : (before.tables.files.map FileRow.fileId).Nodup) (positive : 0 < target.toNat)
    (later : Conditions) :
    download fileId none later after =
      match download fileId (some target.toNat) later after with
      | (.ok opened, last) => (.ok { opened with version := receipt.newVersion }, last)
      | (.error failure, last) => (.error failure, last) := by
  unfold download
  simp only [VaultAction.bind_apply]
  rcases live : liveFile fileId later after with ⟨failure | current, between⟩
  · rfl
  dsimp only
  rcases committed.resolveIn_current keyed positive live with
    ⟨failure, last, byRow, byNumber⟩ |
      ⟨older, newer, last, byRow, byNumber, number, path, contentType, size⟩
  · rw [byRow, byNumber]
  · rw [byRow, byNumber]
    dsimp only
    rw [path, contentType, size, number]
    rcases bounded .storageRead (openBlob older.path) later last with ⟨failure | stream, final⟩
    · rfl
    · rfl

end Downloads

/-! ## Whole reverts -/

theorem revert_of_not_positive {target : Int} (notPositive : target ≤ 0) :
    revert fileId target conditions before = (.error (.badVersion target), before) := by
  rw [revert, if_pos notPositive]
  rfl

theorem revert_of_tooLarge {target : Int} (tooLarge : 0x100000000 ≤ target) :
    revert fileId target conditions before = (.error (.noVersion target fileId), before) := by
  have positive : ¬ target ≤ 0 := by omega
  have noNumber : versionNumber? target = none := by
    rw [versionNumber?, if_neg (by omega)]
  rw [revert, if_neg positive, noNumber]
  rfl

theorem revert_toNat {number : UInt32} (positive : 0 < number.toNat) :
    revert fileId number.toNat = revertWithin fileId number (revertAttempts - 1) := by
  rw [revert, if_neg (by omega), versionNumber?_toNat]

/-- The calls of a revert to a version that a file can have. -/
theorem exists_revertCalls {number : UInt32} (positive : 0 < number.toNat)
    {outcome : Except VaultError RevertReceipt}
    (done : revert fileId number.toNat conditions before = (outcome, after)) :
    ∃ calls, calls ≤ 3 ∧ RevertCalls conditions fileId number calls before outcome after := by
  rw [revert_toNat positive] at done
  exact revertCalls_of_revertWithin _ done

/-- Targets that are no numbers of versions are refused before anything is asked. -/
theorem revert_of_no_number {target : Int}
    (noNumber : ¬ ∃ number : UInt32, target = number.toNat ∧ 0 < number.toNat) :
    ∃ failure, failure ≠ .overflow ∧
      revert fileId target conditions before = (.error failure, before) := by
  by_cases positive : 0 < target
  · refine ⟨_, VaultError.noConfusion, revert_of_tooLarge (Int.not_lt.1 fun below => noNumber ?_)⟩
    have same : (UInt32.ofNat target.toNat).toNat = target.toNat :=
      UInt32.toNat_ofNat_of_lt' (by rw [UInt32.size]; omega)
    exact ⟨UInt32.ofNat target.toNat, by omega, by omega⟩
  · exact ⟨_, VaultError.noConfusion, revert_of_not_positive (Int.not_lt.1 positive)⟩

/-- What every revert does, whatever its target, its deadline and the faults it meets: it
asks for its version at most three times, and it either adds one version, which the file
then describes and whose content is that of the target, or changes neither store.  Targets
that no version can have are refused as such.  Where the file has the largest number, the
next one is never asked for: the revert breaks off. -/
theorem revert_commits_once_or_nothing
    (conditions : Conditions) (fileId : String) (target : Int) (before : World)
    (keyed : (before.tables.files.map FileRow.fileId).Nodup) :
    (target ≤ 0 →
        revert fileId target conditions before = (.error (.badVersion target), before)) ∧
      (0x100000000 ≤ target →
        revert fileId target conditions before =
          (.error (.noVersion target fileId), before)) ∧
      (∀ number : UInt32, target = number.toNat → 0 < target →
        ∃ calls, calls ≤ 3 ∧
          RevertCalls conditions fileId number calls before
              (revert fileId target conditions before).1
              (revert fileId target conditions before).2 ∧
            (revert fileId target conditions before).2.callCount .appendVersion =
              before.callCount .appendVersion + calls) ∧
      ((revert fileId target conditions before).1 = .error .overflow →
        ∃ number file source, target = UInt32.toNat number ∧
          before.tables.Revertible fileId number file source ∧
            file.currentVersion = 0xFFFFFFFF) ∧
      (∀ number file source, target = UInt32.toNat number → 0 < target →
        before.tables.Revertible fileId number file source → file.currentVersion = 0xFFFFFFFF →
          ((revert fileId target conditions before).1 = .error .overflow ∨
              ∃ cause, (revert fileId target conditions before).1 =
                .error (.catalogRead cause)) ∧
            (revert fileId target conditions before).2.callCount .appendVersion =
              before.callCount .appendVersion) ∧
      match revert fileId target conditions before with
      | (.ok receipt, after) =>
          ∃ number file source,
            target = UInt32.toNat number ∧
              CommittedRevert conditions fileId number before after receipt file source ∧
                ∀ later,
                  download fileId none later after =
                    match download fileId (some target) later after with
                    | (.ok opened, last) =>
                        (.ok { opened with version := receipt.newVersion }, last)
                    | (.error failure, last) => (.error failure, last)
      | (.error _, after) => after.tables = before.tables ∧ after.blobs = before.blobs := by
  refine ⟨revert_of_not_positive, revert_of_tooLarge, ?_⟩
  by_cases named : ∃ number : UInt32, target = number.toNat ∧ 0 < number.toNat
  · obtain ⟨number, rfl, positive⟩ := named
    rcases done : revert fileId number.toNat conditions before with ⟨outcome, after⟩
    obtain ⟨calls, bound, made⟩ := exists_revertCalls positive done
    refine ⟨?_, fun brokeOff => ?_, ?_, ?_⟩
    · intro other same _
      obtain rfl : number = other := UInt32.toNat_inj.1 (Int.ofNat.inj same)
      exact ⟨calls, bound, made, made.callCount⟩
    · obtain ⟨file, source, revertible, largest⟩ := made.exists_largest brokeOff
      exact ⟨number, file, source, rfl, revertible, largest⟩
    · intro other file source same _ revertible largest
      obtain rfl : number = other := UInt32.toNat_inj.1 (Int.ofNat.inj same)
      obtain ⟨rfl, ends⟩ := made.of_largest revertible largest
      exact ⟨ends, made.callCount⟩
    · rcases outcome with failure | receipt
      · exact made.unchanged rfl
      · obtain ⟨sameBlobs, fileRecord, sourceRecord, next, revertible, rfl, appended⟩ :=
          made.appended rfl
        obtain ⟨file, source, committed⟩ :=
          committedRevert_of_appended keyed revertible appended sameBlobs
        exact ⟨number, file, source, rfl, committed, committed.download_current keyed positive⟩
  · have noNumber : ∀ number : UInt32, target = number.toNat → ¬ 0 < target :=
      fun number same positive => named ⟨number, same, by omega⟩
    obtain ⟨failure, notOverflow, refused⟩ := revert_of_no_number named
    rw [refused]
    refine ⟨fun number same positive => absurd positive (noNumber number same),
      fun brokeOff => absurd (Except.error.inj brokeOff) notOverflow,
      fun number _ _ same positive => absurd positive (noNumber number same), rfl, rfl⟩

/-- The vault after the first upload. -/
def storedVault : World :=
  (upload firstUpload (conditionsWith noFaults) (emptyVault .empty)).2

/-- Reverting the first upload to its only version adds its version 2. -/
theorem first_revert_commits_once :
    (storedVault.tables.files.map FileRow.fileId).Nodup ∧
      ∃ receipt after file source,
        revert (fileIdOf firstUpload.payload) 1 (conditionsWith noFaults) storedVault =
            (.ok receipt, after) ∧
          CommittedRevert (conditionsWith noFaults) (fileIdOf firstUpload.payload) 1
            storedVault after receipt file source ∧
          receipt.newVersion = 2 := by
  have keyed : (storedVault.tables.files.map FileRow.fileId).Nodup := by
    decide +kernel
  have outcome : (revert (fileIdOf firstUpload.payload) 1 (conditionsWith noFaults)
      storedVault).1.toOption.map RevertReceipt.newVersion = some 2 := by
    decide +kernel
  refine ⟨keyed, ?_⟩
  obtain ⟨_, _, _, _, _, committed⟩ := revert_commits_once_or_nothing (conditionsWith noFaults)
    (fileIdOf firstUpload.payload) 1 storedVault keyed
  rcases done : revert (fileIdOf firstUpload.payload) 1 (conditionsWith noFaults) storedVault with
    ⟨failure | receipt, after⟩
  · rw [done] at outcome
    cases outcome
  · rw [done] at committed outcome
    obtain ⟨number, file, source, isNumber, committed, _⟩ := committed
    have one : number = 1 := UInt32.toNat_inj.1 (Int.ofNat.inj isNumber.symm)
    rw [one] at committed
    exact ⟨receipt, after, file, source, rfl, committed, Option.some.inj outcome⟩

/-- The first upload as a file whose current version has the largest number. -/
def exhaustedFile : FileRecord :=
  { uploadedFile firstUpload "notes.md" firstMoment with currentVersion := 0xFFFFFFFF }

/-- A vault with the blob of the first upload, which is the version with the largest
number. -/
def exhaustedVault : World :=
  { storedVault with
    tables :=
      (Tables.empty.createFile exhaustedFile
        (.make exhaustedFile.fileId 0xFFFFFFFF exhaustedFile.size exhaustedFile.path
          exhaustedFile.contentType firstMoment initialCommitMessage)).2 }

/-- No number follows the largest one: a revert is not told that its version could not be
committed, it breaks off. -/
theorem largest_number_breaks_off :
    (exhaustedVault.tables.files.map FileRow.fileId).Nodup ∧
      ∃ file source,
        exhaustedVault.tables.Revertible (fileIdOf firstUpload.payload) 0xFFFFFFFF file source ∧
          file.currentVersion = 0xFFFFFFFF ∧
            (∀ cause, (revert (fileIdOf firstUpload.payload) 0xFFFFFFFF
              (conditionsWith noFaults) exhaustedVault).1 ≠ .error (.catalogWrite cause)) ∧
              (revert (fileIdOf firstUpload.payload) 0xFFFFFFFF (conditionsWith noFaults)
                exhaustedVault).1 = .error .overflow := by
  obtain ⟨keyed, current, known, brokeOff⟩ :
      (exhaustedVault.tables.files.map FileRow.fileId).Nodup ∧
        (exhaustedVault.tables.getFile (fileIdOf firstUpload.payload)).toOption.map
            (Option.map FileRecord.currentVersion) = some (some 0xFFFFFFFF) ∧
          (exhaustedVault.tables.getVersion (fileIdOf firstUpload.payload)
              0xFFFFFFFF).toOption.map (Option.map VersionRecord.number) =
            some (some 0xFFFFFFFF) ∧
          (revert (fileIdOf firstUpload.payload) 0xFFFFFFFF (conditionsWith noFaults)
              exhaustedVault).1.map RevertReceipt.newVersion =
            .error .overflow := by
    decide +kernel
  rcases live : exhaustedVault.tables.getFile (fileIdOf firstUpload.payload) with
    failure | _ | file
  · rw [live] at current
    cases current
  · rw [live] at current
    cases current
  rcases found : exhaustedVault.tables.getVersion (fileIdOf firstUpload.payload) 0xFFFFFFFF with
    failure | _ | source
  · rw [found] at known
    cases known
  · rw [found] at known
    cases known
  rw [live] at current
  have largest : file.currentVersion = 0xFFFFFFFF := Option.some.inj (Option.some.inj current)
  rcases done : revert (fileIdOf firstUpload.payload) 0xFFFFFFFF (conditionsWith noFaults)
    exhaustedVault with ⟨failure | receipt, after⟩
  · rw [done] at brokeOff
    have isOverflow : failure = .overflow := Except.error.inj brokeOff
    subst isOverflow
    exact ⟨keyed, file, source, ⟨live, found⟩, largest, nofun, rfl⟩
  · rw [done] at brokeOff
    cases brokeOff

end Vault

end ContentVault
