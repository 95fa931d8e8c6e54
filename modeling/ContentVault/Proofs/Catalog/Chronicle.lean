import ContentVault.Proofs.Catalog.History
import ContentVault.Vault.Upload
import Mathlib.Data.List.Nodup

/-!
# The history of a catalog

What a log of the accepted changes tells about the tables that they led to.

* the versions of a file are numbered from the number with which it was registered
  up to its current version, without a gap and without a repetition;
* of all appended versions of one file that expected the same current version, at
  most one was accepted;
* a file that agreed with its first version agrees with its current one.
-/

namespace ContentVault

/-! ## Numbers without gaps -/

/-- The stored numbers from one version to another. -/
def numbersThrough (first last : UInt32) : List Int64 :=
  (List.range' first.toNat (last.toNat + 1 - first.toNat)).map Int64.ofNat

theorem numbersThrough_next {first current next : UInt32}
    (started : first.toNat ≤ current.toNat) (follows : current.toNat + 1 = next.toNat) :
    numbersThrough first next = numbersThrough first current ++ [encodeNumber next] := by
  have count : next.toNat + 1 - first.toNat = (current.toNat + 1 - first.toNat) + 1 := by
    omega
  have last : first.toNat + (current.toNat + 1 - first.toNat) = next.toNat := by
    omega
  rw [numbersThrough, count, List.range'_1_concat, List.map_append, last]
  rfl

theorem numbersThrough_self (first : UInt32) :
    numbersThrough first first = [encodeNumber first] := by
  rw [numbersThrough, Nat.add_sub_cancel_left]
  rfl

theorem lt_of_mem_numbersThrough {first last : UInt32} {number : Int64}
    (member : number ∈ numbersThrough first last) :
    number.toInt ≤ last.toNat := by
  obtain ⟨value, inRange, rfl⟩ := List.mem_map.1 member
  have bound := last.toNat_lt
  rw [List.mem_range'_1] at inRange
  rw [Int64.toInt_ofNat_of_lt (by omega)]
  omega

/-! ## Logs that explain tables -/

/-- A log of accepted changes explains a file: it was registered once, as `file`
with `version`, and then brought to the version `current` one number at a time. -/
structure Recorded (log : List CatalogChange) (tables : Tables) (row : FileRow)
    (file : FileRecord) (version : VersionRecord) (current : UInt32) : Prop where
  created : log.filter (·.creates row.fileId) = [.createFile file version]
  started : file.currentVersion.toNat ≤ current.toNat
  reached : row.currentVersion = encodeNumber current
  numbers :
    (tables.historyOf row.fileId).map VersionRow.number =
      numbersThrough file.currentVersion current
  superseded : ∀ expected : UInt32,
    log.countP (·.appends row.fileId expected) ≠ 0 → expected.toNat < current.toNat
  acceptedOnce : ∀ expected, log.countP (·.appends row.fileId expected) ≤ 1
  agrees :
    file.path = version.path → file.size = version.size →
      file.contentType = version.contentType →
        ∀ stored ∈ tables.historyOf row.fileId,
          stored.number = row.currentVersion → stored.revision = row.revision

/-- A log of accepted changes explains the tables. -/
structure Chronicle (log : List CatalogChange) (tables : Tables) : Prop where
  unique : (tables.files.map FileRow.fileId).Nodup
  unknown : ∀ fileId, tables.hasFile fileId = false →
    tables.historyOf fileId = [] ∧ log.filter (·.creates fileId) = [] ∧
      ∀ expected, log.countP (·.appends fileId expected) = 0
  known : ∀ row ∈ tables.files, ∃ file version current,
    Recorded log tables row file version current

/-- What explains a file explains it as long as nothing about it changes. -/
theorem Recorded.transfer
    {log longer : List CatalogChange} {before after : Tables} {row later : FileRow}
    {file : FileRecord} {version : VersionRecord} {current : UInt32}
    (recorded : Recorded log before row file version current)
    (sameRevision : later.revision = row.revision)
    (sameCreated :
      longer.filter (·.creates row.fileId) = log.filter (·.creates row.fileId))
    (sameAppended : ∀ expected,
      longer.countP (·.appends row.fileId expected) =
        log.countP (·.appends row.fileId expected))
    (sameHistory : after.historyOf row.fileId = before.historyOf row.fileId) :
    Recorded longer after later file version current := by
  have sameFile : later.fileId = row.fileId := congrArg Revision.fileId sameRevision
  have sameNumber : later.currentVersion = row.currentVersion :=
    congrArg Revision.number sameRevision
  constructor
  · rw [sameFile, sameCreated]
    exact recorded.created
  · exact recorded.started
  · rw [sameNumber]
    exact recorded.reached
  · rw [sameFile, sameHistory]
    exact recorded.numbers
  · rw [sameFile]
    intro expected
    rw [sameAppended]
    exact recorded.superseded expected
  · rw [sameFile]
    intro expected
    rw [sameAppended]
    exact recorded.acceptedOnce expected
  · rw [sameFile, sameHistory, sameNumber, sameRevision]
    exact recorded.agrees

/-- A file that was just registered is explained by that. -/
theorem Recorded.of_created
    {log : List CatalogChange} {before after : Tables} {file : FileRecord}
    {version : VersionRecord} {fileRow : FileRow} {versionRow : VersionRow}
    (sameFile : version.fileId = file.fileId)
    (sameNumber : version.number = file.currentVersion)
    (fileEncoded : file.toRow = .ok fileRow) (versionEncoded : version.toRow = .ok versionRow)
    (added : after.versions = before.versions ++ [versionRow])
    (noHistory : before.historyOf file.fileId = [])
    (notCreated : log.filter (·.creates file.fileId) = [])
    (notAppended : ∀ expected, log.countP (·.appends file.fileId expected) = 0) :
    Recorded (log ++ [.createFile file version]) after fileRow file version
      file.currentVersion := by
  obtain ⟨_, rfl⟩ := FileRecord.toRow_eq_ok.1 fileEncoded
  obtain ⟨_, rfl⟩ := VersionRecord.toRow_eq_ok.1 versionEncoded
  have history := Tables.historyOf_of_added added
  rw [sameFile, noHistory, List.nil_append] at history
  have sameAppended : ∀ expected,
      (log ++ [CatalogChange.createFile file version]).countP
        (·.appends file.fileId expected) = 0 := by
    intro expected
    rw [List.countP_append, notAppended]
    rfl
  constructor
  · rw [List.filter_append, notCreated]
    simp [CatalogChange.creates]
  · exact Nat.le_refl _
  · rfl
  · rw [history, numbersThrough_self, ← sameNumber]
    rfl
  · intro expected accepted
    exact absurd (sameAppended expected) accepted
  · intro expected
    rw [sameAppended]
    exact Nat.zero_le 1
  · intro samePath sameSize sameType stored member _
    rw [history, List.mem_singleton] at member
    subst member
    simp [VersionRow.revision, FileRow.revision, sameNumber, samePath, sameSize, sameType]

/-- A file that got another version stays explained. -/
theorem Recorded.append
    {log : List CatalogChange} {before after : Tables} {old later : FileRow}
    {file : FileRecord} {first version : VersionRecord} {current : UInt32} {row : VersionRow}
    (recorded : Recorded log before old file first current)
    (sameFile : old.fileId = version.fileId)
    (follows : current.toNat + 1 = version.number.toNat)
    (encoded : version.toRow = .ok row)
    (added : after.versions = before.versions ++ [row])
    (bumped : later.revision = row.revision) :
    Recorded (log ++ [.appendVersion version current]) after later file first
      version.number := by
  obtain ⟨_, rfl⟩ := VersionRecord.toRow_eq_ok.1 encoded
  have laterFile : later.fileId = version.fileId := congrArg Revision.fileId bumped
  have laterNumber : later.currentVersion = encodeNumber version.number :=
    congrArg Revision.number bumped
  have history := Tables.historyOf_of_added added
  have started := recorded.started
  have appended : ∀ expected,
      (log ++ [CatalogChange.appendVersion version current]).countP
          (·.appends version.fileId expected) =
        log.countP (·.appends version.fileId expected) +
          if current = expected then 1 else 0 := by
    intro expected
    simp [CatalogChange.appends]
  have created := recorded.created
  have numbers := recorded.numbers
  have superseded := recorded.superseded
  have acceptedOnce := recorded.acceptedOnce
  rw [sameFile] at created numbers superseded acceptedOnce
  constructor
  · rw [laterFile]
    simpa [CatalogChange.creates] using created
  · omega
  · exact laterNumber
  · rw [laterFile, history, List.map_append, numbers, numbersThrough_next started follows]
    rfl
  · intro expected accepted
    rw [laterFile, appended] at accepted
    by_cases last : current = expected
    · rw [← last]
      omega
    · rw [if_neg last, Nat.add_zero] at accepted
      have earlier := superseded expected accepted
      omega
  · intro expected
    rw [laterFile, appended]
    by_cases last : current = expected
    · -- Until now the current version was the newest one, so nobody can have expected it.
      have unused : log.countP (·.appends version.fileId expected) = 0 := by
        by_contra accepted
        have earlier := superseded expected accepted
        rw [last] at earlier
        omega
      simp [last, unused]
    · rw [if_neg last]
      exact acceptedOnce expected
  · intro _ _ _ stored member isCurrent
    rw [laterFile, history, List.mem_append, List.mem_singleton] at member
    rcases member with oldMember | rfl
    · have known := List.mem_map_of_mem (f := VersionRow.number) oldMember
      have bound := lt_of_mem_numbersThrough (numbers ▸ known)
      rw [isCurrent, laterNumber, toInt_encodeNumber] at bound
      omega
    · exact bumped.symm

namespace Chronicle

variable {log : List CatalogChange} {before after : Tables} {change : CatalogChange}

theorem empty : Chronicle [] Tables.empty := by
  refine ⟨List.nodup_nil, ?_, ?_⟩
  · intro fileId _
    exact ⟨rfl, rfl, fun _ => rfl⟩
  · intro row member
    cases member

theorem append_kept
    (chronicle : Chronicle log before) (same : before.SameHistory after)
    (createsNothing : ∀ fileId, change.creates fileId = false)
    (appendsNothing : ∀ fileId expected, change.appends fileId expected = false) :
    Chronicle (log ++ [change]) after := by
  have sameCreated : ∀ fileId,
      (log ++ [change]).filter (·.creates fileId) = log.filter (·.creates fileId) := by
    intro fileId
    simp [createsNothing]
  have sameAppended : ∀ fileId expected,
      (log ++ [change]).countP (·.appends fileId expected) =
        log.countP (·.appends fileId expected) := by
    intro fileId expected
    simp [appendsNothing]
  have sameHistory : ∀ fileId, after.historyOf fileId = before.historyOf fileId := by
    intro fileId
    rw [Tables.historyOf, Tables.historyOf, same.1]
  constructor
  · rw [same.fileIds_eq]
    exact chronicle.unique
  · intro fileId new
    rw [Tables.hasFile_of_map_fileId same.fileIds_eq] at new
    obtain ⟨noHistory, notCreated, notAppended⟩ := chronicle.unknown fileId new
    refine ⟨?_, ?_, fun expected => ?_⟩
    · rw [sameHistory, noHistory]
    · rw [sameCreated, notCreated]
    · rw [sameAppended, notAppended]
  · intro row member
    obtain ⟨old, oldMember, sameRevision⟩ := same.exists_before member
    obtain ⟨file, version, current, recorded⟩ := chronicle.known old oldMember
    exact ⟨file, version, current, recorded.transfer sameRevision.symm (sameCreated _)
      (sameAppended _) (sameHistory _)⟩

theorem append_created
    (chronicle : Chronicle log before) {file : FileRecord} {version : VersionRecord}
    {fileRow : FileRow} {versionRow : VersionRow}
    (sameFile : version.fileId = file.fileId)
    (sameNumber : version.number = file.currentVersion)
    (fileEncoded : file.toRow = .ok fileRow) (versionEncoded : version.toRow = .ok versionRow)
    (new : before.hasFile file.fileId = false)
    (addedFile : after.files = before.files ++ [fileRow])
    (addedVersion : after.versions = before.versions ++ [versionRow]) :
    Chronicle (log ++ [.createFile file version]) after := by
  have fileRowId : fileRow.fileId = file.fileId := by
    obtain ⟨_, rfl⟩ := FileRecord.toRow_eq_ok.1 fileEncoded
    rfl
  have versionRowId : versionRow.fileId = file.fileId := by
    obtain ⟨_, rfl⟩ := VersionRecord.toRow_eq_ok.1 versionEncoded
    exact sameFile
  have absent := Tables.hasFile_eq_false_iff.1 new
  have otherCreated : ∀ fileId, file.fileId ≠ fileId →
      (log ++ [CatalogChange.createFile file version]).filter (·.creates fileId) =
        log.filter (·.creates fileId) := by
    intro fileId other
    simp [CatalogChange.creates, other]
  have sameAppended : ∀ fileId expected,
      (log ++ [CatalogChange.createFile file version]).countP (·.appends fileId expected) =
        log.countP (·.appends fileId expected) := by
    intro fileId expected
    simp [CatalogChange.appends]
  have otherHistory : ∀ fileId, file.fileId ≠ fileId →
      after.historyOf fileId = before.historyOf fileId := by
    intro fileId other
    exact Tables.historyOf_of_other addedVersion (versionRowId ▸ other)
  constructor
  · rw [addedFile, List.map_append, List.map_singleton, fileRowId, List.nodup_append]
    refine ⟨chronicle.unique, List.nodup_singleton _, ?_⟩
    intro fileId member other otherMember same
    obtain ⟨row, rowMember, rfl⟩ := List.mem_map.1 member
    rw [List.mem_singleton] at otherMember
    exact absent row rowMember (same.trans otherMember)
  · intro fileId stillNew
    rw [Tables.hasFile_eq_false_iff, addedFile] at stillNew
    have other : file.fileId ≠ fileId := fileRowId ▸ stillNew fileRow (by simp)
    have newBefore : before.hasFile fileId = false :=
      Tables.hasFile_eq_false_iff.2 fun row member =>
        stillNew row (List.mem_append_left _ member)
    obtain ⟨noHistory, notCreated, notAppended⟩ := chronicle.unknown fileId newBefore
    refine ⟨?_, ?_, fun expected => ?_⟩
    · rw [otherHistory fileId other, noHistory]
    · rw [otherCreated fileId other, notCreated]
    · rw [sameAppended, notAppended]
  · intro row member
    rw [addedFile, List.mem_append, List.mem_singleton] at member
    rcases member with oldMember | rfl
    · have other : file.fileId ≠ row.fileId := (absent row oldMember).symm
      obtain ⟨first, firstVersion, current, recorded⟩ := chronicle.known row oldMember
      exact ⟨first, firstVersion, current, recorded.transfer rfl (otherCreated _ other)
        (sameAppended _) (otherHistory _ other)⟩
    · obtain ⟨noHistory, notCreated, notAppended⟩ := chronicle.unknown file.fileId new
      exact ⟨file, version, file.currentVersion,
        Recorded.of_created sameFile sameNumber fileEncoded versionEncoded addedVersion
          noHistory notCreated notAppended⟩

theorem append_appended
    (chronicle : Chronicle log before) {version : VersionRecord} {expected : UInt32}
    {bumped : FileRow} {row : VersionRow}
    (follows : expected.toNat + 1 = version.number.toNat)
    (encoded : version.toRow = .ok row)
    (member : bumped ∈ before.files) (sameFile : bumped.fileId = version.fileId)
    (live : bumped.trashedAt = none) (isCurrent : bumped.currentVersion = encodeNumber expected)
    (changed : after.files = (before.bumpVersion row (encodeNumber expected)).2.files)
    (added : after.versions = before.versions ++ [row]) :
    Chronicle (log ++ [.appendVersion version expected]) after := by
  have rowFile : row.fileId = version.fileId := by
    obtain ⟨_, rfl⟩ := VersionRecord.toRow_eq_ok.1 encoded
    rfl
  have sameIds : after.files.map FileRow.fileId = before.files.map FileRow.fileId := by
    rw [changed]
    exact Tables.bumpVersion_fileIds before row (encodeNumber expected)
  have sameCreated : ∀ fileId,
      (log ++ [CatalogChange.appendVersion version expected]).filter (·.creates fileId) =
        log.filter (·.creates fileId) := by
    intro fileId
    simp [CatalogChange.creates]
  have otherAppended : ∀ fileId, version.fileId ≠ fileId → ∀ read,
      (log ++ [CatalogChange.appendVersion version expected]).countP (·.appends fileId read) =
        log.countP (·.appends fileId read) := by
    intro fileId other read
    simp [CatalogChange.appends, other]
  have otherHistory : ∀ fileId, version.fileId ≠ fileId →
      after.historyOf fileId = before.historyOf fileId := by
    intro fileId other
    exact Tables.historyOf_of_other added (rowFile ▸ other)
  constructor
  · rw [sameIds]
    exact chronicle.unique
  · intro fileId new
    rw [Tables.hasFile_of_map_fileId sameIds] at new
    have other : version.fileId ≠ fileId :=
      sameFile ▸ Tables.hasFile_eq_false_iff.1 new bumped member
    obtain ⟨noHistory, notCreated, notAppended⟩ := chronicle.unknown fileId new
    refine ⟨?_, ?_, fun read => ?_⟩
    · rw [otherHistory fileId other, noHistory]
    · rw [sameCreated, notCreated]
    · rw [otherAppended fileId other, notAppended]
  · intro later laterMember
    rw [changed, Tables.bumpVersion, Tables.mem_updateLive] at laterMember
    obtain ⟨old, oldMember, rfl⟩ := laterMember
    obtain ⟨file, first, current, recorded⟩ := chronicle.known old oldMember
    by_cases other : version.fileId = old.fileId
    · -- There is only one row of the file, and that is the row that was found current.
      have same : old = bumped :=
        List.inj_on_of_nodup_map chronicle.unique oldMember member (other.symm.trans sameFile.symm)
      subst same
      have wasCurrent : current = expected :=
        encodeNumber_injective (recorded.reached.symm.trans isCurrent)
      subst wasCurrent
      rw [if_pos ⟨sameFile.trans rowFile.symm, live, decide_eq_true isCurrent⟩]
      refine ⟨file, first, version.number,
        recorded.append sameFile follows encoded added ?_⟩
      simp [FileRow.revision, VersionRow.revision, sameFile, rowFile]
    · rw [if_neg fun hit => other (rowFile.symm.trans hit.1.symm)]
      exact ⟨file, first, current, recorded.transfer rfl (sameCreated _)
        (otherAppended _ other) (otherHistory _ other)⟩

/-- A change that succeeds leads to tables that the longer log explains. -/
theorem append_effect (chronicle : Chronicle log before)
    (effect : change.Effect before after) :
    Chronicle (log ++ [change]) after := by
  cases effect with
  | kept same createsNothing appendsNothing =>
      exact chronicle.append_kept same createsNothing appendsNothing
  | created sameFile sameNumber fileEncoded versionEncoded new =>
      exact chronicle.append_created sameFile sameNumber fileEncoded versionEncoded new rfl rfl
  | appended follows encoded member sameFile live current =>
      exact chronicle.append_appended follows encoded member sameFile live current rfl rfl

end Chronicle

/-! ## Runs -/

namespace CatalogChange

/-- The changes that a run accepts explain the tables that it leads to. -/
theorem chronicle_run
    (changes : List CatalogChange) {log : List CatalogChange} {tables : Tables}
    (chronicle : Chronicle log tables) :
    Chronicle (log ++ (run changes tables).1) (run changes tables).2 := by
  induction changes generalizing log tables with
  | nil =>
      rw [run, List.append_nil]
      exact chronicle
  | cons change rest inductionHypothesis =>
      rw [run]
      rcases outcome : change.perform tables with ⟨failure | _, changed⟩
      · rw [perform_of_error outcome]
        exact inductionHypothesis chronicle
      · have step := chronicle.append_effect (effect_of_perform outcome)
        have whole := inductionHypothesis step
        rw [List.append_assoc] at whole
        exact whole

end CatalogChange

section Consequences

variable {log : List CatalogChange} {tables : Tables} {row : FileRow}
  {file : FileRecord} {version : VersionRecord} {current : UInt32}

/-- Every version belongs to a registered file. -/
theorem Chronicle.hasFile_of_mem_versions (chronicle : Chronicle log tables)
    {stored : VersionRow} (member : stored ∈ tables.versions) :
    tables.hasFile stored.fileId = true := by
  by_contra orphan
  have noHistory := (chronicle.unknown stored.fileId (Bool.eq_false_iff.2 orphan)).1
  have isThere : stored ∈ tables.historyOf stored.fileId :=
    List.mem_filter.2 ⟨member, decide_eq_true rfl⟩
  rw [noHistory] at isThere
  cases isThere

/-- The row of a file's current version is there, and it is the only one with its
number. -/
theorem Recorded.version?_eq_some
    (recorded : Recorded log tables row file version current) :
    ∃ stored ∈ tables.historyOf row.fileId,
      tables.version? row.fileId row.currentVersion = some stored ∧
        stored.number = row.currentVersion := by
  have isNumber : row.currentVersion ∈
      (tables.historyOf row.fileId).map VersionRow.number := by
    rw [recorded.numbers, recorded.reached]
    have started := recorded.started
    refine List.mem_map.2 ⟨current.toNat, ?_, rfl⟩
    rw [List.mem_range'_1]
    omega
  obtain ⟨stored, member, sameNumber⟩ := List.mem_map.1 isNumber
  obtain ⟨isVersion, sameFile⟩ := List.mem_filter.1 member
  have found : (tables.version? row.fileId row.currentVersion).isSome = true := by
    refine List.find?_isSome.2 ⟨stored, isVersion, ?_⟩
    simp [of_decide_eq_true sameFile, sameNumber]
  obtain ⟨first, isFirst⟩ := Option.isSome_iff_exists.1 found
  have satisfies := List.find?_some isFirst
  simp only [Bool.and_eq_true, decide_eq_true_eq] at satisfies
  exact ⟨first,
    List.mem_filter.2 ⟨List.mem_of_find?_eq_some isFirst, decide_eq_true satisfies.1⟩,
    isFirst, satisfies.2⟩

end Consequences

/-- What every run of changes from the empty tables does to the history of files:
the numbers of a file's versions are gapless, versions stay as they were added, the
current version never goes back, no current version is superseded twice, and a file
that agreed with its first version agrees with its current one. -/
theorem CatalogChange.gapless_history_of_run (changes later : List CatalogChange) :
    let accepted := (run changes Tables.empty).1
    let reached := (run changes Tables.empty).2
    let afterwards := (run later reached).2
    (reached.files.map FileRow.fileId).Nodup ∧
      (∀ stored ∈ reached.versions, reached.hasFile stored.fileId = true) ∧
      (∀ row ∈ reached.files, ∃ file version current,
        accepted.filter (·.creates row.fileId) = [.createFile file version] ∧
          row.currentVersion = encodeNumber current ∧
          file.currentVersion.toNat ≤ current.toNat ∧
          (reached.historyOf row.fileId).map VersionRow.number =
            (List.range' file.currentVersion.toNat
              (current.toNat + 1 - file.currentVersion.toNat)).map Int64.ofNat ∧
          ((∃ request fileName now, file = Vault.uploadedFile request fileName now) →
            (reached.historyOf row.fileId).map VersionRow.number =
              (List.range' 1 current.toNat).map Int64.ofNat) ∧
          (file.path = version.path → file.size = version.size →
            file.contentType = version.contentType →
              ∃ stored, reached.version? row.fileId row.currentVersion = some stored ∧
                stored.path = row.path ∧ stored.size = row.size ∧
                  stored.contentType = row.contentType)) ∧
      reached.versions <+: afterwards.versions ∧
      (∀ row ∈ reached.files, ∃ next ∈ afterwards.files,
        next.fileId = row.fileId ∧
          row.currentVersion.toInt ≤ next.currentVersion.toInt) ∧
      (∀ fileId expected, accepted.countP (·.appends fileId expected) ≤ 1) := by
  intro accepted reached afterwards
  have chronicle : Chronicle accepted reached := chronicle_run changes Chronicle.empty
  have extended : reached.Extends afterwards := extends_run later reached
  refine ⟨chronicle.unique, fun stored member => chronicle.hasFile_of_mem_versions member,
    ?_, extended.versions, extended.files, ?_⟩
  · intro row member
    obtain ⟨file, version, current, recorded⟩ := chronicle.known row member
    refine ⟨file, version, current, recorded.created, recorded.reached, recorded.started,
      recorded.numbers, ?_, ?_⟩
    · rintro ⟨request, fileName, now, rfl⟩
      exact recorded.numbers
    · intro samePath sameSize sameType
      obtain ⟨stored, isStored, found, isCurrent⟩ := recorded.version?_eq_some
      have agrees := recorded.agrees samePath sameSize sameType stored isStored isCurrent
      exact ⟨stored, found, congrArg Revision.path agrees, congrArg Revision.size agrees,
        congrArg Revision.contentType agrees⟩
  · intro fileId expected
    by_cases known : reached.hasFile fileId = true
    · obtain ⟨row, member, rfl⟩ := Tables.hasFile_eq_true_iff.1 known
      obtain ⟨file, version, current, recorded⟩ := chronicle.known row member
      exact recorded.acceptedOnce expected
    · have never := (chronicle.unknown fileId (Bool.eq_false_iff.2 known)).2.2 expected
      rw [never]
      exact Nat.zero_le 1

end ContentVault
