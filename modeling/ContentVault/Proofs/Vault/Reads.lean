import ContentVault.Proofs.Vault.Download
import ContentVault.Proofs.Vault.FileHistory
import ContentVault.Proofs.Vault.Pages

/-!
# All ways of reading agree

In every state that a run of operations reaches from empty tables, and without faults,

* the history of a live file, its versions, its description and its downloads tell the same
  about each of its versions;
* the current version is the same whether the row of the file or that of the version is asked;
* a listing describes the file as it describes itself;
* a download has as many bytes as it announces.
-/

namespace ContentVault

open World StoreRequest

/-! ## Operations that leave no trace -/

/-- Two states with the same stores at the same time. -/
structure World.SameStores (before after : World) : Prop where
  tables : after.tables = before.tables
  blobs : after.blobs = before.blobs
  clock : after.clock = before.clock

namespace VaultAction

variable {α β : Type} {conditions : Conditions} {world : World}

/-- What an operation answers. -/
def answer (action : VaultAction α) (conditions : Conditions) (world : World) :
    Except VaultError α :=
  (action conditions world).1

/-- Wherever the stores and the time are as in a state, an operation has the same outcome and
leaves them as they are. -/
def Yields (action : VaultAction α) (conditions : Conditions) (world : World)
    (outcome : Except VaultError α) : Prop :=
  ∀ before, world.SameStores before →
    ∃ after, action conditions before = (outcome, after) ∧ world.SameStores after

namespace Yields

theorem answer_eq {action : VaultAction α} {outcome : Except VaultError α}
    (yields : action.Yields conditions world outcome) :
    action.answer conditions world = outcome := by
  obtain ⟨after, done, _⟩ := yields world ⟨rfl, rfl, rfl⟩
  rw [answer, done]

theorem pure (value : α) :
    Yields (Pure.pure value : VaultAction α) conditions world (.ok value) :=
  fun before same => ⟨before, rfl, same⟩

theorem throw (failure : VaultError) :
    Yields (MonadExcept.throw failure : VaultAction α) conditions world (.error failure) :=
  fun before same => ⟨before, rfl, same⟩

theorem bind {first : VaultAction α} {next : α → VaultAction β} {value : α}
    {outcome : Except VaultError β} (firstYields : first.Yields conditions world (.ok value))
    (nextYields : (next value).Yields conditions world outcome) :
    Yields (first >>= next) conditions world outcome := by
  intro before same
  obtain ⟨between, done, stillSame⟩ := firstYields before same
  rw [bind_apply, done]
  exact nextYields between stillSame

theorem bind_of_error {first : VaultAction α} {next : α → VaultAction β} {failure : VaultError}
    (firstYields : first.Yields conditions world (.error failure)) :
    Yields (first >>= next) conditions world (.error failure) := by
  intro before same
  obtain ⟨between, done, stillSame⟩ := firstYields before same
  rw [bind_apply, done]
  exact ⟨between, rfl, stillSame⟩

/-- Without faults the catalog answers at once. -/
theorem query (raise : StoreFailure → VaultError) (call : CatalogCall)
    {run : Tables → Except CatalogError α} {value : α}
    (faultless : conditions.faults = noFaults) (answered : run world.tables = .ok value) :
    Yields (Vault.bounded raise (StoreRequest.read call run)) conditions world (.ok value) := by
  intro before same
  refine ⟨before.record (.catalog call), ?_, same.tables, same.blobs, same.clock⟩
  rw [bounded_eq_ok]
  unfold StoreRequest.read change toCatalog
  rw [faultless]
  change (((run before.tables).mapError StoreFailure.catalog), _) = _
  rw [same.tables, answered]
  rfl

end Yields

end VaultAction

/-! ## Reading the history of a file -/

/-- A version as a selector resolves to it. -/
def VersionRecord.resolved (version : VersionRecord) : Resolved where
  version := version.number
  path := version.path
  contentType := version.contentType
  size := version.size
  commitMessage := version.commitMessage

/-- A version as the history of its file lists it. -/
def VersionRecord.info (version : VersionRecord) (current : UInt32) : VersionInfo where
  version := version.number
  size := version.size
  contentType := version.contentType
  createdAt := version.createdAt
  commitMessage := version.commitMessage
  isCurrent := version.number == current

namespace Vault

/-- The number that a selector asks for: that of the current version unless it is positive. -/
def wantedNumber (file : FileRecord) : Option Int → Int
  | none => file.currentVersion.toNat
  | some number => if 0 < number then number else file.currentVersion.toNat

/-- What a selector resolves to among the versions of a file. -/
def resolution (file : FileRecord) (versions : List VersionRecord) (selector : Option Int) :
    Except VaultError Resolved :=
  match versions.find? fun version => (version.number.toNat : Int) = wantedNumber file selector with
  | some version => .ok version.resolved
  | none => .error (.noVersion (wantedNumber file selector) file.fileId)

theorem resolveIn_cases (file : FileRecord) (selector : Option Int) :
    (resolveIn file selector = resolveCurrent file ∧
        wantedNumber file selector = file.currentVersion.toNat) ∨
      ∃ number, resolveIn file selector = resolveNumber file number ∧
        wantedNumber file selector = number := by
  cases selector with
  | none =>
      exact Or.inl ⟨rfl, rfl⟩
  | some number =>
      by_cases positive : 0 < number
      · exact Or.inr ⟨number, if_pos positive, if_pos positive⟩
      · exact Or.inl ⟨if_neg positive, if_neg positive⟩

variable {conditions : Conditions} {world : World} {file : FileRecord}
  {versions : List VersionRecord} {version : VersionRecord} {number : Int}

section History

variable (history : world.tables.HasHistory file versions)
  (faultless : conditions.faults = noFaults)

include history faultless

theorem yields_liveFile : (liveFile file.fileId).Yields conditions world (.ok file) :=
  .bind (.query .catalogRead .getFile faultless history.live) (.pure file)

theorem yields_versions :
    (Vault.versions file.fileId).Yields conditions world
      (.ok (versions.map fun version => version.info file.currentVersion)) :=
  .bind (yields_liveFile history faultless)
    (.bind (.query .catalogRead .listVersions faultless history.listed) (.pure _))

theorem yields_resolveNumber (member : version ∈ versions)
    (stands : versionNumber? number = some version.number) :
    (resolveNumber file number).Yields conditions world (.ok version.resolved) := by
  unfold resolveNumber
  rw [stands]
  exact .bind (.query .catalogRead .getVersion faultless (history.found version member)) (.pure _)

theorem yields_resolveNumber_of_absent
    (absent : ∀ version ∈ versions, (version.number.toNat : Int) ≠ number) :
    (resolveNumber file number).Yields conditions world
      (.error (.noVersion number file.fileId)) := by
  unfold resolveNumber
  rcases stands : versionNumber? number with _ | wanted
  · exact .throw _
  · have isWanted := toNat_of_versionNumber? stands
    have nothing := history.absent wanted fun version member same =>
      absent version member (same ▸ isWanted)
    exact .bind (.query .catalogRead .getVersion faultless nothing) (.throw _)

/-- The row of a file resolves to what the row of its current version says. -/
theorem yields_resolveCurrent (member : version ∈ versions)
    (isCurrent : version.number = file.currentVersion) :
    (resolveCurrent file).Yields conditions world (.ok version.resolved) := by
  obtain ⟨other, isListed, atCurrent, samePath, sameType, sameSize⟩ := history.current
  have found := history.found version member
  have same : other = version :=
    history.eq_of_number isListed member (atCurrent.trans isCurrent.symm)
  rw [same] at samePath sameType sameSize
  rw [isCurrent] at found
  have told :
      (⟨file.currentVersion, file.path, file.contentType, file.size,
        ((some version).map VersionRecord.commitMessage).getD ""⟩ : Resolved) =
        version.resolved := by
    rw [← isCurrent, ← samePath, ← sameType, ← sameSize]
    rfl
  rw [← told]
  exact .bind (.query .catalogRead .getVersion faultless found) (.pure _)

/-- What a selector resolves to, by the history of the file. -/
theorem yields_resolveIn (selector : Option Int) :
    (resolveIn file selector).Yields conditions world (resolution file versions selector) := by
  unfold resolution
  rcases resolveIn_cases file selector with ⟨isResolve, isWanted⟩ | ⟨number, isResolve, isWanted⟩
  · rw [isResolve, isWanted]
    rcases found : versions.find? fun version =>
      (version.number.toNat : Int) = file.currentVersion.toNat with _ | version
    · obtain ⟨version, isListed, atCurrent, _⟩ := history.current
      refine absurd (List.find?_eq_none.1 found version isListed) (not_not.2 ?_)
      rw [atCurrent]
      exact decide_eq_true rfl
    · have atCurrent := of_decide_eq_true (List.find?_some found :)
      rw [found]
      exact yields_resolveCurrent history faultless (List.mem_of_find?_eq_some found)
        (UInt32.toNat_inj.1 (Int.ofNat.inj atCurrent))
  · rw [isResolve, isWanted]
    rcases found : versions.find? fun version => (version.number.toNat : Int) = number with
      _ | version
    · rw [found]
      refine yields_resolveNumber_of_absent history faultless fun version isListed same => ?_
      exact List.find?_eq_none.1 found version isListed (decide_eq_true same)
    · have isNumber := of_decide_eq_true (List.find?_some found :)
      rw [found]
      refine yields_resolveNumber history faultless (List.mem_of_find?_eq_some found) ?_
      rw [← isNumber, versionNumber?_toNat]

theorem yields_resolve (selector : Option Int) :
    (resolve file.fileId selector).Yields conditions world (resolution file versions selector) :=
  .bind (yields_liveFile history faultless) (yields_resolveIn history faultless selector)

theorem yields_metadata {names : List String}
    (named : world.tables.tagNames file.fileId = .ok names) (selector : Option Int) :
    (metadata file.fileId selector).Yields conditions world
      ((resolution file versions selector).map fun resolved =>
        FileMetadata.at file resolved names) := by
  have resolves := yields_resolveIn history faultless selector
  refine .bind (yields_liveFile history faultless) ?_
  rcases outcome : resolution file versions selector with failure | resolved
  · exact .bind_of_error (outcome ▸ resolves)
  · exact .bind (outcome ▸ resolves) (.bind
      (.query .catalogRead .tagsForFile faultless (Tables.databaseError_eq_ok.2 named))
      (.pure _))

theorem yields_download_of_error {selector : Option Int} {failure : VaultError}
    (fails : resolution file versions selector = .error failure) :
    (download file.fileId selector).Yields conditions world (.error failure) :=
  .bind (yields_liveFile history faultless)
    (.bind_of_error (fails ▸ yields_resolveIn history faultless selector))

/-- A download opens the blob of the version that its selector resolves to. -/
theorem exists_opening {selector : Option Int} {resolved : Resolved}
    (resolves : resolution file versions selector = .ok resolved) :
    ∃ between,
      world.SameStores between ∧
        (download file.fileId selector).answer conditions world =
          (bounded .storageRead (openBlob resolved.path) conditions between).1.map fun stream =>
            ⟨file.fileName, resolved.contentType, resolved.size, resolved.version,
              downloadStream stream⟩ := by
  obtain ⟨looked, live, sameLooked⟩ :=
    yields_liveFile history faultless world ⟨rfl, rfl, rfl⟩
  obtain ⟨between, resolvedIn, same⟩ :=
    yields_resolveIn history faultless selector looked sameLooked
  rw [resolves] at resolvedIn
  exact ⟨between, same, download_of_resolveIn live resolvedIn⟩

end History

theorem downloadStream_map_ok (chunks : List ByteArray) :
    downloadStream (chunks.map Except.ok) = chunks.map Except.ok := by
  have unbroken := downloadStream_append chunks [] (Nat.zero_le 1)
  rwa [List.map_nil, List.append_nil, List.map_nil, List.map_nil, List.map_nil,
    List.append_nil] at unbroken

/-- A blob in a store that does not misbehave is opened whole. -/
theorem openBlob_of_found {path : String} {store : MemoryStore} {blob : StoredBlob}
    {between : World} (kept : between.blobs = .memory store)
    (permitted : .read ∉ store.failing) (whole : store.interruptAfter = none)
    (inTime : store.latency ≤ timeLimit conditions between)
    (found : store.blobAt? path = some blob) :
    (bounded .storageRead (openBlob path) conditions between).1 =
      .ok ((chunksOf blob.content).map Except.ok) := by
  rw [openBlob_of_blobAt kept found, if_pos inTime, if_neg permitted, MemoryStore.streamOf, whole]

/-! ## What readers are told -/

/-- A download without an error in its stream and with as many bytes as it announces. -/
def IsWhole (download : Download) : Prop :=
  ∃ chunks : List ByteArray,
    download.stream = chunks.map Except.ok ∧
      (chunks.map ByteArray.size).sum = download.size.toNat

/-- What the ways of reading a file tell of it, if its history lists `infos` and the current
version is `current`. -/
structure ReadsAgree (conditions : Conditions) (world : World) (fileId : String)
    (current : UInt32) (infos : List VersionInfo) : Prop where
  listed : (Vault.versions fileId).answer conditions world = .ok infos
  numbers :
    infos.map (fun info => info.version.toNat) = List.range' 1 current.toNat
  marked : (infos.filter VersionInfo.isCurrent).map VersionInfo.version = [current]
  found : ∀ info ∈ infos, ∃ stored,
    world.tables.version? fileId (encodeNumber info.version) = some stored ∧
      (resolve fileId (some info.version.toNat)).answer conditions world =
        .ok ⟨info.version, stored.path, info.contentType, info.size, info.commitMessage⟩
  missing : ∀ number : Int, 0 < number →
    (∀ info ∈ infos, (info.version.toNat : Int) ≠ number) →
      (resolve fileId (some number)).answer conditions world = .error (.noVersion number fileId)
  unselected : ∀ selector : Option Int, (∀ number, selector = some number → number ≤ 0) →
    (resolve fileId selector).answer conditions world =
      (resolve fileId (some current.toNat)).answer conditions world
  described : ∀ selector resolved,
    (resolve fileId selector).answer conditions world = .ok resolved →
      ∃ description,
        (metadata fileId selector).answer conditions world = .ok description ∧
          description.version = resolved.version ∧ description.size = resolved.size ∧
            description.contentType = resolved.contentType ∧
              description.commitMessage = some resolved.commitMessage
  opened : ∀ selector resolved download,
    (resolve fileId selector).answer conditions world = .ok resolved →
      (Vault.download fileId selector).answer conditions world = .ok download →
        download.version = resolved.version ∧ download.size = resolved.size ∧
          download.contentType = resolved.contentType
  refused : ∀ selector failure,
    (resolve fileId selector).answer conditions world = .error failure →
      (metadata fileId selector).answer conditions world = .error failure ∧
        (Vault.download fileId selector).answer conditions world = .error failure
  shown : ∀ request listing, (list request).answer conditions world = .ok listing →
    ∀ item ∈ listing.items, item.fileId = fileId →
      ∃ description,
        (metadata fileId none).answer conditions world = .ok description ∧
          item = { description with commitMessage := none }

section Resolution

variable (history : world.tables.HasHistory file versions)

include history

theorem resolution_of_mem {selector : Option Int} (member : version ∈ versions)
    (isWanted : (version.number.toNat : Int) = wantedNumber file selector) :
    resolution file versions selector = .ok version.resolved := by
  unfold resolution
  rcases found : versions.find? fun version =>
    (version.number.toNat : Int) = wantedNumber file selector with _ | first
  · exact absurd (decide_eq_true isWanted) (List.find?_eq_none.1 found version member)
  · have firstWanted := of_decide_eq_true (List.find?_some found :)
    have sameNumber : first.number = version.number :=
      UInt32.toNat_inj.1 (Int.ofNat.inj (firstWanted.trans isWanted.symm))
    rw [found, history.eq_of_number (List.mem_of_find?_eq_some found) member sameNumber]

theorem resolution_of_number (member : version ∈ versions) :
    resolution file versions (some version.number.toNat) = .ok version.resolved := by
  refine resolution_of_mem history member ?_
  have positive := history.number_pos member
  rw [wantedNumber, if_pos (by omega)]

omit history in
theorem resolution_of_absent {number : Int} (positive : 0 < number)
    (absent : ∀ version ∈ versions, (version.number.toNat : Int) ≠ number) :
    resolution file versions (some number) = .error (.noVersion number file.fileId) := by
  have isWanted : wantedNumber file (some number) = number := if_pos positive
  have nothing : versions.find? (fun version => (version.number.toNat : Int) = number) = none :=
    List.find?_eq_none.2 fun version member same => absent version member (of_decide_eq_true same)
  rw [resolution, isWanted, nothing]

/-- A selector that is absent or not positive stands for the current version. -/
theorem resolution_of_unselected {selector : Option Int}
    (unselected : ∀ number, selector = some number → number ≤ 0) :
    resolution file versions selector =
      resolution file versions (some file.currentVersion.toNat) := by
  obtain ⟨current, member, isCurrent, _⟩ := history.current
  have isWanted : wantedNumber file selector = file.currentVersion.toNat := by
    cases selector with
    | none =>
        rfl
    | some number =>
        have notPositive := unselected number rfl
        rw [wantedNumber, if_neg (by omega)]
  rw [resolution_of_mem history member (isCurrent ▸ isWanted.symm), ← isCurrent,
    resolution_of_number history member]

/-- The description of the current version is that of the file. -/
theorem at_of_resolution {resolved : Resolved} {names : List String}
    (resolves : resolution file versions none = .ok resolved) :
    FileMetadata.at file resolved names =
      { FileMetadata.current file names with commitMessage := some resolved.commitMessage } := by
  obtain ⟨current, member, isCurrent, _, sameType, sameSize⟩ := history.current
  have isWanted : (current.number.toNat : Int) = wantedNumber file none := by
    rw [isCurrent]
    rfl
  rw [resolution_of_mem history member isWanted] at resolves
  cases resolves
  rw [FileMetadata.at]
  simp only [VersionRecord.resolved, FileMetadata.current, isCurrent, sameType, sameSize]

end Resolution

/-- A listing shows a file as its row and its tags describe it. -/
theorem item_of_list {request : ListRequest} {listing : Listing} {item : FileMetadata}
    (keyed : (world.tables.files.map FileRow.fileId).Nodup)
    (listed : (list request).answer conditions world = .ok listing)
    (member : item ∈ listing.items) :
    ∃ row ∈ world.tables.files, world.tables.Describes row item := by
  obtain ⟨ranking, ranks⟩ :=
    (sortKeyOf request.sort).exists_ranks keyed (request.fromWholeSeconds.Selects world.tables)
  have shows : request.Shows world.tables ranking listing :=
    shows_of_list keyed ranks (Prod.ext listed rfl)
  obtain ⟨row, inWindow, describes⟩ :=
    (mem_of_forall₂ (shows.items _ (directionOf_eq_iff.1 rfl))).2 item member
  have inRanking :=
    SortDirection.mem_arrange.1 (List.mem_of_mem_drop (List.mem_of_mem_take inWindow))
  exact ⟨row, ((ranks.mem_iff row).1 inRanking).1, describes⟩

theorem readsAgree_of_history (history : world.tables.HasHistory file versions)
    (keyed : (world.tables.files.map FileRow.fileId).Nodup) {row : FileRow}
    (member : row ∈ world.tables.files) (isFile : row.toRecord = .ok file)
    {names : List String} (named : world.tables.tagNames file.fileId = .ok names)
    (faultless : conditions.faults = noFaults) :
    ReadsAgree conditions world file.fileId file.currentVersion
      (versions.map fun version => version.info file.currentVersion) := by
  have resolves := fun selector =>
    (yields_resolve history faultless selector).answer_eq
  have describes := fun selector =>
    (yields_metadata history faultless named selector).answer_eq
  constructor
  · exact (yields_versions history faultless).answer_eq
  · rw [List.map_map]
    exact history.numbers
  · obtain ⟨current, isVersion, isCurrent, _⟩ := history.current
    have once : (versions.map VersionRecord.number).count file.currentVersion = 1 := by
      refine List.count_eq_one_of_mem history.nodup_numbers ?_
      exact isCurrent ▸ List.mem_map_of_mem isVersion
    have onlyCurrent :
        (versions.map VersionRecord.number).filter (· == file.currentVersion) =
          [file.currentVersion] := by
      rw [List.filter_beq, once]
      rfl
    rw [List.filter_map] at onlyCurrent
    rw [List.filter_map, List.map_map]
    exact onlyCurrent
  · intro info listed
    obtain ⟨version, isVersion, rfl⟩ := List.mem_map.1 listed
    obtain ⟨stored, isStored, decoded⟩ :=
      Tables.getVersion_eq_some.1 (history.found version isVersion)
    refine ⟨stored, isStored, ?_⟩
    have samePath : stored.path = version.path := by
      obtain ⟨_, rfl⟩ := VersionRecord.toRow_eq_ok.1 (VersionRow.toRow_of_toRecord decoded)
      rfl
    rw [samePath]
    exact (resolves _).trans (resolution_of_number history isVersion)
  · intro number positive unlisted
    refine (resolves _).trans (resolution_of_absent positive fun version isVersion => ?_)
    exact unlisted _ (List.mem_map_of_mem isVersion)
  · intro selector unselected
    rw [resolves, resolves, resolution_of_unselected history unselected]
  · intro selector resolved isResolved
    rw [resolves] at isResolved
    refine ⟨FileMetadata.at file resolved names, ?_, rfl, rfl, rfl, rfl⟩
    rw [describes, isResolved]
    rfl
  · intro selector resolved download isResolved isDownload
    rw [resolves] at isResolved
    obtain ⟨between, _, opening⟩ := exists_opening history faultless isResolved
    rw [opening] at isDownload
    rcases outcome : (bounded .storageRead (openBlob resolved.path) conditions between).1 with
      failure | stream
    · rw [outcome] at isDownload
      cases isDownload
    · rw [outcome] at isDownload
      cases isDownload
      exact ⟨rfl, rfl, rfl⟩
  · intro selector failure isRefused
    rw [resolves] at isRefused
    rw [describes, isRefused]
    exact ⟨rfl, (yields_download_of_error history faultless isRefused).answer_eq⟩
  · intro request listing isListed item shown sameId
    obtain ⟨other, isOther, otherFile, otherNames, otherDecoded, otherNamed, rfl⟩ :=
      item_of_list keyed isListed shown
    -- There is one row of the file, and one list of its tags.
    have sameRow : other = row := by
      refine List.inj_on_of_nodup_map keyed isOther member ?_
      rw [← FileRow.fileId_of_toRecord otherDecoded, ← FileRow.fileId_of_toRecord isFile]
      exact sameId
    subst sameRow
    rw [isFile] at otherDecoded
    cases otherDecoded
    rw [← FileRow.fileId_of_toRecord isFile, named] at otherNamed
    cases otherNamed
    obtain ⟨current, isVersion, isCurrent, _⟩ := history.current
    have isResolved : resolution file versions none = .ok current.resolved :=
      resolution_of_mem history isVersion (congrArg (fun number => (number.toNat : Int)) isCurrent)
    refine ⟨FileMetadata.at file current.resolved names, ?_, ?_⟩
    · rw [describes, isResolved]
      rfl
    · rw [at_of_resolution history isResolved]
      rfl

theorem exists_of_resolution {selector : Option Int} {resolved : Resolved}
    (resolves : resolution file versions selector = .ok resolved) :
    ∃ version ∈ versions, resolved = version.resolved := by
  unfold resolution at resolves
  rcases found : versions.find? fun version =>
    (version.number.toNat : Int) = wantedNumber file selector with _ | version
  · rw [found] at resolves
    cases resolves
  · rw [found] at resolves
    cases resolves
    exact ⟨version, List.mem_of_find?_eq_some found, rfl⟩

/-- Where every version has its blob, a download that its store does not disturb has all the
bytes that it announces. -/
theorem whole_of_history (history : world.tables.HasHistory file versions)
    (faultless : conditions.faults = noFaults) {reached : MemoryStore}
    (blobs : world.blobs = .memory reached)
    (contents : ∀ row ∈ world.tables.versions, ∃ blob, row.IsContent reached blob)
    (permitted : .read ∉ reached.failing) (uninterrupted : reached.interruptAfter = none)
    (inTime : reached.latency ≤ timeLimit conditions world) {selector : Option Int}
    {resolved : Resolved}
    (resolves : (resolve file.fileId selector).answer conditions world = .ok resolved) :
    ∃ download,
      (Vault.download file.fileId selector).answer conditions world = .ok download ∧
        IsWhole download := by
  rw [(yields_resolve history faultless selector).answer_eq] at resolves
  obtain ⟨between, same, opening⟩ := exists_opening history faultless resolves
  obtain ⟨version, isVersion, rfl⟩ := exists_of_resolution resolves
  obtain ⟨row, isRow, encoded⟩ := history.stored version isVersion
  obtain ⟨blob, content⟩ := contents row isRow
  obtain ⟨fits, rfl⟩ := VersionRecord.toRow_eq_ok.1 encoded
  have sameLimit : timeLimit conditions between = timeLimit conditions world := by
    rw [timeLimit, timeLimit, same.clock]
  have opened := openBlob_of_found (same.blobs.trans blobs) permitted uninterrupted
    (sameLimit ▸ inTime) content.found
  change (bounded .storageRead (openBlob version.path) conditions between).1 = _ at opened
  rw [opening]
  dsimp only [VersionRecord.resolved]
  rw [opened]
  refine ⟨_, rfl, chunksOf blob.content, downloadStream_map_ok _, ?_⟩
  have size := content.size
  change (blob.content.size : Int) = version.size.toInt64.toInt at size
  rw [toInt_toInt64 fits] at size
  rw [sum_sizes_chunksOf]
  exact Int.ofNat.inj size

end Vault

/-- In every state that a run reaches, and without faults, all ways of reading a live file
agree about its versions, its description and its place in listings.  If the blobs are in
memory and no rival left a version without one, a download has as many bytes as it says. -/
theorem read_paths_agree (schedule : List ScheduledOperation) (start : World)
    (emptyTables : start.tables = Tables.empty) (conditions : Conditions)
    (faultless : conditions.faults = noFaults) (row : FileRow)
    (member : row ∈ (runOperations schedule start).tables.files) (live : row.trashedAt = none) :
    ∃ current infos,
      row.currentVersion = encodeNumber current ∧
        Vault.ReadsAgree conditions (runOperations schedule start) row.fileId current infos ∧
        ∀ store, start.blobs = .memory store →
          (∀ scheduled ∈ schedule, scheduled.Unrivalled) →
            ∃ reached,
              (runOperations schedule start).blobs = .memory reached ∧
                (.read ∉ reached.failing → reached.interruptAfter = none →
                  reached.latency ≤ Vault.timeLimit conditions (runOperations schedule start) →
                    ∀ selector resolved,
                      (Vault.resolve row.fileId selector).answer conditions
                          (runOperations schedule start) = .ok resolved →
                        ∃ download,
                          (Vault.download row.fileId selector).answer conditions
                              (runOperations schedule start) = .ok download ∧
                            Vault.IsWhole download) := by
  have sound := sound_runOperations schedule start (emptyTables ▸ Tables.sound_empty)
  have evolves := emptyTables ▸ evolves_runOperations schedule start
  obtain ⟨file, versions, isFile, history⟩ := evolves.exists_history sound member live
  obtain ⟨names, named⟩ := Tables.exists_tagNames sound.links file.fileId
  have isCurrent : row.currentVersion = encodeNumber file.currentVersion := by
    obtain ⟨_, isRow⟩ := FileRecord.toRow_eq_ok.1 (FileRow.toRow_of_toRecord isFile)
    rw [isRow]
  rw [← FileRow.fileId_of_toRecord isFile]
  refine ⟨file.currentVersion, _, isCurrent,
    Vault.readsAgree_of_history history evolves.keyed_of_empty member isFile named faultless, ?_⟩
  intro store kept unrivalled
  obtain ⟨reached, advances⟩ := progresses_runOperations schedule start unrivalled store kept
  refine ⟨reached, advances.blobs, fun permitted uninterrupted inTime selector resolved => ?_⟩
  exact Vault.whole_of_history history faultless advances.blobs
    (fun _ isVersion => advances.isContent_of_empty emptyTables isVersion) permitted
    uninterrupted inTime

/-- Whether a store is kept in memory, fails at nothing and answers at once. -/
def BlobStore.isWellBehaved : BlobStore → Bool
  | .memory store =>
      decide (store.failing = [] ∧ store.interruptAfter = none ∧ store.latency = 0)
  | .directory _ => false
  | .bucket _ => false

/-- The reverted first upload has two versions, and each of them can be downloaded whole. -/
theorem first_revisions_are_read :
    (Vault.emptyVault .empty).tables = Tables.empty ∧
      (Vault.emptyVault .empty).blobs = .memory .empty ∧
      (Vault.conditionsWith noFaults).faults = noFaults ∧
      (∀ scheduled ∈ firstRevisions, scheduled.Unrivalled) ∧
      ∃ row ∈ (runOperations firstRevisions (Vault.emptyVault .empty)).tables.files,
        row.trashedAt = none ∧
          ∃ infos,
            Vault.ReadsAgree (Vault.conditionsWith noFaults)
                (runOperations firstRevisions (Vault.emptyVault .empty)) row.fileId 2 infos ∧
              infos.length = 2 ∧
                ∃ download,
                  (Vault.download row.fileId none).answer (Vault.conditionsWith noFaults)
                      (runOperations firstRevisions (Vault.emptyVault .empty)) = .ok download ∧
                    Vault.IsWhole download := by
  have unrivalled : ∀ scheduled ∈ firstRevisions, scheduled.Unrivalled := by
    intro scheduled member
    simp only [firstRevisions, List.mem_cons, List.not_mem_nil, or_false] at member
    rcases member with rfl | rfl <;> exact undisturbed_unrivalled _
  have onlyFile : (runOperations firstRevisions (Vault.emptyVault .empty)).tables.files.map
      (fun row => (row.trashedAt, row.currentVersion)) = [(none, encodeNumber 2)] := by
    decide +kernel
  obtain ⟨row, isRow, told⟩ := List.map_eq_singleton_iff.1 onlyFile
  obtain ⟨live, isCurrent⟩ := Prod.mk.inj told
  have member : row ∈ (runOperations firstRevisions (Vault.emptyVault .empty)).tables.files :=
    isRow ▸ List.mem_singleton_self row
  obtain ⟨current, infos, reached, agree, whole⟩ := read_paths_agree firstRevisions
    (Vault.emptyVault .empty) rfl (Vault.conditionsWith noFaults) rfl row member live
  obtain rfl : current = 2 := encodeNumber_injective (reached.symm.trans isCurrent)
  refine ⟨rfl, rfl, rfl, unrivalled, row, member, live, infos, agree, ?_, ?_⟩
  · have count := congrArg List.length agree.numbers
    rw [List.length_map, List.length_range'] at count
    exact count
  · obtain ⟨store, blobs, downloads⟩ := whole .empty rfl unrivalled
    have behaves :
        (runOperations firstRevisions (Vault.emptyVault .empty)).blobs.isWellBehaved = true := by
      decide +kernel
    rw [blobs] at behaves
    obtain ⟨permitted, uninterrupted, latency⟩ := of_decide_eq_true behaves
    obtain ⟨info, onlyCurrent, isCurrentInfo⟩ := List.map_eq_singleton_iff.1 agree.marked
    have listed : info ∈ infos :=
      List.mem_of_mem_filter (onlyCurrent ▸ List.mem_singleton_self info)
    obtain ⟨stored, _, resolves⟩ := agree.found info listed
    rw [isCurrentInfo] at resolves
    have unselected := agree.unselected none fun _ absent => by cases absent
    exact downloads (by simp [permitted]) uninterrupted (latency ▸ Nat.zero_le _) none _
      (unselected.trans resolves)

end ContentVault
