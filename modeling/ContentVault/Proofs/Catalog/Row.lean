import ContentVault.Catalog.Row
import Mathlib.Data.List.Forall2

/-!
# Records and their rows

* a record has a row exactly if its size fits into a signed integer, and the row
  is then determined;
* what was stored is read back without fractions of seconds, and what was read is
  stored as it was.
-/

namespace ContentVault

theorem except_bind_eq_ok
    {ε α β : Type} {first : Except ε α} {next : α → Except ε β} {value : β} :
    (first >>= next) = .ok value ↔ ∃ middle, first = .ok middle ∧ next middle = .ok value := by
  cases first <;> simp [bind, Except.bind]

theorem option_mapM_eq_ok
    {ε α β : Type} {convert : α → Except ε β} {given : Option α} {result : Option β} :
    given.mapM convert = .ok result ↔
      (given = none ∧ result = none) ∨
        ∃ item converted,
          given = some item ∧ convert item = .ok converted ∧ result = some converted := by
  cases given with
  | none =>
      simp [pure, Except.pure, eq_comm]
  | some item =>
      rcases answer : convert item with failure | converted
      · simp [answer, Functor.map, Except.map]
      · simp [answer, Functor.map, Except.map, eq_comm]

theorem list_mapM_eq_ok {ε α β : Type} {convert : α → Except ε β} {given : List α}
    {converted : List β} :
    given.mapM convert = .ok converted ↔
      List.Forall₂ (fun item result => convert item = .ok result) given converted := by
  induction given generalizing converted with
  | nil =>
      simp [pure, Except.pure, eq_comm]
  | cons item rest inductionHypothesis =>
      rw [List.mapM_cons, except_bind_eq_ok, List.forall₂_cons_left_iff]
      constructor
      · rintro ⟨first, isFirst, onward⟩
        obtain ⟨others, areOthers, same⟩ := except_bind_eq_ok.1 onward
        cases same
        exact ⟨first, others, isFirst, inductionHypothesis.1 areOthers, rfl⟩
      · rintro ⟨first, others, isFirst, areOthers, rfl⟩
        exact ⟨first, isFirst,
          except_bind_eq_ok.2 ⟨others, inductionHypothesis.2 areOthers, rfl⟩⟩

/-- What is converted item by item is converted as a whole. -/
theorem exists_list_mapM_eq_ok {ε α β : Type} {convert : α → Except ε β} {given : List α}
    (converts : ∀ item ∈ given, ∃ result, convert item = .ok result) :
    ∃ converted, given.mapM convert = .ok converted := by
  induction given with
  | nil =>
      exact ⟨[], rfl⟩
  | cons item rest inductionHypothesis =>
      obtain ⟨first, isFirst⟩ := converts item List.mem_cons_self
      obtain ⟨others, areOthers⟩ := inductionHypothesis
        fun other member => converts other (List.mem_cons_of_mem item member)
      exact ⟨first :: others, list_mapM_eq_ok.2 (.cons isFirst (list_mapM_eq_ok.1 areOthers))⟩

/-- Every item of two related lists has its partner in the other one. -/
theorem mem_of_forall₂ {α β : Type} {related : α → β → Prop} {given : List α}
    {results : List β} (pairs : List.Forall₂ related given results) :
    (∀ item ∈ given, ∃ result ∈ results, related item result) ∧
      ∀ result ∈ results, ∃ item ∈ given, related item result := by
  induction pairs with
  | nil =>
      simp
  | cons isFirst _ inductionHypothesis =>
      obtain ⟨forwards, backwards⟩ := inductionHypothesis
      refine ⟨List.forall_mem_cons.2 ⟨⟨_, List.mem_cons_self, isFirst⟩, ?_⟩,
        List.forall_mem_cons.2 ⟨⟨_, List.mem_cons_self, isFirst⟩, ?_⟩⟩
      · intro item member
        obtain ⟨result, isResult, same⟩ := forwards item member
        exact ⟨result, List.mem_cons_of_mem _ isResult, same⟩
      · intro result member
        obtain ⟨item, isItem, same⟩ := backwards result member
        exact ⟨item, List.mem_cons_of_mem _ isItem, same⟩

/-- Every item has its result among the converted ones, and every result its item. -/
theorem mem_of_list_mapM_eq_ok {ε α β : Type} {convert : α → Except ε β} {given : List α}
    {converted : List β} (succeeded : given.mapM convert = .ok converted) :
    (∀ item ∈ given, ∃ result ∈ converted, convert item = .ok result) ∧
      ∀ result ∈ converted, ∃ item ∈ given, convert item = .ok result :=
  mem_of_forall₂ (list_mapM_eq_ok.1 succeeded)

theorem encodeSize_eq_ok {size : UInt64} {datum : InvalidDatum} {stored : Int64} :
    encodeSize size datum = .ok stored ↔ size.toNat < 0x8000000000000000 ∧ stored = size.toInt64 := by
  unfold encodeSize
  split
  · rename_i fits
    simp only [Except.ok.injEq]
    exact ⟨fun same => ⟨fits, same.symm⟩, fun same => same.2.symm⟩
  · rename_i tooLarge
    simp only [reduceCtorEq, false_iff]
    exact fun encoded => tooLarge encoded.1

theorem FileRecord.toRow_eq_ok {file : FileRecord} {row : FileRow} :
    file.toRow = .ok row ↔
      file.size.toNat < 0x8000000000000000 ∧
        row =
          { fileId := file.fileId
            owner := file.owner
            fileName := file.fileName
            fileType := file.fileType
            contentType := file.contentType
            size := file.size.toInt64
            path := file.path
            createdAt := encodeTime file.createdAt
            updatedAt := encodeTime file.updatedAt
            currentVersion := encodeNumber file.currentVersion
            description := file.description
            status := file.status.text
            trashedAt := file.trashedAt.map encodeTime } := by
  simp only [FileRecord.toRow, except_bind_eq_ok, encodeSize_eq_ok]
  constructor
  · rintro ⟨size, ⟨fits, rfl⟩, same⟩
    cases same
    exact ⟨fits, rfl⟩
  · rintro ⟨fits, rfl⟩
    exact ⟨_, ⟨fits, rfl⟩, rfl⟩

theorem VersionRecord.toRow_eq_ok {version : VersionRecord} {row : VersionRow} :
    version.toRow = .ok row ↔
      version.size.toNat < 0x8000000000000000 ∧
        row =
          { versionId := version.versionId
            fileId := version.fileId
            number := encodeNumber version.number
            size := version.size.toInt64
            path := version.path
            contentType := version.contentType
            createdAt := encodeTime version.createdAt
            commitMessage := version.commitMessage } := by
  simp only [VersionRecord.toRow, except_bind_eq_ok, encodeSize_eq_ok]
  constructor
  · rintro ⟨size, ⟨fits, rfl⟩, same⟩
    cases same
    exact ⟨fits, rfl⟩
  · rintro ⟨fits, rfl⟩
    exact ⟨_, ⟨fits, rfl⟩, rfl⟩

theorem toInt_encodeNumber (number : UInt32) :
    (encodeNumber number).toInt = number.toNat := by
  have bound := number.toNat_lt
  rw [encodeNumber, Int64.toInt_ofNat_of_lt (by omega)]

theorem encodeNumber_injective {first second : UInt32}
    (same : encodeNumber first = encodeNumber second) :
    first = second := by
  have values := congrArg Int64.toInt same
  rw [toInt_encodeNumber, toInt_encodeNumber] at values
  exact UInt32.toNat_inj.1 (by omega)

theorem decodeSize_eq_ok {stored : Int64} {datum : InvalidDatum} {size : UInt64} :
    decodeSize stored datum = .ok size ↔ 0 ≤ stored.toInt ∧ size = stored.toUInt64 := by
  unfold decodeSize
  split
  · rename_i positive
    simp only [Except.ok.injEq]
    exact ⟨fun same => ⟨positive, same.symm⟩, fun same => same.2.symm⟩
  · rename_i negative
    simp [negative]

/-! ## Reading back what was stored -/

/-- A size that fits is stored as the same number. -/
theorem toInt_toInt64 {size : UInt64} (fits : size.toNat < 0x8000000000000000) :
    size.toInt64.toInt = size.toNat := by
  refine BitVec.toInt_eq_toNat_of_lt ?_
  change 2 * size.toNat < 0x10000000000000000
  omega

theorem decodeSize_toInt64 {size : UInt64} (fits : size.toNat < 0x8000000000000000)
    (datum : InvalidDatum) :
    decodeSize size.toInt64 datum = .ok size := by
  refine decodeSize_eq_ok.2 ⟨?_, rfl⟩
  rw [toInt_toInt64 fits]
  exact Int.natCast_nonneg _

theorem toInt_encodeTime (timestamp : Timestamp) :
    (encodeTime timestamp).toInt = timestamp.seconds := by
  obtain ⟨late, early⟩ := timestamp.seconds_inRange
  rw [earliestSecond] at late
  rw [latestSecond] at early
  exact Int64.toInt_ofInt_of_le (by omega) (by omega)

theorem decodeTime_encodeTime (timestamp : Timestamp) (datum : InvalidDatum) :
    decodeTime (encodeTime timestamp) datum = .ok timestamp.wholeSecond := by
  rw [decodeTime, toInt_encodeTime, Timestamp.ofSeconds?_seconds]

theorem decodeNumber_encodeNumber (number : UInt32) (datum : InvalidDatum) :
    decodeNumber (encodeNumber number) datum = .ok number := by
  have bound := number.toNat_lt
  rw [decodeNumber, toInt_encodeNumber, if_pos (by omega), Int.toNat_natCast,
    UInt32.ofNat_toNat]

theorem decodeStatus_text (status : FileStatus) : decodeStatus status.text = .ok status := by
  cases status <;> rfl

/-- A file as it is read back: without fractions of seconds. -/
def FileRecord.inWholeSeconds (file : FileRecord) : FileRecord :=
  { file with
    createdAt := file.createdAt.wholeSecond
    updatedAt := file.updatedAt.wholeSecond
    trashedAt := file.trashedAt.map Timestamp.wholeSecond }

/-- Every file that was stored can be read back. -/
theorem FileRow.toRecord_of_toRow {file : FileRecord} {row : FileRow}
    (encoded : file.toRow = .ok row) :
    row.toRecord = .ok file.inWholeSeconds := by
  obtain ⟨fits, rfl⟩ := FileRecord.toRow_eq_ok.1 encoded
  simp only [FileRow.toRecord, decodeSize_toInt64 fits, decodeTime_encodeTime,
    decodeNumber_encodeNumber, decodeStatus_text]
  rcases trashed : file.trashedAt with _ | timestamp
  · simp [FileRecord.inWholeSeconds, trashed, bind, Except.bind, pure, Except.pure]
  · simp [FileRecord.inWholeSeconds, trashed, decodeTime_encodeTime, bind, Except.bind, pure,
      Except.pure, Functor.map, Except.map]

theorem VersionRow.toRecord_of_toRow {version : VersionRecord} {row : VersionRow}
    (encoded : version.toRow = .ok row) :
    row.toRecord = .ok { version with createdAt := version.createdAt.wholeSecond } := by
  obtain ⟨fits, rfl⟩ := VersionRecord.toRow_eq_ok.1 encoded
  simp only [VersionRow.toRecord, decodeSize_toInt64 fits, decodeTime_encodeTime,
    decodeNumber_encodeNumber]
  rfl

/-! ## Storing what was read -/

theorem encodeTime_of_decodeTime {stored : Int64} {datum : InvalidDatum} {timestamp : Timestamp}
    (decoded : decodeTime stored datum = .ok timestamp) :
    encodeTime timestamp = stored := by
  unfold decodeTime Timestamp.ofSeconds? at decoded
  split at decoded
  · rename_i found
    split at found
    · cases found
      cases decoded
      exact Int64.ofInt_toInt stored
    · cases found
  · cases decoded

theorem encodeNumber_of_decodeNumber {stored : Int64} {datum : InvalidDatum} {number : UInt32}
    (decoded : decodeNumber stored datum = .ok number) :
    encodeNumber number = stored := by
  unfold decodeNumber at decoded
  split at decoded
  · rename_i inRange
    cases decoded
    have bound : stored.toInt.toNat < UInt32.size := by
      rw [UInt32.size]
      omega
    rw [encodeNumber, UInt32.toNat_ofNat_of_lt' bound, ← Int64.ofInt_eq_ofNat,
      Int.toNat_of_nonneg inRange.1, Int64.ofInt_toInt]
  · cases decoded

theorem encodeSize_of_decodeSize {stored : Int64} {datum : InvalidDatum} {size : UInt64}
    (decoded : decodeSize stored datum = .ok size) :
    size.toNat < 0x8000000000000000 ∧ size.toInt64 = stored := by
  obtain ⟨positive, rfl⟩ := decodeSize_eq_ok.1 decoded
  have bound := BitVec.toInt_pos_iff.1 positive
  exact ⟨by change stored.toBitVec.toNat < _; omega, rfl⟩

theorem text_of_decodeStatus {stored : String} {status : FileStatus}
    (decoded : decodeStatus stored = .ok status) :
    status.text = stored := by
  unfold decodeStatus FileStatus.ofText? at decoded
  by_cases isActive : stored = "active"
  · rw [if_pos isActive] at decoded
    cases decoded
    exact isActive.symm
  · rw [if_neg isActive] at decoded
    by_cases isTrashed : stored = "trashed"
    · rw [if_pos isTrashed] at decoded
      cases decoded
      exact isTrashed.symm
    · rw [if_neg isTrashed] at decoded
      cases decoded

/-- A file that was read from a row has that row. -/
theorem FileRow.toRow_of_toRecord {row : FileRow} {file : FileRecord}
    (decoded : row.toRecord = .ok file) :
    file.toRow = .ok row := by
  simp only [FileRow.toRecord, except_bind_eq_ok] at decoded
  obtain ⟨size, sized, createdAt, isCreated, updatedAt, isUpdated, number, isNumber, status,
    isStatus, decoded⟩ := decoded
  obtain ⟨fits, sizeBack⟩ := encodeSize_of_decodeSize sized
  have known : ∀ trashedAt : Option Timestamp, trashedAt.map encodeTime = row.trashedAt →
      (FileRecord.mk row.fileId row.owner row.fileName row.fileType row.contentType size row.path
        createdAt updatedAt number row.description status trashedAt).toRow = .ok row := by
    intro trashedAt trashedBack
    refine FileRecord.toRow_eq_ok.2 ⟨fits, ?_⟩
    simp only [sizeBack, trashedBack, encodeTime_of_decodeTime isCreated,
      encodeTime_of_decodeTime isUpdated, encodeNumber_of_decodeNumber isNumber,
      text_of_decodeStatus isStatus]
  split at decoded
  · rename_i notTrashed
    cases decoded
    exact known none notTrashed.symm
  · rename_i stored trashed
    obtain ⟨_, isTrashed, same⟩ := except_bind_eq_ok.1 decoded
    cases same
    rcases read : decodeTime stored .trashedAt with failure | timestamp
    · rw [read] at isTrashed
      cases isTrashed
    · rw [read] at isTrashed
      cases isTrashed
      refine known _ ?_
      rw [trashed, Option.map_some, encodeTime_of_decodeTime read]

theorem FileRow.fileId_of_toRecord {row : FileRow} {file : FileRecord}
    (decoded : row.toRecord = .ok file) :
    file.fileId = row.fileId := by
  obtain ⟨_, rfl⟩ := FileRecord.toRow_eq_ok.1 (FileRow.toRow_of_toRecord decoded)
  rfl

/-- A version that was read from a row has that row. -/
theorem VersionRow.toRow_of_toRecord {row : VersionRow} {version : VersionRecord}
    (decoded : row.toRecord = .ok version) :
    version.toRow = .ok row := by
  simp only [VersionRow.toRecord, except_bind_eq_ok] at decoded
  obtain ⟨number, isNumber, size, sized, createdAt, isCreated, same⟩ := decoded
  obtain ⟨fits, sizeBack⟩ := encodeSize_of_decodeSize sized
  cases same
  refine VersionRecord.toRow_eq_ok.2 ⟨fits, ?_⟩
  simp only [sizeBack, encodeTime_of_decodeTime isCreated, encodeNumber_of_decodeNumber isNumber]

/-! ## Records behind changed rows -/

section Changed

variable {file : FileRecord} {row : FileRow} (encoded : file.toRow = .ok row)

include encoded

theorem FileRecord.toRow_bumped {version : VersionRecord} {versionRow : VersionRow}
    (versionEncoded : version.toRow = .ok versionRow) :
    FileRecord.toRow
        { file with
          currentVersion := version.number
          path := version.path
          contentType := version.contentType
          size := version.size
          updatedAt := version.createdAt } =
      .ok
        { row with
          currentVersion := versionRow.number
          path := versionRow.path
          contentType := versionRow.contentType
          size := versionRow.size
          updatedAt := versionRow.createdAt } := by
  obtain ⟨_, rfl⟩ := FileRecord.toRow_eq_ok.1 encoded
  obtain ⟨fits, rfl⟩ := VersionRecord.toRow_eq_ok.1 versionEncoded
  exact FileRecord.toRow_eq_ok.2 ⟨fits, rfl⟩

theorem FileRecord.toRow_described (fileName fileType description : String)
    (changedAt : Timestamp) :
    FileRecord.toRow { file with fileName, fileType, description, updatedAt := changedAt } =
      .ok { row with fileName, fileType, description, updatedAt := encodeTime changedAt } := by
  obtain ⟨fits, rfl⟩ := FileRecord.toRow_eq_ok.1 encoded
  exact FileRecord.toRow_eq_ok.2 ⟨fits, rfl⟩

theorem FileRecord.toRow_trashed (trashedAt : Timestamp) :
    FileRecord.toRow
        { file with status := .trashed, trashedAt := some trashedAt, updatedAt := trashedAt } =
      .ok
        { row with
          status := FileStatus.trashed.text
          trashedAt := some (encodeTime trashedAt)
          updatedAt := encodeTime trashedAt } := by
  obtain ⟨fits, rfl⟩ := FileRecord.toRow_eq_ok.1 encoded
  exact FileRecord.toRow_eq_ok.2 ⟨fits, rfl⟩

end Changed

end ContentVault
