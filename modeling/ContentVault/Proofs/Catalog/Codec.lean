import ContentVault.Proofs.Catalog.Row
import Mathlib.Algebra.GroupWithZero.Nat

/-!
# Rows as spellings of records

Which row spells which record, read as numbers and texts, and what the two translations do
with it.

* a record is translated into the one row that spells it, and has none exactly if its size
  is too large for a signed integer;
* a row is translated into the record in whole seconds that it spells, and is refused for
  one of its flaws exactly if it spells none.
-/

namespace ContentVault

/-! ## Whole seconds -/

/-- Nanoseconds since the start of 1970. -/
def Timestamp.nanoseconds (timestamp : Timestamp) : Int :=
  timestamp.seconds * 1000000000 + timestamp.nanosecond

/-- Whole seconds since the start of 1970, rounded towards the past. -/
def Timestamp.wholeSeconds (timestamp : Timestamp) : Int :=
  timestamp.nanoseconds.fdiv 1000000000

theorem Timestamp.wholeSeconds_eq (timestamp : Timestamp) :
    timestamp.wholeSeconds = timestamp.seconds := by
  have fraction := timestamp.nanosecond_lt
  rw [wholeSeconds, nanoseconds, Int.fdiv_eq_ediv_of_nonneg _ (by decide)]
  omega

theorem Timestamp.nanoseconds_wholeSecond (timestamp : Timestamp) :
    timestamp.wholeSecond.nanoseconds = timestamp.wholeSeconds * 1000000000 := by
  rw [wholeSeconds_eq, nanoseconds, wholeSecond]
  exact Int.add_zero _

/-- Whether a number of seconds is within the calendar. -/
def InCalendar (seconds : Int) : Prop :=
  earliestSecond ≤ seconds ∧ seconds ≤ latestSecond

theorem Timestamp.inCalendar_wholeSeconds (timestamp : Timestamp) :
    InCalendar timestamp.wholeSeconds := by
  rw [wholeSeconds_eq]
  exact timestamp.seconds_inRange

/-! ## Single data -/

theorem toInt_encodeTime_eq_wholeSeconds (timestamp : Timestamp) :
    (encodeTime timestamp).toInt = timestamp.wholeSeconds := by
  rw [timestamp.wholeSeconds_eq, toInt_encodeTime]

section Data

variable {stored : Int64} {datum : InvalidDatum} {failure : CatalogError}

theorem encodeSize_eq_error {size : UInt64} :
    encodeSize size datum = .error failure ↔
      0x8000000000000000 ≤ size.toNat ∧ failure = .invalidData datum := by
  unfold encodeSize
  split
  · rename_i fits
    simp [Nat.not_le.2 fits]
  · rename_i tooLarge
    simp [Nat.not_lt.1 tooLarge, eq_comm]

theorem decodeSize_eq_error :
    decodeSize stored datum = .error failure ↔
      stored.toInt < 0 ∧ failure = .invalidData datum := by
  unfold decodeSize
  split
  · rename_i positive
    simp [Int.not_lt.2 positive]
  · rename_i negative
    simp [Int.not_le.1 negative, eq_comm]

theorem decodeNumber_eq_error :
    decodeNumber stored datum = .error failure ↔
      ¬ (0 ≤ stored.toInt ∧ stored.toInt < 0x100000000) ∧ failure = .invalidData datum := by
  unfold decodeNumber
  split
  · rename_i inRange
    simp [inRange]
  · rename_i outOfRange
    simp [outOfRange, eq_comm]

theorem decodeTime_eq_error :
    decodeTime stored datum = .error failure ↔
      ¬ InCalendar stored.toInt ∧ failure = .invalidData datum := by
  unfold decodeTime Timestamp.ofSeconds? InCalendar
  by_cases inRange : earliestSecond ≤ stored.toInt ∧ stored.toInt ≤ latestSecond
  · simp [inRange]
  · simp [inRange, eq_comm]

theorem decodeStatus_eq_error {text : String} :
    decodeStatus text = .error failure ↔
      (∀ status : FileStatus, text ≠ status.text) ∧ failure = .invalidData .fileStatus := by
  constructor
  · intro failed
    constructor
    · rintro status rfl
      rw [decodeStatus_text] at failed
      cases failed
    · unfold decodeStatus at failed
      split at failed
      · cases failed
      · cases failed
        rfl
  · rintro ⟨unknown, rfl⟩
    rcases decoded : decodeStatus text with reason | status
    · unfold decodeStatus at decoded
      split at decoded
      · cases decoded
      · exact decoded.symm
    · exact absurd (text_of_decodeStatus decoded).symm (unknown status)

end Data

theorem except_bind_eq_error {ε α β : Type} {first : Except ε α} {next : α → Except ε β}
    {failure : ε} :
    (first >>= next) = .error failure ↔
      first = .error failure ∨ ∃ middle, first = .ok middle ∧ next middle = .error failure := by
  cases first <;> simp [bind, Except.bind]

/-- A record that is made into a row once its size is encoded fails only for its size. -/
theorem encodeSize_bind_eq_error {α : Type} {size : UInt64} {datum : InvalidDatum}
    {failure : CatalogError} (rowOf : Int64 → α) :
    (encodeSize size datum >>= fun stored => pure (rowOf stored)) = .error failure ↔
      2 ^ 63 ≤ size.toNat ∧ failure = .invalidData datum := by
  rw [except_bind_eq_error, encodeSize_eq_error]
  constructor
  · rintro (failed | ⟨_, _, failed⟩)
    · exact failed
    · cases failed
  · exact Or.inl

/-! ## Files -/

/-- A row whose columns are the numbers and texts of a file, its times in whole seconds. -/
structure FileRow.Spells (row : FileRow) (file : FileRecord) : Prop where
  fileId : row.fileId = file.fileId
  owner : row.owner = file.owner
  fileName : row.fileName = file.fileName
  fileType : row.fileType = file.fileType
  contentType : row.contentType = file.contentType
  size : row.size.toInt = file.size.toNat
  path : row.path = file.path
  createdAt : row.createdAt.toInt = file.createdAt.wholeSeconds
  updatedAt : row.updatedAt.toInt = file.updatedAt.wholeSeconds
  currentVersion : row.currentVersion.toInt = file.currentVersion.toNat
  description : row.description = file.description
  status : row.status = file.status.text
  trashedAt : row.trashedAt.map Int64.toInt = file.trashedAt.map Timestamp.wholeSeconds

/-- A column of a file's row that no file can have. -/
inductive FileRow.Flaw (row : FileRow) : InvalidDatum → Prop
  | size : row.size.toInt < 0 → row.Flaw .fileSize
  | createdAt : ¬ InCalendar row.createdAt.toInt → row.Flaw .createdAt
  | updatedAt : ¬ InCalendar row.updatedAt.toInt → row.Flaw .updatedAt
  | currentVersion :
      ¬ (0 ≤ row.currentVersion.toInt ∧ row.currentVersion.toInt < 0x100000000) →
        row.Flaw .currentVersion
  | status : (∀ status : FileStatus, row.status ≠ status.text) → row.Flaw .fileStatus
  | trashedAt {stored : Int64} :
      row.trashedAt = some stored → ¬ InCalendar stored.toInt → row.Flaw .trashedAt

theorem FileRecord.toRow_eq_ok_iff_spells {file : FileRecord} {row : FileRow} :
    file.toRow = .ok row ↔ row.Spells file := by
  rw [FileRecord.toRow_eq_ok]
  constructor
  · rintro ⟨fits, rfl⟩
    have trashedAt : (file.trashedAt.map encodeTime).map Int64.toInt =
        file.trashedAt.map Timestamp.wholeSeconds := by
      rw [Option.map_map]
      exact Option.map_congr fun timestamp _ => toInt_encodeTime_eq_wholeSeconds timestamp
    exact ⟨rfl, rfl, rfl, rfl, rfl, toInt_toInt64 fits, rfl,
      toInt_encodeTime_eq_wholeSeconds _, toInt_encodeTime_eq_wholeSeconds _,
      toInt_encodeNumber _, rfl, rfl, trashedAt⟩
  · intro spells
    have fits : file.size.toNat < 0x8000000000000000 := by
      have bound := row.size.toInt_lt
      rw [spells.size] at bound
      omega
    have trashedAt : row.trashedAt = file.trashedAt.map encodeTime := by
      refine Option.map_injective (fun _ _ => Int64.toInt_inj.1) ?_
      rw [spells.trashedAt, Option.map_map]
      exact Option.map_congr fun timestamp _ => (toInt_encodeTime_eq_wholeSeconds timestamp).symm
    refine ⟨fits, ?_⟩
    have size := Int64.toInt_inj.1 (spells.size.trans (toInt_toInt64 fits).symm)
    have createdAt := Int64.toInt_inj.1
      (spells.createdAt.trans (toInt_encodeTime_eq_wholeSeconds _).symm)
    have updatedAt := Int64.toInt_inj.1
      (spells.updatedAt.trans (toInt_encodeTime_eq_wholeSeconds _).symm)
    have currentVersion :=
      Int64.toInt_inj.1 (spells.currentVersion.trans (toInt_encodeNumber _).symm)
    rw [← spells.fileId, ← spells.owner, ← spells.fileName, ← spells.fileType,
      ← spells.contentType, ← size, ← spells.path, ← createdAt, ← updatedAt, ← currentVersion,
      ← spells.description, ← spells.status, ← trashedAt]

/-- A row that spells a file has no flaw. -/
theorem FileRow.Spells.not_flaw {row : FileRow} {file : FileRecord} (spells : row.Spells file)
    (datum : InvalidDatum) : ¬ row.Flaw datum := by
  intro flaw
  cases flaw with
  | size negative =>
      rw [spells.size] at negative
      omega
  | createdAt outside =>
      rw [spells.createdAt] at outside
      exact outside file.createdAt.inCalendar_wholeSeconds
  | updatedAt outside =>
      rw [spells.updatedAt] at outside
      exact outside file.updatedAt.inCalendar_wholeSeconds
  | currentVersion outOfRange =>
      have bound := file.currentVersion.toNat_lt
      rw [spells.currentVersion] at outOfRange
      omega
  | status unknown =>
      exact unknown file.status spells.status
  | trashedAt trashed outside =>
      have same := spells.trashedAt
      rw [trashed, Option.map_some] at same
      obtain ⟨timestamp, _, isStored⟩ := Option.map_eq_some_iff.1 same.symm
      exact outside (isStored ▸ timestamp.inCalendar_wholeSeconds)

/-- The error of a row that is refused names one of its flaws. -/
theorem FileRow.flaw_of_toRecord {row : FileRow} {failure : CatalogError}
    (refused : row.toRecord = .error failure) :
    ∃ datum, row.Flaw datum ∧ failure = .invalidData datum := by
  simp only [FileRow.toRecord, except_bind_eq_error] at refused
  rcases refused with failed | ⟨_, _, failed | ⟨_, _, failed | ⟨_, _, failed | ⟨_, _,
    failed | ⟨_, _, failed⟩⟩⟩⟩⟩
  · obtain ⟨negative, rfl⟩ := decodeSize_eq_error.1 failed
    exact ⟨_, .size negative, rfl⟩
  · obtain ⟨outside, rfl⟩ := decodeTime_eq_error.1 failed
    exact ⟨_, .createdAt outside, rfl⟩
  · obtain ⟨outside, rfl⟩ := decodeTime_eq_error.1 failed
    exact ⟨_, .updatedAt outside, rfl⟩
  · obtain ⟨outOfRange, rfl⟩ := decodeNumber_eq_error.1 failed
    exact ⟨_, .currentVersion outOfRange, rfl⟩
  · obtain ⟨unknown, rfl⟩ := decodeStatus_eq_error.1 failed
    exact ⟨_, .status unknown, rfl⟩
  · split at failed
    · cases failed
    · rename_i stored trashed
      rcases decoded : decodeTime stored .trashedAt with reason | timestamp
      · rw [decoded] at failed
        cases failed
        obtain ⟨outside, rfl⟩ := decodeTime_eq_error.1 decoded
        exact ⟨_, .trashedAt trashed outside, rfl⟩
      · rw [decoded] at failed
        cases failed

/-! ## Versions -/

/-- A row whose columns are the numbers and texts of a version, its time in whole
seconds. -/
structure VersionRow.Spells (row : VersionRow) (version : VersionRecord) : Prop where
  versionId : row.versionId = version.versionId
  fileId : row.fileId = version.fileId
  number : row.number.toInt = version.number.toNat
  size : row.size.toInt = version.size.toNat
  path : row.path = version.path
  contentType : row.contentType = version.contentType
  createdAt : row.createdAt.toInt = version.createdAt.wholeSeconds
  commitMessage : row.commitMessage = version.commitMessage

/-- A column of a version's row that no version can have. -/
inductive VersionRow.Flaw (row : VersionRow) : InvalidDatum → Prop
  | number :
      ¬ (0 ≤ row.number.toInt ∧ row.number.toInt < 0x100000000) → row.Flaw .versionNumber
  | size : row.size.toInt < 0 → row.Flaw .versionSize
  | createdAt : ¬ InCalendar row.createdAt.toInt → row.Flaw .versionCreatedAt

theorem VersionRecord.toRow_eq_ok_iff_spells {version : VersionRecord} {row : VersionRow} :
    version.toRow = .ok row ↔ row.Spells version := by
  rw [VersionRecord.toRow_eq_ok]
  constructor
  · rintro ⟨fits, rfl⟩
    exact ⟨rfl, rfl, toInt_encodeNumber _, toInt_toInt64 fits, rfl, rfl,
      toInt_encodeTime_eq_wholeSeconds _, rfl⟩
  · intro spells
    have fits : version.size.toNat < 0x8000000000000000 := by
      have bound := row.size.toInt_lt
      rw [spells.size] at bound
      omega
    refine ⟨fits, ?_⟩
    have number := Int64.toInt_inj.1 (spells.number.trans (toInt_encodeNumber _).symm)
    have size := Int64.toInt_inj.1 (spells.size.trans (toInt_toInt64 fits).symm)
    have createdAt := Int64.toInt_inj.1
      (spells.createdAt.trans (toInt_encodeTime_eq_wholeSeconds _).symm)
    rw [← spells.versionId, ← spells.fileId, ← number, ← size, ← spells.path,
      ← spells.contentType, ← createdAt, ← spells.commitMessage]

/-- A row that spells a version has no flaw. -/
theorem VersionRow.Spells.not_flaw {row : VersionRow} {version : VersionRecord}
    (spells : row.Spells version) (datum : InvalidDatum) : ¬ row.Flaw datum := by
  intro flaw
  cases flaw with
  | number outOfRange =>
      have bound := version.number.toNat_lt
      rw [spells.number] at outOfRange
      omega
  | size negative =>
      rw [spells.size] at negative
      omega
  | createdAt outside =>
      rw [spells.createdAt] at outside
      exact outside version.createdAt.inCalendar_wholeSeconds

/-- The error of a row that is refused names one of its flaws. -/
theorem VersionRow.flaw_of_toRecord {row : VersionRow} {failure : CatalogError}
    (refused : row.toRecord = .error failure) :
    ∃ datum, row.Flaw datum ∧ failure = .invalidData datum := by
  simp only [VersionRow.toRecord, except_bind_eq_error] at refused
  rcases refused with failed | ⟨_, _, failed | ⟨_, _, failed | ⟨_, _, failed⟩⟩⟩
  · obtain ⟨outOfRange, rfl⟩ := decodeNumber_eq_error.1 failed
    exact ⟨_, .number outOfRange, rfl⟩
  · obtain ⟨negative, rfl⟩ := decodeSize_eq_error.1 failed
    exact ⟨_, .size negative, rfl⟩
  · obtain ⟨outside, rfl⟩ := decodeTime_eq_error.1 failed
    exact ⟨_, .createdAt outside, rfl⟩
  · cases failed

/-- A version as it is read back: without fractions of seconds. -/
def VersionRecord.inWholeSeconds (version : VersionRecord) : VersionRecord :=
  { version with createdAt := version.createdAt.wholeSecond }

/-! ## Both translations together -/

/-- Translations between records and rows that invert each other, up to fractions of
seconds. -/
structure ExactCodec {Record Row : Type} (encode : Record → Except CatalogError Row)
    (decode : Row → Except CatalogError Record) (spells : Row → Record → Prop)
    (flaw : Row → InvalidDatum → Prop) (sizeOf : Record → UInt64) (sizeDatum : InvalidDatum)
    (inWholeSeconds : Record → Record) : Prop where
  /-- A record has exactly the row that spells it. -/
  encode_eq_ok : ∀ record row, encode record = .ok row ↔ spells row record
  /-- Every record has a row whose size fits into a signed integer, and no other has. -/
  encodes : ∀ record, (∃ row, encode record = .ok row) ↔ (sizeOf record).toNat ≤ 2 ^ 63 - 1
  /-- The size is what keeps a record from having a row. -/
  encode_eq_error : ∀ record failure, encode record = .error failure ↔
    2 ^ 63 ≤ (sizeOf record).toNat ∧ failure = .invalidData sizeDatum
  /-- A record is read back in whole seconds. -/
  decode_encode : ∀ record row, encode record = .ok row →
    decode row = .ok (inWholeSeconds record)
  /-- A row that can be read is stored again as it was. -/
  encode_decode : ∀ row record, decode row = .ok record → encode record = .ok row
  /-- A row can be read exactly if it is the row of some record. -/
  decodes : ∀ row, (∃ record, decode row = .ok record) ↔ ∃ record, encode record = .ok row
  /-- A row is the row of some record exactly if it has no flaw. -/
  encoded : ∀ row, (∃ record, encode record = .ok row) ↔ ∀ datum, ¬ flaw row datum
  /-- A row that cannot be read is refused for one of its flaws. -/
  decode_eq_error : ∀ row failure, decode row = .error failure →
    ∃ datum, flaw row datum ∧ failure = .invalidData datum

/-- What has to be known of two translations for them to invert each other. -/
theorem ExactCodec.of_spells {Record Row : Type} {encode : Record → Except CatalogError Row}
    {decode : Row → Except CatalogError Record} {spells : Row → Record → Prop}
    {flaw : Row → InvalidDatum → Prop} {sizeOf : Record → UInt64} {sizeDatum : InvalidDatum}
    {inWholeSeconds : Record → Record}
    (encode_eq_ok : ∀ record row, encode record = .ok row ↔ spells row record)
    (encode_eq_error : ∀ record failure, encode record = .error failure ↔
      2 ^ 63 ≤ (sizeOf record).toNat ∧ failure = .invalidData sizeDatum)
    (decode_encode : ∀ record row, encode record = .ok row →
      decode row = .ok (inWholeSeconds record))
    (encode_decode : ∀ row record, decode row = .ok record → encode record = .ok row)
    (not_flaw : ∀ row record, spells row record → ∀ datum, ¬ flaw row datum)
    (decode_eq_error : ∀ row failure, decode row = .error failure →
      ∃ datum, flaw row datum ∧ failure = .invalidData datum) :
    ExactCodec encode decode spells flaw sizeOf sizeDatum inWholeSeconds where
  encode_eq_ok := encode_eq_ok
  encodes := by
    intro record
    rcases outcome : encode record with failure | row
    · have tooLarge := ((encode_eq_error record failure).1 outcome).1
      simp only [reduceCtorEq, exists_false, false_iff]
      omega
    · have fits : ¬ 2 ^ 63 ≤ (sizeOf record).toNat := by
        intro tooLarge
        rw [(encode_eq_error record _).2 ⟨tooLarge, rfl⟩] at outcome
        cases outcome
      simp only [Except.ok.injEq, exists_eq', true_iff]
      omega
  encode_eq_error := encode_eq_error
  decode_encode := decode_encode
  encode_decode := encode_decode
  decodes := by
    intro row
    constructor
    · rintro ⟨record, decoded⟩
      exact ⟨record, encode_decode row record decoded⟩
    · rintro ⟨record, encoded⟩
      exact ⟨_, decode_encode record row encoded⟩
  encoded := by
    intro row
    constructor
    · rintro ⟨record, encoded⟩
      exact not_flaw row record ((encode_eq_ok record row).1 encoded)
    · intro sound
      rcases decoded : decode row with failure | record
      · obtain ⟨datum, flawed, _⟩ := decode_eq_error row failure decoded
        exact absurd flawed (sound datum)
      · exact ⟨record, encode_decode row record decoded⟩
  decode_eq_error := decode_eq_error

/-- Files and versions are stored and read back exactly, but for the fractions of their
seconds, which are dropped towards the past. -/
theorem rows_spell_records :
    ExactCodec FileRecord.toRow FileRow.toRecord FileRow.Spells FileRow.Flaw FileRecord.size
        .fileSize FileRecord.inWholeSeconds ∧
      ExactCodec VersionRecord.toRow VersionRow.toRecord VersionRow.Spells VersionRow.Flaw
        VersionRecord.size .versionSize VersionRecord.inWholeSeconds ∧
      ∀ timestamp : Timestamp,
        timestamp.wholeSecond.nanoseconds =
          timestamp.nanoseconds.fdiv 1000000000 * 1000000000 := by
  refine ⟨?_, ?_, Timestamp.nanoseconds_wholeSecond⟩
  · exact .of_spells (fun _ _ => FileRecord.toRow_eq_ok_iff_spells)
      (fun _ _ => encodeSize_bind_eq_error _)
      (fun _ _ => FileRow.toRecord_of_toRow) (fun _ _ => FileRow.toRow_of_toRecord)
      (fun _ _ => FileRow.Spells.not_flaw) (fun _ _ => FileRow.flaw_of_toRecord)
  · exact .of_spells (fun _ _ => VersionRecord.toRow_eq_ok_iff_spells)
      (fun _ _ => encodeSize_bind_eq_error _)
      (fun _ _ => VersionRow.toRecord_of_toRow) (fun _ _ => VersionRow.toRow_of_toRecord)
      (fun _ _ => VersionRow.Spells.not_flaw) (fun _ _ => VersionRow.flaw_of_toRecord)

end ContentVault
