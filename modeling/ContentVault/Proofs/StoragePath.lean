import ContentVault.Proofs.BlobKey
import ContentVault.Proofs.Calendar

/-!
# Storage paths keep contents apart

Which storage paths are the same, and that none leads through another.

* the text of a month tells the month, whatever the sign of its year;
* the path for an owner, a time and a file is its own normal form, and its names are the
  owner, the month and the file;
* two such paths are the same exactly if all three are.
-/

namespace ContentVault

/-! ## The text of a month -/

theorem ofDigitChars_paddedDigits (width value : Nat) :
    Nat.ofDigitChars 10 (paddedDigits width value) 0 = value := by
  have padding : ∀ count : Nat, Nat.ofDigitChars 10 (List.replicate count '0') 0 = 0 := by
    intro count
    induction count with
    | zero =>
        rfl
    | succ count inductionHypothesis =>
        rw [List.replicate_succ, Nat.ofDigitChars_cons]
        exact inductionHypothesis
  rw [paddedDigits, Nat.ofDigitChars_append, padding, Nat.ofDigitChars_ten_toDigits]

theorem paddedDigits_injective {width first second : Nat}
    (same : paddedDigits width first = paddedDigits width second) : first = second := by
  have values := congrArg (Nat.ofDigitChars 10 · 0) same
  rwa [ofDigitChars_paddedDigits, ofDigitChars_paddedDigits] at values

theorem sign_not_mem_paddedDigits (width value : Nat) : '-' ∉ paddedDigits width value :=
  fun member => absurd (isDigit_of_mem_paddedDigits member) (by decide)

theorem yearText_injective {first second : Int} (same : yearText first = yearText second) :
    first = second := by
  unfold yearText at same
  split at same
  · split at same
    · have sameDigits := paddedDigits_injective (List.cons.inj same).2
      omega
    · have signed : '-' ∈ paddedDigits 4 second.natAbs := same ▸ List.mem_cons_self
      exact absurd signed (sign_not_mem_paddedDigits _ _)
  · split at same
    · have signed : '-' ∈ paddedDigits 4 first.natAbs := same ▸ List.mem_cons_self
      exact absurd signed (sign_not_mem_paddedDigits _ _)
    · have sameDigits := paddedDigits_injective same
      omega

theorem length_paddedDigits_month {month : Nat} (small : month ≤ 12) :
    (paddedDigits 2 month).length = 2 :=
  Nat.le_antisymm
    (length_paddedDigits_le 2 (Nat.le_refl 2) (by decide) (by omega))
    (width_le_length_paddedDigits 2 month)

/-- The text of a month ends with exactly two digits, so that it tells the month. -/
theorem YearMonth.text_injective {first second : YearMonth} (firstSmall : first.month ≤ 12)
    (secondSmall : second.month ≤ 12) (same : first.text = second.text) : first = second := by
  have sameText := congrArg String.toList same
  simp only [YearMonth.text, String.toList_ofList] at sameText
  have sameLength : (paddedDigits 2 first.month).length = (paddedDigits 2 second.month).length :=
    (length_paddedDigits_month firstSmall).trans (length_paddedDigits_month secondSmall).symm
  obtain ⟨sameYear, sameMonth⟩ := List.append_inj' sameText sameLength
  obtain ⟨year, month⟩ := first
  rw [YearMonth.mk.injEq]
  exact ⟨yearText_injective sameYear, paddedDigits_injective sameMonth⟩

theorem Timestamp.month_le (timestamp : Timestamp) : timestamp.yearMonth.month ≤ 12 :=
  (Timestamp.contains_day_iff.2 rfl).month_le

/-! ## Names of files -/

/-- A text that names a file: sixty-four hexadecimal digits of either letter case. -/
structure IsFileId (fileId : String) : Prop where
  length_eq : fileId.toList.length = 64
  digits : ∀ character ∈ fileId.toList, (Hexadecimal.digitValue? character).isSome = true

theorem IsFileId.isPathName {fileId : String} (named : IsFileId fileId) :
    IsPathName (Utf8.encode fileId) := by
  have differs : ∀ text : String, text.toList.length ≠ 64 → fileId ≠ text := by
    rintro text short rfl
    exact short named.length_eq
  refine isPathName_encode (differs "" (by decide)) (differs "." (by decide))
    (differs ".." (by decide)) ?_ ?_
  · intro member
    exact absurd (named.digits '/' member) (by decide)
  · intro member
    exact absurd (named.digits '\x00' member) (by decide)

/-! ## Storage paths -/

/-- What the path says under which an owner's file is stored. -/
structure IsStoredUnder (owner : String) (storedAt : Timestamp) (fileId : String)
    (path : List UInt8) : Prop where
  /-- Between the slashes stand the owner, the month and the file. -/
  segments : pieces slash path =
    [Utf8.encode owner, Utf8.encode storedAt.yearMonth.text, Utf8.encode fileId]
  /-- The path is a key, and its names are its segments. -/
  key : blobKey? path = some (pieces slash path)
  /-- The path is its own normal form. -/
  normal : normalPath? path = some path
  /-- The month is the one of the calendar in which the day of storing lies. -/
  month : ∀ month : YearMonth, month.Contains storedAt.day ↔ month = storedAt.yearMonth

theorem isStoredUnder_storagePath {owner fileId : String} (storedAt : Timestamp)
    (safe : isSafeOwner owner = true) (named : IsFileId fileId) :
    IsStoredUnder owner storedAt fileId (Utf8.encode (storagePath owner storedAt fileId)) := by
  have proper : ∀ name ∈ storageKey owner storedAt fileId, IsPathName name :=
    isPathName_of_mem_storageKey safe named.isPathName
  have nonempty : storageKey owner storedAt fileId ≠ [] := List.cons_ne_nil _ _
  have segments := pieces_keyPath nonempty proper
  have keyed := blobKey?_keyPath nonempty proper
  rw [encode_storagePath]
  refine ⟨segments, ?_, ?_, fun _ => Timestamp.contains_day_iff⟩
  · rw [segments, keyed]
  · rw [normalPath?, keyed, Option.map_some]

theorem storageKey_injective {owner other : String} {storedAt otherTime : Timestamp}
    {fileId otherId : String}
    (same : storageKey owner storedAt fileId = storageKey other otherTime otherId) :
    owner = other ∧ storedAt.yearMonth = otherTime.yearMonth ∧ fileId = otherId := by
  simp only [storageKey, List.cons.injEq, and_true] at same
  obtain ⟨sameOwner, sameMonth, sameFile⟩ := same
  exact ⟨Utf8.encode_injective sameOwner,
    YearMonth.text_injective storedAt.month_le otherTime.month_le
      (Utf8.encode_injective sameMonth),
    Utf8.encode_injective sameFile⟩

/-- Storage paths lead to different blobs unless owner, month and file are the same, and no
path leads through another. -/
theorem storage_paths_keep_apart {owner other fileId otherId : String}
    (storedAt otherTime : Timestamp) (safe : isSafeOwner owner = true)
    (named : IsFileId fileId) (otherSafe : isSafeOwner other = true)
    (otherNamed : IsFileId otherId) :
    let path := storagePath owner storedAt fileId
    let otherPath := storagePath other otherTime otherId
    IsStoredUnder owner storedAt fileId (Utf8.encode path) ∧
      (path = otherPath ↔
        owner = other ∧ storedAt.yearMonth = otherTime.yearMonth ∧ fileId = otherId) ∧
      (blobKey? (Utf8.encode path) = blobKey? (Utf8.encode otherPath) ↔ path = otherPath) ∧
      (owner ≠ other → blobKey? (Utf8.encode path) ≠ blobKey? (Utf8.encode otherPath)) ∧
      ∀ key ∈ blobKey? (Utf8.encode path), ∀ otherKey ∈ blobKey? (Utf8.encode otherPath),
        key <+: otherKey → key = otherKey := by
  dsimp only
  have stored := isStoredUnder_storagePath storedAt safe named
  have otherStored := isStoredUnder_storagePath otherTime otherSafe otherNamed
  have keyed := stored.key.trans (congrArg some stored.segments)
  have otherKeyed := otherStored.key.trans (congrArg some otherStored.segments)
  have apart : blobKey? (Utf8.encode (storagePath owner storedAt fileId)) =
        blobKey? (Utf8.encode (storagePath other otherTime otherId)) →
      owner = other ∧ storedAt.yearMonth = otherTime.yearMonth ∧ fileId = otherId := by
    rw [keyed, otherKeyed]
    exact fun same => storageKey_injective (Option.some.inj same)
  have together :
      owner = other ∧ storedAt.yearMonth = otherTime.yearMonth ∧ fileId = otherId →
        storagePath owner storedAt fileId = storagePath other otherTime otherId := by
    rintro ⟨rfl, sameMonth, rfl⟩
    rw [storagePath, storagePath, sameMonth]
  refine ⟨stored, ⟨fun same => apart (by rw [same]), together⟩,
    ⟨fun same => together (apart same), fun same => by rw [same]⟩,
    fun different same => different (apart same).1, ?_⟩
  intro key isKey otherKey isOther leads
  rw [Option.mem_def, keyed] at isKey
  rw [Option.mem_def, otherKeyed] at isOther
  cases isKey
  cases isOther
  exact leads.eq_of_length rfl

/-- Sixty-four digits of one kind. -/
def repeatedDigit (digit : Char) : String :=
  String.ofList (List.replicate 64 digit)

theorem isFileId_repeatedDigit {digit : Char}
    (hexadecimal : (Hexadecimal.digitValue? digit).isSome = true) :
    IsFileId (repeatedDigit digit) where
  length_eq := by
    rw [repeatedDigit, String.toList_ofList, List.length_replicate]
  digits := by
    intro character member
    rw [repeatedDigit, String.toList_ofList] at member
    rwa [List.eq_of_mem_replicate member]

/-- The last second before the year 0. -/
def beforeYearZero : Timestamp :=
  ⟨-62167219201, 999999999, by decide, by decide⟩

theorem old_and_new_paths_keep_apart :
    isSafeOwner "Zoë .." = true ∧ IsFileId (repeatedDigit 'F') ∧
      beforeYearZero.yearMonth = ⟨-1, 12⟩ ∧ Timestamp.epoch.yearMonth = ⟨1970, 1⟩ ∧
      storagePath "Zoë .." beforeYearZero (repeatedDigit 'F') ≠
        storagePath "Zoë .." Timestamp.epoch (repeatedDigit 'F') := by
  have safe : isSafeOwner "Zoë .." = true := by decide
  have named : IsFileId (repeatedDigit 'F') := isFileId_repeatedDigit (by decide)
  have old : beforeYearZero.yearMonth = ⟨-1, 12⟩ := by decide
  have new : Timestamp.epoch.yearMonth = ⟨1970, 1⟩ := by decide
  refine ⟨safe, named, old, new, fun same => ?_⟩
  have apart := storage_paths_keep_apart beforeYearZero .epoch safe named safe named
  have sameMonth := (apart.2.1.1 same).2.1
  rw [old, new] at sameMonth
  exact absurd sameMonth (by decide)

end ContentVault
