import ContentVault.BlobKey
import ContentVault.Proofs.Text.Plain
import ContentVault.Vault.Upload
import Mathlib.Data.Nat.Digits.Defs

/-!
# The keys of storage paths

* a list of proper names, spelled as a path, is its own key;
* a key has a last name, and no name of it holds a NUL byte;
* the storage path of a payload has a key of three names: the owner, the month of
  the upload and the address of the content;
* the last two of them are short and plain.
-/

namespace ContentVault

section Pieces

variable {α : Type} [DecidableEq α]

theorem pieces_separator_cons (separator : α) (items : List α) :
    pieces separator (separator :: items) = [] :: pieces separator items := by
  rw [pieces_cons]
  cases shape : pieces separator items with
  | nil =>
      exact absurd shape (pieces_ne_nil separator items)
  | cons first others =>
      simp [consPiece]

theorem consPiece_append
    (separator item : α) {cut : List (List α)} (nonempty : cut ≠ [])
    (others : List (List α)) :
    consPiece separator item (cut ++ others) =
      consPiece separator item cut ++ others := by
  cases cut with
  | nil =>
      exact absurd rfl nonempty
  | cons first rest =>
      simp only [List.cons_append, consPiece]
      split <;> simp

theorem pieces_append_separator (separator : α) (items rest : List α) :
    pieces separator (items ++ separator :: rest) =
      pieces separator items ++ pieces separator rest := by
  induction items with
  | nil =>
      rw [List.nil_append, pieces_separator_cons]
      rfl
  | cons item items inductionHypothesis =>
      rw [List.cons_append, pieces_cons, inductionHypothesis,
        consPiece_append separator item (pieces_ne_nil separator items),
        ← pieces_cons]

theorem pieces_of_not_mem
    {separator : α} {items : List α}
    (absent : separator ∉ items) :
    pieces separator items = [items] := by
  induction items with
  | nil =>
      rfl
  | cons item items inductionHypothesis =>
      rw [List.mem_cons, not_or] at absent
      rw [pieces_cons, inductionHypothesis absent.2]
      simp [consPiece, Ne.symm absent.1]

theorem pieces_joinPieces
    {separator : α} {cut : List (List α)}
    (nonempty : cut ≠ [])
    (absent : ∀ piece ∈ cut, separator ∉ piece) :
    pieces separator (joinPieces separator cut) = cut := by
  induction cut with
  | nil =>
      exact absurd rfl nonempty
  | cons first others inductionHypothesis =>
      have headAbsent : separator ∉ first := absent first List.mem_cons_self
      cases others with
      | nil =>
          simpa [joinPieces] using pieces_of_not_mem headAbsent
      | cons second rest =>
          have unfolded :
              joinPieces separator (first :: second :: rest) =
                first ++ separator :: joinPieces separator (second :: rest) :=
            rfl
          have tail :=
            inductionHypothesis (by simp)
              (fun piece member => absent piece (List.mem_cons_of_mem first member))
          rw [unfolded, pieces_append_separator, pieces_of_not_mem headAbsent, tail]
          rfl

end Pieces

/-! ## Names that stand for themselves -/

/-- A segment that counts as a name on the way to a blob. -/
structure IsPathName (name : PathName) : Prop where
  nonempty : name ≠ []
  notCurrent : name ≠ currentSegment
  notParent : name ≠ parentSegment
  noSlash : slash ∉ name
  noNul : 0 ∉ name

theorem IsPathName.step {name : PathName} (proper : IsPathName name) :
    PathStep.ofSegment name = .down name := by
  simp [PathStep.ofSegment, proper.nonempty, proper.notCurrent, proper.notParent]

theorem followSteps_down
    {names : List PathName} (proper : ∀ name ∈ names, IsPathName name)
    (position : List PathName) :
    followSteps (names.map .down) position = some (names.reverse ++ position) := by
  induction names generalizing position with
  | nil =>
      rfl
  | cons name rest inductionHypothesis =>
      have noNul := (proper name List.mem_cons_self).noNul
      have restProper : ∀ other ∈ rest, IsPathName other :=
        fun other member => proper other (List.mem_cons_of_mem name member)
      rw [List.map_cons, followSteps, if_neg noNul, inductionHypothesis restProper]
      simp

theorem pieces_keyPath {names : List PathName} (nonempty : names ≠ [])
    (proper : ∀ name ∈ names, IsPathName name) :
    pieces slash (keyPath names) = names :=
  pieces_joinPieces nonempty fun name member => (proper name member).noSlash

theorem pathSteps_keyPath {names : List PathName} (nonempty : names ≠ [])
    (proper : ∀ name ∈ names, IsPathName name) :
    pathSteps (keyPath names) = names.map .down := by
  rw [pathSteps, pieces_keyPath nonempty proper]
  exact List.map_congr_left fun name member => (proper name member).step

/-- Proper names spell their own key. -/
theorem blobKey?_keyPath
    {names : List PathName} (nonempty : names ≠ [])
    (proper : ∀ name ∈ names, IsPathName name) :
    blobKey? (keyPath names) = some names := by
  have followed : followSteps (pathSteps (keyPath names)) [] = some names.reverse := by
    rw [pathSteps_keyPath nonempty proper, followSteps_down proper, List.append_nil]
  rw [blobKey?, followed]
  cases backwards : names.reverse with
  | nil =>
      exact absurd (List.reverse_eq_nil_iff.1 backwards) nonempty
  | cons last others =>
      change some (last :: others).reverse = some names
      rw [← backwards, List.reverse_reverse]

/-! ## What keys are made of -/

theorem whole_of_followSteps {steps : List PathStep} {position reached : List PathName}
    (followed : followSteps steps position = some reached)
    (whole : ∀ name ∈ position, 0 ∉ name) : ∀ name ∈ reached, 0 ∉ name := by
  induction steps generalizing position with
  | nil =>
      cases followed
      exact whole
  | cons step rest inductionHypothesis =>
      cases step with
      | stay =>
          exact inductionHypothesis followed whole
      | up =>
          cases position with
          | nil =>
              cases followed
          | cons last above =>
              exact inductionHypothesis followed
                fun name member => whole name (List.mem_cons_of_mem last member)
      | down name =>
          rw [followSteps] at followed
          split at followed
          · cases followed
          · rename_i noNul
            exact inductionHypothesis followed
              (List.forall_mem_cons.2 ⟨noNul, whole⟩)

/-- A key has a last name, and none of its names holds a NUL byte. -/
theorem exists_of_blobKey? {path : List UInt8} {names : List PathName}
    (keyed : blobKey? path = some names) :
    (∃ above name, names = above ++ [name]) ∧ ∀ name ∈ names, 0 ∉ name := by
  rw [blobKey?] at keyed
  split at keyed
  · cases keyed
  · rename_i position notRoot followed
    cases keyed
    refine ⟨?_, fun name member =>
      whole_of_followSteps followed nofun name (List.mem_reverse.1 member)⟩
    cases position with
    | nil =>
        exact absurd rfl notRoot
    | cons last above =>
        exact ⟨above.reverse, last, List.reverse_cons⟩
  · cases keyed

/-- The bytes of a text are a proper name if the text could not be mistaken for
anything else in a path. -/
theorem isPathName_encode
    {text : String} (nonempty : text ≠ "")
    (notCurrent : text ≠ ".") (notParent : text ≠ "..")
    (noSlash : '/' ∉ text.toList) (noNul : '\x00' ∉ text.toList) :
    IsPathName (Utf8.encode text) where
  nonempty := by
    rw [← Utf8.encode_empty]
    exact fun same => nonempty (Utf8.encode_injective same)
  notCurrent := by
    have spelled : Utf8.encode "." = currentSegment := by
      rw [Utf8.encode_eq_flatMap]
      decide
    rw [← spelled]
    exact fun same => notCurrent (Utf8.encode_injective same)
  notParent := by
    have spelled : Utf8.encode ".." = parentSegment := by
      rw [Utf8.encode_eq_flatMap]
      decide
    rw [← spelled]
    exact fun same => notParent (Utf8.encode_injective same)
  noSlash := Utf8.not_mem_encode (by decide) (by decide) noSlash
  noNul := Utf8.not_mem_encode (by decide) (by decide) noNul

/-! ## Storage paths -/

/-- A text that can be the address of a payload: sixty-four lowercase hexadecimal
digits. -/
structure IsContentAddress (fileId : String) : Prop where
  length_eq : fileId.toList.length = 64
  digits : ∀ character ∈ fileId.toList, Hexadecimal.IsLowerDigit character

theorem fileIdOf_isContentAddress (payload : ByteArray) :
    IsContentAddress (fileIdOf payload) where
  length_eq := by
    rw [fileIdOf, String.toList_ofList, Hexadecimal.length_ofBytes,
      Digest.Sha256.length_digest]
  digits := by
    rw [fileIdOf, String.toList_ofList]
    exact Hexadecimal.ofBytes_isLowerDigit _

/-- The names on the way to the blob of a payload. -/
def storageKey (owner : String) (storedAt : Timestamp) (fileId : String) : List PathName :=
  [Utf8.encode owner, Utf8.encode storedAt.yearMonth.text, Utf8.encode fileId]

theorem encode_storagePath (owner : String) (storedAt : Timestamp) (fileId : String) :
    Utf8.encode (storagePath owner storedAt fileId) =
      keyPath (storageKey owner storedAt fileId) := by
  have spelled : Utf8.encode "/" = [slash] := by
    rw [Utf8.encode_eq_flatMap]
    decide
  simp [storagePath, storageKey, Utf8.encode_append, spelled, keyPath, joinPieces]

theorem isPathName_owner {owner : String} (safe : isSafeOwner owner = true) :
    IsPathName (Utf8.encode owner) := by
  simp only [isSafeOwner, Bool.and_eq_true, decide_eq_true_eq, List.all_eq_true,
    Bool.not_eq_true'] at safe
  obtain ⟨⟨⟨nonempty, notCurrent⟩, notParent⟩, harmless⟩ := safe
  refine isPathName_encode nonempty notCurrent notParent ?_ ?_
  · intro member
    exact (harmless '/' member).1.1 rfl
  · intro member
    have control := (harmless '\x00' member).2
    exact absurd control (by decide)

theorem isPathName_fileId {fileId : String} (address : IsContentAddress fileId) :
    IsPathName (Utf8.encode fileId) := by
  have differs : ∀ text : String, text.toList.length ≠ 64 → fileId ≠ text := by
    rintro text short rfl
    exact short address.length_eq
  refine isPathName_encode (differs "" (by decide)) (differs "." (by decide))
    (differs ".." (by decide)) ?_ ?_
  · intro member
    exact absurd (address.digits '/' member) (by decide)
  · intro member
    exact absurd (address.digits '\x00' member) (by decide)

theorem width_le_length_paddedDigits (width value : Nat) :
    width ≤ (paddedDigits width value).length := by
  simp only [paddedDigits, List.length_append, List.length_replicate]
  omega

theorem isDigit_of_mem_paddedDigits
    {width value : Nat} {character : Char}
    (member : character ∈ paddedDigits width value) :
    character.isDigit = true := by
  simp only [paddedDigits, List.mem_append, List.mem_replicate] at member
  rcases member with ⟨_, rfl⟩ | member
  · decide
  · exact Nat.isDigit_of_mem_toDigits (by decide) (by decide) member

/-- A month is spelled with digits, but for the sign of its year. -/
theorem isDigit_of_mem_yearMonth_text
    {yearMonth : YearMonth} {character : Char}
    (member : character ∈ yearMonth.text.toList) :
    character = '-' ∨ character.isDigit = true := by
  rw [YearMonth.text, String.toList_ofList, List.mem_append] at member
  rcases member with inYear | inMonth
  · unfold yearText at inYear
    split at inYear
    · rcases List.mem_cons.1 inYear with sign | digit
      · exact Or.inl sign
      · exact Or.inr (isDigit_of_mem_paddedDigits digit)
    · exact Or.inr (isDigit_of_mem_paddedDigits inYear)
  · exact Or.inr (isDigit_of_mem_paddedDigits inMonth)

theorem two_lt_length_yearMonth_text (yearMonth : YearMonth) :
    2 < yearMonth.text.toList.length := by
  have yearLength : 4 ≤ (yearText yearMonth.year).length := by
    unfold yearText
    split
    · have bound := width_le_length_paddedDigits 3 yearMonth.year.natAbs
      rw [List.length_cons]
      omega
    · exact width_le_length_paddedDigits 4 _
  rw [YearMonth.text, String.toList_ofList, List.length_append]
  omega

theorem isPathName_yearMonth (yearMonth : YearMonth) :
    IsPathName (Utf8.encode yearMonth.text) := by
  have long := two_lt_length_yearMonth_text yearMonth
  have differs :
      ∀ text : String, text.toList.length ≤ 2 → yearMonth.text ≠ text := by
    rintro text short rfl
    omega
  have absent :
      ∀ character : Char, character ≠ '-' → character.isDigit = false →
        character ∉ yearMonth.text.toList := by
    intro character notSign notDigit member
    rcases isDigit_of_mem_yearMonth_text member with sign | digit
    · exact notSign sign
    · rw [notDigit] at digit
      cases digit
  exact isPathName_encode (differs "" (by decide)) (differs "." (by decide))
    (differs ".." (by decide)) (absent '/' (by decide) (by decide))
    (absent '\x00' (by decide) (by decide))

theorem isPathName_of_mem_storageKey {owner fileId : String} {storedAt : Timestamp}
    (safe : isSafeOwner owner = true) (address : IsPathName (Utf8.encode fileId)) :
    ∀ name ∈ storageKey owner storedAt fileId, IsPathName name := by
  intro name member
  simp only [storageKey, List.mem_cons, List.not_mem_nil, or_false] at member
  rcases member with rfl | rfl | rfl
  · exact isPathName_owner safe
  · exact isPathName_yearMonth _
  · exact address

/-- The key of a storage path: owner, month and address, each as one name. -/
theorem blobKey?_storagePath
    {owner fileId : String} (storedAt : Timestamp)
    (safe : isSafeOwner owner = true) (address : IsContentAddress fileId) :
    blobKey? (Utf8.encode (storagePath owner storedAt fileId)) =
      some (storageKey owner storedAt fileId) := by
  rw [encode_storagePath]
  exact blobKey?_keyPath (List.cons_ne_nil _ _)
    (isPathName_of_mem_storageKey safe (isPathName_fileId address))

/-! ## The length of names -/

theorem yearMonth_ofDay_lt {day : Int} (low : -4371588 ≤ day) (high : day ≤ 2932897) :
    (YearMonth.ofDay day).year.natAbs < 10 ^ 5 ∧ (YearMonth.ofDay day).month < 10 ^ 4 := by
  unfold YearMonth.ofDay
  dsimp only
  rw [Int.fdiv_eq_ediv_of_nonneg _ (by decide), Int.fmod_eq_emod_of_nonneg _ (by decide)]
  have cycleLow : 0 ≤ (day + 719468) % 146097 := Int.emod_nonneg _ (by decide)
  have cycleHigh : (day + 719468) % 146097 < 146097 := Int.emod_lt_of_pos _ (by decide)
  generalize (day + 719468) % 146097 = dayOfCycle at cycleLow cycleHigh ⊢
  have yearLow : 0 ≤ (dayOfCycle - dayOfCycle / 1460 + dayOfCycle / 36524 -
      dayOfCycle / 146096) / 365 := by omega
  have yearHigh : (dayOfCycle - dayOfCycle / 1460 + dayOfCycle / 36524 -
      dayOfCycle / 146096) / 365 ≤ 401 := by omega
  generalize (dayOfCycle - dayOfCycle / 1460 + dayOfCycle / 36524 -
      dayOfCycle / 146096) / 365 = yearOfCycle at yearLow yearHigh ⊢
  constructor
  · split <;> omega
  · split <;> omega

theorem yearMonth_lt (timestamp : Timestamp) :
    timestamp.yearMonth.year.natAbs < 10 ^ 5 ∧ timestamp.yearMonth.month < 10 ^ 4 := by
  obtain ⟨low, high⟩ := timestamp.seconds_inRange
  simp only [earliestSecond, latestSecond] at low high
  rw [Timestamp.yearMonth, Int.fdiv_eq_ediv_of_nonneg _ (by decide)]
  exact yearMonth_ofDay_lt (by omega) (by omega)

theorem length_paddedDigits_le (width : Nat) {value most : Nat} (wide : width ≤ most)
    (positive : 0 < most) (small : value < 10 ^ most) :
    (paddedDigits width value).length ≤ most := by
  have digits := Nat.toDigits_length 10 value most positive small
  simp only [paddedDigits, List.length_append, List.length_replicate]
  omega

theorem isPlain_yearMonth (yearMonth : YearMonth) : Utf8.IsPlain yearMonth.text := by
  intro character member
  rcases isDigit_of_mem_yearMonth_text member with rfl | digit
  · decide
  · exact Utf8.plain_of_isDigit digit

/-- The name of a month is short. -/
theorem length_encode_yearMonth_le (timestamp : Timestamp) :
    (Utf8.encode timestamp.yearMonth.text).length ≤ 10 := by
  obtain ⟨yearSmall, monthSmall⟩ := yearMonth_lt timestamp
  have inMonth := length_paddedDigits_le 2 (by decide) (by decide) monthSmall
  have inYear : (yearText timestamp.yearMonth.year).length ≤ 6 := by
    unfold yearText
    split
    · have digits := length_paddedDigits_le 3 (by decide) (by decide) yearSmall
      rw [List.length_cons]
      omega
    · have digits := length_paddedDigits_le 4 (by decide) (by decide) yearSmall
      omega
  rw [Utf8.length_encode (isPlain_yearMonth _), YearMonth.text, String.toList_ofList,
    List.length_append]
  omega

theorem isPlain_fileId {fileId : String} (address : IsContentAddress fileId) :
    Utf8.IsPlain fileId := by
  intro character member
  rcases address.digits character member with ⟨low, high⟩ | ⟨low, high⟩
  · have bounds : 48 ≤ character.toNat ∧ character.toNat ≤ 57 := ⟨low, high⟩
    omega
  · have bounds : 97 ≤ character.toNat ∧ character.toNat ≤ 102 := ⟨low, high⟩
    omega

theorem length_encode_fileId {fileId : String} (address : IsContentAddress fileId) :
    (Utf8.encode fileId).length = 64 := by
  rw [Utf8.length_encode (isPlain_fileId address), address.length_eq]

end ContentVault
