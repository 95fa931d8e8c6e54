import ContentVault.Proofs.Catalog.TrashedReads
import ContentVault.Proofs.Text.LetterCase
import Mathlib.Data.List.Forall2
import Mathlib.Data.List.TakeWhile

/-!
# Filtering by a part of the name

The pattern of a name filter finds a part of a name and nothing else.

* an escaped text is read back as its own characters, each of which stands for itself;
* between two runs of any characters it matches the texts that contain it, in either case
  of ASCII letters;
* so a listing with a name filter finds the files whose names contain the filter's text.
-/

namespace ContentVault

/-! ## Reading an escaped text -/

/-- An escaped character is read as itself. -/
theorem patternItems_escapeChar (character : Char) (rest : List Char) :
    patternItems (escapeChar character ++ rest) =
      (patternItems rest).map (.exactly character :: ·) := by
  unfold escapeChar
  split
  · rfl
  · rename_i plain
    rw [not_or, not_or] at plain
    obtain ⟨noBackslash, noPercent, noUnderscore⟩ := plain
    rw [List.singleton_append, patternItems]
    · exact fun _ _ same _ => noBackslash same
    · exact fun same _ => noBackslash same
    · exact noPercent
    · exact noUnderscore

/-- An escaped text is read as its characters. -/
theorem patternItems_escapePattern (characters rest : List Char) :
    patternItems (escapePattern characters ++ rest) =
      (patternItems rest).map (characters.map .exactly ++ ·) := by
  induction characters with
  | nil =>
      exact Option.map_id'.symm
  | cons character others inductionHypothesis =>
      have unfolded : escapePattern (character :: others) ++ rest =
          escapeChar character ++ (escapePattern others ++ rest) := by
        rw [escapePattern, List.flatMap_cons, List.append_assoc]
        rfl
      rw [unfolded, patternItems_escapeChar, inductionHypothesis, Option.map_map]
      rfl

/-! ## Matching -/

theorem anyEnd_iff {accepts : List Char → Bool} {text : List Char} :
    anyEnd accepts text = true ↔ ∃ rest, rest <:+ text ∧ accepts rest = true := by
  induction text with
  | nil =>
      simp [anyEnd]
  | cons character others inductionHypothesis =>
      simp only [anyEnd, Bool.or_eq_true, inductionHypothesis, List.suffix_cons_iff, or_and_right,
        exists_or, exists_eq_left]

/-- Characters that stand for themselves match what they stand for, and what follows them is
matched with the rest. -/
theorem matchesItems_exactly {characters text : List Char} {items : List PatternItem} :
    matchesItems (characters.map .exactly ++ items) text = true ↔
      ∃ found rest,
        text = found ++ rest ∧ List.Forall₂ StandsFor characters found ∧
          matchesItems items rest = true := by
  induction characters generalizing text with
  | nil =>
      simp
  | cons wanted others inductionHypothesis =>
      cases text with
      | nil =>
          simp [matchesItems]
      | cons first rest =>
          rw [List.map_cons, List.cons_append, matchesItems, Bool.and_eq_true, beq_iff_eq,
            toLower_eq_toLower_iff, inductionHypothesis]
          constructor
          · rintro ⟨stands, found, remaining, rfl, others, matched⟩
            exact ⟨first :: found, remaining, rfl, .cons stands others, matched⟩
          · rintro ⟨_, remaining, same, stands | ⟨stands, others⟩, matched⟩
            obtain ⟨rfl, rfl⟩ := List.cons.inj same
            exact ⟨stands, _, remaining, rfl, others, matched⟩

/-- Between two runs of any characters a text is matched by what contains it. -/
theorem matchesItems_between_runs {characters text : List Char} :
    matchesItems (.anyRun :: (characters.map .exactly ++ [.anyRun])) text = true ↔
      ∃ found, found <:+: text ∧ List.Forall₂ StandsFor characters found := by
  have anything : ∀ rest : List Char, matchesItems [.anyRun] rest = true := fun rest =>
    anyEnd_iff.2 ⟨[], List.nil_suffix, rfl⟩
  rw [matchesItems, anyEnd_iff]
  simp only [matchesItems_exactly, anything, and_true]
  constructor
  · rintro ⟨_, ends, found, rest, rfl, stands⟩
    exact ⟨found, (List.prefix_append found rest).isInfix.trans ends.isInfix, stands⟩
  · rintro ⟨found, ⟨before, after, rfl⟩, stands⟩
    refine ⟨found ++ after, ?_, found, after, rfl, stands⟩
    rw [List.append_assoc]
    exact List.suffix_append before _

/-! ## The pattern of a name filter -/

theorem untilNul_of_not_mem {text : String} (noNul : '\x00' ∉ text.toList) :
    untilNul text = text.toList := by
  rw [untilNul, List.takeWhile_eq_self_iff]
  intro character member
  refine decide_eq_true ?_
  rintro rfl
  exact noNul member

theorem noNul_containsPattern {part : String} (noNul : '\x00' ∉ part.toList) :
    '\x00' ∉ (containsPattern part).toList := by
  have kept : ∀ character, '\x00' ∈ escapeChar character → character = '\x00' := by
    intro character member
    unfold escapeChar at member
    split at member
    · simpa [eq_comm] using member
    · exact (List.mem_singleton.1 member).symm
  rw [containsPattern, String.toList_ofList]
  rw [List.mem_cons, List.mem_append, escapePattern, List.mem_flatMap, List.mem_singleton]
  rintro (percent | ⟨character, member, isNul⟩ | percent)
  · exact absurd percent (by decide)
  · exact noNul (kept character isNul ▸ member)
  · exact absurd percent (by decide)

/-- The pattern for a part of a name matches the names that contain it. -/
theorem matchesPattern_containsPattern {part name : String} (noNul : '\x00' ∉ part.toList)
    (wholeName : '\x00' ∉ name.toList) :
    matchesPattern (containsPattern part) name = true ↔
      ∃ found, found <:+: name.toList ∧ List.Forall₂ StandsFor part.toList found := by
  have read : patternItems (untilNul (containsPattern part)) =
      some (.anyRun :: (part.toList.map .exactly ++ [.anyRun])) := by
    rw [untilNul_of_not_mem (noNul_containsPattern noNul), containsPattern,
      String.toList_ofList, patternItems, patternItems_escapePattern]
    rfl
  rw [matchesPattern, read, untilNul_of_not_mem wholeName]
  exact matchesItems_between_runs

/-- Whether a text occurs in a name, both with their ASCII letters in lowercase. -/
def OccursIn (part name : String) : Prop :=
  (asciiLowercase part).toList <:+: (asciiLowercase name).toList

instance (part name : String) : Decidable (OccursIn part name) :=
  inferInstanceAs (Decidable (_ <:+: _))

/-- A text occurs in a name where each of its characters stands for one of the name's. -/
theorem occursIn_iff {part name : String} :
    OccursIn part name ↔
      ∃ found, found <:+: name.toList ∧ List.Forall₂ StandsFor part.toList found := by
  simp only [OccursIn, asciiLowercase, String.toList_ofList, List.infix_map_iff,
    forall₂_standsFor_iff]

/-! ## Listings with a name filter -/

namespace FileQuery

variable {query : FileQuery} {tables : Tables} {links : List TagLink} {part : String}
  {row : FileRow}

/-- The query with all its filters but the one on names. -/
def withoutName (query : FileQuery) : FileQuery :=
  { query with nameContains := none }

theorem selects_of_name (filtered : query.nameContains = some part) :
    query.selects links row = true ↔
      query.withoutName.selects links row = true ∧
        matchesPattern (containsPattern part) row.fileName = true := by
  have others : query.withoutName.selects links row =
      (query.admitsEarly links row && true && query.admitsLate row) := rfl
  rw [others, selects, filtered, Option.all_some]
  simp only [Bool.and_eq_true, and_true, and_assoc]
  exact and_congr_right fun _ => and_comm

/-- What a listing with a name filter finds: the files that pass the other filters and in
whose names the filter's text occurs. -/
structure FindsByName (query : FileQuery) (tables : Tables) (part : String)
    (matching : List FileRow) : Prop where
  mem_iff : ∀ row : FileRow, '\x00' ∉ row.fileName.toList →
    (row ∈ matching ↔
      row ∈ tables.files ∧ query.withoutName.selects (tables.links.getD []) row = true ∧
        OccursIn part row.fileName)
  /-- They are counted by the total and shown by their window. -/
  listed : ∀ page, tables.listFiles query = .ok page →
    page.total = matching.length ∧
      List.Forall₂ (fun row file => row.toRecord = .ok file)
        ((matching.drop query.offset.toNat).take query.limit.toNat) page.items
  answered : tables.Readable → query.offset.toNat < 0x8000000000000000 →
    ∃ page, tables.listFiles query = .ok page

end FileQuery

/-- Whatever the other filters are, a name filter lets a file pass exactly if its text occurs
in the name: each of its characters stands for itself, ASCII letters in either case. -/
theorem name_filter_is_literal (tables : Tables) (query : FileQuery) (part : String)
    (filtered : query.nameContains = some part) (noNul : '\x00' ∉ part.toList)
    (short : (containsPattern part).utf8ByteSize ≤ longestPattern) :
    (∃ matching, query.FindsByName tables part matching) ∧
      ∀ name, OccursIn part name ↔
        ∃ found, found <:+: name.toList ∧ List.Forall₂ StandsFor part.toList found := by
  refine ⟨⟨(tables.files.filter (query.selects (tables.links.getD []))).mergeSort query.precedes,
    ?_, ?_, ?_⟩, fun _ => occursIn_iff⟩
  · intro row whole
    rw [List.mem_mergeSort, List.mem_filter, FileQuery.selects_of_name filtered,
      matchesPattern_containsPattern noNul whole, occursIn_iff]
  · intro page answered
    obtain ⟨rows, found, total, items⟩ := FileQuery.answer_eq_ok answered
    rw [FileQuery.matchingRows_eq_ok found] at total items
    exact ⟨total, list_mapM_eq_ok.1 items⟩
  · intro readable fits
    have shortPattern : query.HasShortPattern := by
      intro given isGiven
      rwa [← Option.some.inj (filtered.symm.trans isGiven)]
    obtain ⟨rows, found⟩ := FileQuery.matchingRows_of_shortPattern shortPattern readable.links
    refine FileQuery.answer_of_matchingRows found (fun row member => ?_) fits
    rw [FileQuery.matchingRows_eq_ok found, List.mem_mergeSort] at member
    obtain ⟨file, encoded⟩ := readable.files row (List.mem_of_mem_filter member)
    exact ⟨_, FileRow.toRecord_of_toRow encoded⟩

/-- A live file with a name. -/
def fileNamed (fileName : String) : FileRow where
  fileId := fileName
  owner := "alice"
  fileName
  fileType := "md"
  contentType := "text/markdown"
  size := 5
  path := "alice/197001/" ++ fileName
  createdAt := 0
  updatedAt := 0
  currentVersion := 1
  description := ""
  status := FileStatus.active.text
  trashedAt := none

/-- Files whose names differ where a pattern could have run over them. -/
def discounts : Tables :=
  { Tables.empty with
    files := [fileNamed "100%_OFF\\É.md", fileNamed "100 is OFFÉ.md", fileNamed "100%_OFF\\é.md"] }

/-- Ask for the files whose names contain a text. -/
def FileQuery.byName (part : String) : FileQuery where
  owner := none
  nameContains := some part
  fileType := none
  created := .unbounded
  updated := .unbounded
  tagId := none
  sort := .name
  direction := .ascending
  limit := 10
  offset := 0

theorem discount_is_found_by_name :
    '\x00' ∉ "0%_oFf\\É".toList ∧
      (containsPattern "0%_oFf\\É").utf8ByteSize ≤ longestPattern ∧
      ∃ matching,
        (FileQuery.byName "0%_oFf\\É").FindsByName discounts "0%_oFf\\É" matching ∧
          fileNamed "100%_OFF\\É.md" ∈ matching ∧ fileNamed "100 is OFFÉ.md" ∉ matching ∧
            fileNamed "100%_OFF\\é.md" ∉ matching := by
  have noNul : '\x00' ∉ "0%_oFf\\É".toList := by decide
  have short : (containsPattern "0%_oFf\\É").utf8ByteSize ≤ longestPattern := by
    decide +kernel
  obtain ⟨⟨matching, finds⟩, _⟩ := name_filter_is_literal discounts
    (.byName "0%_oFf\\É") "0%_oFf\\É" rfl noNul short
  refine ⟨noNul, short, matching, finds, ?_, ?_, ?_⟩
  · rw [finds.mem_iff _ (by decide)]
    decide +kernel
  · rw [finds.mem_iff _ (by decide)]
    decide +kernel
  · rw [finds.mem_iff _ (by decide)]
    decide +kernel

end ContentVault
