import ContentVault.Catalog.Work
import ContentVault.Proofs.Catalog.Row
import Mathlib.Data.List.Sort
import Mathlib.Data.Prod.Lex
import Mathlib.Data.String.Basic

/-!
# Listing files

* the query finds the files that pass all filters, each once;
* ascending order compares one column and then the identifiers, which leaves no ties;
  descending order is its reverse;
* a window shows the matches at its positions, and the total counts all of them.
-/

namespace ContentVault

/-! ## Filters -/

theorem TimeRange.holds_iff {range : TimeRange} {stored : Int64} :
    range.holds stored = true ↔
      (∀ bound, range.earliest = some bound → bound.seconds ≤ stored.toInt) ∧
        ∀ bound, range.latest = some bound → stored.toInt ≤ bound.seconds := by
  simp only [holds, Bool.and_eq_true, Option.all_eq_true, decide_eq_true_eq]

namespace FileQuery

variable {query : FileQuery} {links : List TagLink}

/-- Whether a file passes all filters, if its name can be compared. -/
def selects (query : FileQuery) (links : List TagLink) (row : FileRow) : Bool :=
  query.admitsEarly links row &&
    (query.nameContains.all fun part => matchesPattern (containsPattern part) row.fileName) &&
      query.admitsLate row

theorem selects_iff {row : FileRow} :
    query.selects links row = true ↔
      row.trashedAt = none ∧
        (∀ tagId, query.tagId = some tagId → ⟨row.fileId, tagId⟩ ∈ links) ∧
        (∀ owner, query.owner = some owner → row.owner = owner) ∧
        (∀ part, query.nameContains = some part →
          matchesPattern (containsPattern part) row.fileName = true) ∧
        (∀ fileType, query.fileType = some fileType → row.fileType = fileType) ∧
        query.created.holds row.createdAt = true ∧ query.updated.holds row.updatedAt = true := by
  simp only [selects, admitsEarly, admitsLate, Bool.and_eq_true, Option.all_eq_true,
    Option.isNone_iff_eq_none, List.contains_iff_mem, decide_eq_true_eq, and_assoc]

/-- Whether names can be compared with the name filter. -/
def HasShortPattern (query : FileQuery) : Prop :=
  ∀ part, query.nameContains = some part →
    (containsPattern part).utf8ByteSize ≤ longestPattern

theorem nameMatches_eq_ok {row : FileRow} {named : Bool}
    (compared : query.nameMatches row = .ok named) :
    named =
      query.nameContains.all fun part => matchesPattern (containsPattern part) row.fileName := by
  unfold nameMatches at compared
  split at compared
  · rename_i noFilter
    cases compared
    rw [noFilter]
    rfl
  · rename_i part isFilter
    dsimp only at compared
    split at compared
    · cases compared
    · cases compared
      rw [isFilter]
      rfl

theorem nameMatches_of_shortPattern (short : query.HasShortPattern) (row : FileRow) :
    ∃ named, query.nameMatches row = .ok named := by
  unfold nameMatches
  split
  · exact ⟨_, rfl⟩
  · rename_i part isFilter
    exact ⟨_, if_neg (Nat.not_lt.2 (short part isFilter))⟩

theorem admits_eq_ok {row : FileRow} {admitted : Bool}
    (answered : query.admits links row = .ok admitted) :
    admitted = query.selects links row := by
  unfold admits at answered
  by_cases early : query.admitsEarly links row = true
  · rw [if_pos early, except_bind_eq_ok] at answered
    obtain ⟨named, compared, same⟩ := answered
    cases same
    rw [selects, early, nameMatches_eq_ok compared, Bool.true_and]
  · rw [if_neg early] at answered
    cases answered
    rw [selects, Bool.eq_false_iff.2 early]
    rfl

theorem selectRows_eq_ok {files rows : List FileRow}
    (selected : query.selectRows links files = .ok rows) :
    rows = files.filter (query.selects links) := by
  induction files generalizing rows with
  | nil =>
      cases selected
      rfl
  | cons row rest inductionHypothesis =>
      rw [selectRows, except_bind_eq_ok] at selected
      obtain ⟨admitted, answered, selected⟩ := selected
      rw [except_bind_eq_ok] at selected
      obtain ⟨others, selectedRest, same⟩ := selected
      cases same
      rw [admits_eq_ok answered, inductionHypothesis selectedRest, List.filter_cons]

theorem selectRows_of_shortPattern (short : query.HasShortPattern) (files : List FileRow) :
    query.selectRows links files = .ok (files.filter (query.selects links)) := by
  have answers : ∃ rows, query.selectRows links files = .ok rows := by
    induction files with
    | nil =>
        exact ⟨[], rfl⟩
    | cons row rest inductionHypothesis =>
        obtain ⟨others, selectedRest⟩ := inductionHypothesis
        obtain ⟨named, compared⟩ := nameMatches_of_shortPattern short row
        rw [selectRows, selectedRest, admits, compared]
        by_cases early : query.admitsEarly links row = true
        · rw [if_pos early]
          exact ⟨_, rfl⟩
        · rw [if_neg early]
          exact ⟨_, rfl⟩
  obtain ⟨rows, selected⟩ := answers
  rw [selected, selectRows_eq_ok selected]

end FileQuery

/-! ## Order -/

/-- Whether a file comes before another in ascending order: by the column, and by the
identifiers of files between which the column does not decide. -/
def SortKey.Before (key : SortKey) (first second : FileRow) : Prop :=
  match key with
  | .name =>
      first.fileName < second.fileName ∨
        first.fileName = second.fileName ∧ first.fileId < second.fileId
  | .size =>
      first.size.toInt < second.size.toInt ∨
        first.size.toInt = second.size.toInt ∧ first.fileId < second.fileId
  | .fileType =>
      first.fileType < second.fileType ∨
        first.fileType = second.fileType ∧ first.fileId < second.fileId
  | .date =>
      first.updatedAt.toInt < second.updatedAt.toInt ∨
        first.updatedAt.toInt = second.updatedAt.toInt ∧ first.fileId < second.fileId

/-- The place of a file among all files: its column, a text or a number, and its
identifier. -/
def SortKey.place (key : SortKey) (row : FileRow) : Lex (Lex (String × Int) × String) :=
  match key with
  | .name => toLex (toLex (row.fileName, 0), row.fileId)
  | .size => toLex (toLex ("", row.size.toInt), row.fileId)
  | .fileType => toLex (toLex (row.fileType, 0), row.fileId)
  | .date => toLex (toLex ("", row.updatedAt.toInt), row.fileId)

namespace SortKey

variable {key : SortKey} {first second : FileRow}

theorem ascends_iff : FileQuery.ascends key first second = true ↔
    key.place first ≤ key.place second := by
  cases key <;>
    simp [FileQuery.ascends, place, Prod.Lex.toLex_le_toLex, Prod.Lex.toLex_lt_toLex,
      Int64.toInt_inj]

theorem before_iff : key.Before first second ↔ key.place first < key.place second := by
  cases key <;> simp [Before, place, Prod.Lex.toLex_lt_toLex]

theorem fileId_of_place (same : key.place first = key.place second) :
    first.fileId = second.fileId := by
  cases key <;> exact congrArg (fun place => (ofLex place).2) same

instance (key : SortKey) : IsStrictOrder FileRow key.Before where
  irrefl := fun row isBefore => lt_irrefl (key.place row) (before_iff.1 isBefore)
  trans := fun _ _ _ left right => before_iff.2 ((before_iff.1 left).trans (before_iff.1 right))

/-- Between different files the order is strict. -/
theorem before_of_ascends (ascending : FileQuery.ascends key first second = true)
    (other : first.fileId ≠ second.fileId) :
    key.Before first second :=
  before_iff.2 (lt_of_le_of_ne (ascends_iff.1 ascending) (mt fileId_of_place other))

theorem ascends_trans (key : SortKey) (first second third : FileRow)
    (left : FileQuery.ascends key first second = true)
    (right : FileQuery.ascends key second third = true) :
    FileQuery.ascends key first third = true :=
  ascends_iff.2 ((ascends_iff.1 left).trans (ascends_iff.1 right))

theorem ascends_total (key : SortKey) (first second : FileRow) :
    (FileQuery.ascends key first second || FileQuery.ascends key second first) = true := by
  rw [Bool.or_eq_true, ascends_iff, ascends_iff]
  exact le_total (key.place first) (key.place second)

end SortKey

/-! ## Rankings -/

/-- The files that are selected, in ascending order. -/
structure SortKey.Ranks (key : SortKey) (files : List FileRow) (selected : FileRow → Prop)
    (ranking : List FileRow) : Prop where
  mem_iff : ∀ row, row ∈ ranking ↔ row ∈ files ∧ selected row
  ascends : ranking.Pairwise key.Before

/-- A ranking as it is read in a direction. -/
def SortDirection.arrange (direction : SortDirection) (ranking : List FileRow) :
    List FileRow :=
  match direction with
  | .ascending => ranking
  | .descending => ranking.reverse

theorem SortDirection.length_arrange (direction : SortDirection) (ranking : List FileRow) :
    (direction.arrange ranking).length = ranking.length := by
  cases direction with
  | ascending => rfl
  | descending => exact List.length_reverse

theorem SortDirection.mem_arrange {direction : SortDirection} {ranking : List FileRow}
    {row : FileRow} :
    row ∈ direction.arrange ranking ↔ row ∈ ranking := by
  cases direction with
  | ascending => exact Iff.rfl
  | descending => exact List.mem_reverse

section Rankings

variable {key : SortKey} {files ranking : List FileRow} {selected : FileRow → Prop}

theorem SortKey.Ranks.unique {other : List FileRow} (ranks : key.Ranks files selected ranking)
    (otherRanks : key.Ranks files selected other) :
    ranking = other := by
  refine List.Pairwise.eq_of_mem_iff ranks.ascends otherRanks.ascends fun row => ?_
  rw [ranks.mem_iff, otherRanks.mem_iff]

theorem nodup_fileIds_of_perm_filter {keep : FileRow → Bool}
    (keyed : (files.map FileRow.fileId).Nodup) {rows : List FileRow}
    (same : rows.Perm (files.filter keep)) :
    rows.Pairwise fun first second => first.fileId ≠ second.fileId := by
  have kept : ((files.filter keep).map FileRow.fileId).Nodup :=
    keyed.sublist (List.filter_sublist.map FileRow.fileId)
  exact List.pairwise_map.1 ((same.map FileRow.fileId).nodup_iff.2 kept)

/-- Sorting ranks the files: their identifiers leave no ties. -/
theorem SortKey.ranks_mergeSort (key : SortKey) (keyed : (files.map FileRow.fileId).Nodup)
    (keep : FileRow → Bool) :
    key.Ranks files (fun row => keep row = true)
      ((files.filter keep).mergeSort (FileQuery.ascends key)) := by
  have same := List.mergeSort_perm (files.filter keep) (FileQuery.ascends key)
  constructor
  · intro row
    rw [same.mem_iff, List.mem_filter]
  · have sorted : ((files.filter keep).mergeSort (FileQuery.ascends key)).Pairwise
        fun first second => FileQuery.ascends key first second = true :=
      List.pairwise_mergeSort (ascends_trans key) (ascends_total key) _
    -- The sorting order admits ties, but only between files of one identifier.
    have distinct := nodup_fileIds_of_perm_filter keyed same
    refine List.Pairwise.imp₂ ?_ sorted distinct
    intro first second ascending other
    exact before_of_ascends ascending other

theorem SortKey.exists_ranks (key : SortKey) (keyed : (files.map FileRow.fileId).Nodup)
    (selected : FileRow → Prop) :
    ∃ ranking, key.Ranks files selected ranking := by
  classical
  have ranks := key.ranks_mergeSort keyed fun row => decide (selected row)
  refine ⟨_, fun row => ?_, ranks.ascends⟩
  rw [ranks.mem_iff, decide_eq_true_eq]

/-- A descending order is the reverse of the ascending one. -/
theorem FileQuery.mergeSort_precedes (query : FileQuery)
    (keyed : (files.map FileRow.fileId).Nodup) {keep : FileRow → Bool}
    (ranks : query.sort.Ranks files (fun row => keep row = true) ranking) :
    (files.filter keep).mergeSort query.precedes = query.direction.arrange ranking := by
  rcases towards : query.direction
  · rw [ranks.unique (query.sort.ranks_mergeSort keyed keep), SortDirection.arrange]
    congr 1
    funext first second
    rw [precedes, towards]
  · have flipped : query.precedes = fun first second => ascends query.sort second first := by
      funext first second
      rw [precedes, towards]
    have same := List.mergeSort_perm (files.filter keep) query.precedes
    have sorted : ((files.filter keep).mergeSort query.precedes).Pairwise
        fun first second => ascends query.sort second first = true := by
      rw [flipped]
      refine List.pairwise_mergeSort ?_ ?_ _
      · exact fun first second third left right =>
          SortKey.ascends_trans query.sort third second first right left
      · exact fun first second => SortKey.ascends_total query.sort second first
    have distinct := nodup_fileIds_of_perm_filter keyed same
    have descends : ((files.filter keep).mergeSort query.precedes).Pairwise
        fun first second => query.sort.Before second first := by
      refine List.Pairwise.imp₂ ?_ sorted distinct
      intro first second ascending other
      exact SortKey.before_of_ascends ascending other.symm
    -- There is one ranking only, so it suffices that the reversed list is one.
    have reversed : query.sort.Ranks files (fun row => keep row = true)
        ((files.filter keep).mergeSort query.precedes).reverse := by
      refine ⟨fun row => ?_, List.pairwise_reverse.2 descends⟩
      rw [List.mem_reverse, same.mem_iff, List.mem_filter]
    rw [ranks.unique reversed, SortDirection.arrange, List.reverse_reverse]

end Rankings

/-! ## Windows -/

/-- Consecutive windows show every position once. -/
theorem flatMap_windows {α : Type} (size count : Nat) (items : List α) :
    ((List.range count).flatMap fun number => (items.drop (number * size)).take size) =
      items.take (count * size) := by
  induction count with
  | zero =>
      rw [Nat.zero_mul]
      rfl
  | succ count inductionHypothesis =>
      rw [List.range_succ, List.flatMap_append, inductionHypothesis, List.flatMap_singleton,
        Nat.succ_mul, List.take_add]

namespace FileQuery

variable {query : FileQuery} {tables : Tables}

/-- Links are looked at only if a tag is asked for. -/
theorem selects_of_no_tag (noTag : query.tagId = none) (links others : List TagLink) :
    query.selects links = query.selects others := by
  funext row
  simp [selects, admitsEarly, noTag]

theorem matchingRows_eq_ok {rows : List FileRow} (found : query.matchingRows tables = .ok rows) :
    rows =
      (tables.files.filter (query.selects (tables.links.getD []))).mergeSort query.precedes := by
  have sorted : ∀ {links : List TagLink},
      (query.selectRows links tables.files >>= fun selected =>
        pure (selected.mergeSort query.precedes)) = .ok rows →
      rows = (tables.files.filter (query.selects links)).mergeSort query.precedes := by
    intro links answered
    obtain ⟨selected, isSelection, same⟩ := except_bind_eq_ok.1 answered
    cases same
    rw [selectRows_eq_ok isSelection]
  unfold matchingRows Tables.requireLinks at found
  rcases tag : query.tagId with _ | tagId
  · rw [tag] at found
    rw [selects_of_no_tag tag (tables.links.getD []) []]
    exact sorted found
  · rw [tag] at found
    rcases present : tables.links with _ | links
    · rw [present] at found
      cases found
    · rw [present] at found
      exact sorted found

theorem matchingRows_of_shortPattern (short : query.HasShortPattern)
    (present : tables.links.isSome = true) :
    ∃ rows, query.matchingRows tables = .ok rows := by
  obtain ⟨links, isLinks⟩ := Option.isSome_iff_exists.1 present
  unfold matchingRows Tables.requireLinks
  rw [isLinks]
  rcases query.tagId with _ | tagId
  · exact ⟨_, except_bind_eq_ok.2 ⟨[], rfl,
      except_bind_eq_ok.2 ⟨_, selectRows_of_shortPattern short _, rfl⟩⟩⟩
  · exact ⟨_, except_bind_eq_ok.2 ⟨links, rfl,
      except_bind_eq_ok.2 ⟨_, selectRows_of_shortPattern short _, rfl⟩⟩⟩

theorem answer_eq_ok {page : Page FileRecord} (answered : query.answer tables = .ok page) :
    ∃ rows,
      query.matchingRows tables = .ok rows ∧ page.total = rows.length ∧
        ((rows.drop query.offset.toNat).take query.limit.toNat).mapM FileRow.toRecord =
          .ok page.items := by
  unfold answer at answered
  rcases found : query.matchingRows tables with failure | rows
  · rw [found] at answered
    cases answered
  rw [found] at answered
  refine ⟨rows, rfl, ?_⟩
  dsimp only at answered
  split at answered
  · rename_i nothing
    cases answered
    refine ⟨rfl, ?_⟩
    rcases nothing with noMatch | noLimit
    · rw [List.length_eq_zero_iff.1 noMatch, List.drop_nil, List.take_nil]
      rfl
    · rw [noLimit]
      rfl
  · split at answered
    · cases answered
    · rw [except_bind_eq_ok] at answered
      obtain ⟨items, converted, same⟩ := answered
      cases same
      exact ⟨rfl, converted⟩

theorem answer_of_matchingRows {rows : List FileRow}
    (found : query.matchingRows tables = .ok rows)
    (readable : ∀ row ∈ rows, ∃ file, row.toRecord = .ok file)
    (fits : query.offset.toNat < 0x8000000000000000) :
    ∃ page, query.answer tables = .ok page := by
  have converts : ∃ items,
      ((rows.drop query.offset.toNat).take query.limit.toNat).mapM FileRow.toRecord =
        .ok items :=
    exists_list_mapM_eq_ok fun row member =>
      readable row (List.mem_of_mem_drop (List.mem_of_mem_take member))
  obtain ⟨items, converted⟩ := converts
  unfold answer
  rw [found]
  dsimp only
  split
  · exact ⟨_, rfl⟩
  · rw [if_neg (Nat.not_le.2 fits), converted]
    exact ⟨_, rfl⟩

/-- The total counts the ranking, and the items are its window. -/
theorem answer_of_ranks (keyed : (tables.files.map FileRow.fileId).Nodup)
    {ranking : List FileRow}
    (ranks : query.sort.Ranks tables.files
      (fun row => query.selects (tables.links.getD []) row = true) ranking)
    {page : Page FileRecord} (answered : query.answer tables = .ok page) :
    page.total = ranking.length ∧
      List.Forall₂ (fun row file => row.toRecord = .ok file)
        (((query.direction.arrange ranking).drop query.offset.toNat).take query.limit.toNat)
        page.items := by
  obtain ⟨rows, found, counted, converted⟩ := answer_eq_ok answered
  have arranged : rows = query.direction.arrange ranking :=
    (matchingRows_eq_ok found).trans (query.mergeSort_precedes keyed ranks)
  rw [arranged] at counted converted
  exact ⟨counted.trans (query.direction.length_arrange ranking), list_mapM_eq_ok.1 converted⟩

end FileQuery

end ContentVault
