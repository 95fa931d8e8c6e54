import ContentVault.Proofs.Catalog.Codec
import ContentVault.Proofs.Catalog.Listing
import ContentVault.Proofs.Catalog.Tagging
import ContentVault.Proofs.Vault.Integrity
import ContentVault.Proofs.Vault.ListingOrder

/-!
# Pages of a listing

What a listing shows, in every state that a run of operations reaches from empty tables.

* a listing that is answered shows one page of the ranking of the files that the request
  selects, and its total counts all of them;
* a lower bound in time is taken for the start of its second, so files of that second are
  shown that lie before it;
* without faults every listing is answered;
* so the pages of one size, read one after another, show each of these files once.
-/

namespace ContentVault

open World StoreRequest

/-! ## Filters of a request -/

/-- A time that was stored, in nanoseconds.  Whole seconds are stored. -/
def storedNanoseconds (stored : Int64) : Int := stored.toInt * 1000000000

/-- The files that a request selects: those that are live and pass its filters.  Blank
filters are none, and a file lies within bounds that are the moment itself. -/
structure ListRequest.Selects (request : ListRequest) (tables : Tables) (row : FileRow) :
    Prop where
  live : row.trashedAt = none
  owner : ∀ owner, request.owner.bind nonBlank? = some owner → row.owner = owner
  name : ∀ part, request.name.bind nonBlank? = some part →
    matchesPattern (containsPattern part) row.fileName = true
  fileType : ∀ fileType, request.fileType.bind nonBlank? = some fileType →
    row.fileType = fileType
  createdFrom : ∀ bound, request.createdFrom = some bound →
    bound.nanoseconds ≤ storedNanoseconds row.createdAt
  createdTo : ∀ bound, request.createdTo = some bound →
    storedNanoseconds row.createdAt ≤ bound.nanoseconds
  updatedFrom : ∀ bound, request.updatedFrom = some bound →
    bound.nanoseconds ≤ storedNanoseconds row.updatedAt
  updatedTo : ∀ bound, request.updatedTo = some bound →
    storedNanoseconds row.updatedAt ≤ bound.nanoseconds
  tag : ∀ name, request.tag.bind nonBlank? = some name →
    ∃ tag links,
      tables.tag? name = some tag ∧ tables.links = some links ∧
        ⟨row.fileId, tag.tagId⟩ ∈ links

/-- The same request with lower bounds at the start of their seconds. -/
def ListRequest.fromWholeSeconds (request : ListRequest) : ListRequest :=
  { request with
    createdFrom := request.createdFrom.map Timestamp.wholeSecond
    updatedFrom := request.updatedFrom.map Timestamp.wholeSecond }

/-- A request whose lower bounds are whole seconds. -/
def ListRequest.StartsAtSeconds (request : ListRequest) : Prop :=
  (∀ bound, request.createdFrom = some bound → bound.nanosecond = 0) ∧
    ∀ bound, request.updatedFrom = some bound → bound.nanosecond = 0

/-- A request whose name filter gives a pattern that is evaluated. -/
def ListRequest.HasShortPattern (request : ListRequest) : Prop :=
  ∀ part, request.name.bind nonBlank? = some part →
    (containsPattern part).utf8ByteSize ≤ longestPattern

namespace Timestamp

variable {bound : Timestamp} {stored : Int64}

theorem wholeSecond_le_iff :
    bound.wholeSecond.nanoseconds ≤ storedNanoseconds stored ↔ bound.seconds ≤ stored.toInt := by
  change bound.seconds * 1000000000 + 0 ≤ stored.toInt * 1000000000 ↔ _
  omega

theorem le_nanoseconds_iff :
    storedNanoseconds stored ≤ bound.nanoseconds ↔ stored.toInt ≤ bound.seconds := by
  have fraction := bound.nanosecond_lt
  change stored.toInt * 1000000000 ≤ bound.seconds * 1000000000 + bound.nanosecond ↔ _
  omega

theorem wholeSecond_le (bound : Timestamp) :
    bound.wholeSecond.nanoseconds ≤ bound.nanoseconds := by
  change bound.seconds * 1000000000 + 0 ≤ bound.seconds * 1000000000 + bound.nanosecond
  omega

theorem wholeSecond_eq_self (whole : bound.nanosecond = 0) : bound.wholeSecond = bound := by
  obtain ⟨seconds, nanosecond, inRange, below⟩ := bound
  subst whole
  rfl

theorem map_wholeSecond_eq_self {bounds : Option Timestamp}
    (whole : ∀ bound, bounds = some bound → bound.nanosecond = 0) :
    bounds.map wholeSecond = bounds := by
  cases bounds with
  | none => rfl
  | some bound => exact congrArg some (wholeSecond_eq_self (whole bound rfl))

/-- A lower bound at the start of its second is a bound on whole seconds. -/
theorem forall_wholeSecond_le_iff {bounds : Option Timestamp} :
    (∀ bound, bounds.map wholeSecond = some bound →
        bound.nanoseconds ≤ storedNanoseconds stored) ↔
      ∀ bound, bounds = some bound → bound.seconds ≤ stored.toInt := by
  cases bounds with
  | none => simp
  | some bound => simp [wholeSecond_le_iff]

end Timestamp

namespace ListRequest

variable {request : ListRequest} {tables : Tables} {row : FileRow}

theorem fromWholeSeconds_eq_self (whole : request.StartsAtSeconds) :
    request.fromWholeSeconds = request := by
  rw [fromWholeSeconds, Timestamp.map_wholeSecond_eq_self whole.1,
    Timestamp.map_wholeSecond_eq_self whole.2]

/-- Lower bounds at the start of their seconds leave out no file. -/
theorem Selects.fromWholeSeconds (selects : request.Selects tables row) :
    request.fromWholeSeconds.Selects tables row := by
  have earlier : ∀ {bounds : Option Timestamp} {stored : Int64},
      (∀ bound, bounds = some bound → bound.nanoseconds ≤ storedNanoseconds stored) →
        ∀ bound, bounds.map Timestamp.wholeSecond = some bound →
          bound.nanoseconds ≤ storedNanoseconds stored := by
    rintro bounds stored within bound isBound
    obtain ⟨given, isGiven, rfl⟩ := Option.map_eq_some_iff.1 isBound
    exact given.wholeSecond_le.trans (within given isGiven)
  exact { selects with
    createdFrom := earlier selects.createdFrom
    updatedFrom := earlier selects.updatedFrom }

theorem selects_iff {tagId : Option String} {links : List TagLink}
    (sameTag :
      (∀ wanted, tagId = some wanted → ⟨row.fileId, wanted⟩ ∈ links) ↔
        ∀ name, request.tag.bind nonBlank? = some name →
          ∃ tag links,
            tables.tag? name = some tag ∧ tables.links = some links ∧
              ⟨row.fileId, tag.tagId⟩ ∈ links) :
    (Vault.queryOf request tagId).selects links row = true ↔
      request.fromWholeSeconds.Selects tables row := by
  rw [FileQuery.selects_iff, TimeRange.holds_iff, TimeRange.holds_iff]
  simp only [← Timestamp.forall_wholeSecond_le_iff, ← Timestamp.le_nanoseconds_iff]
  constructor
  · rintro ⟨live, tag, owner, name, fileType, ⟨createdFrom, createdTo⟩, updatedFrom, updatedTo⟩
    exact ⟨live, owner, name, fileType, createdFrom, createdTo, updatedFrom, updatedTo,
      sameTag.1 tag⟩
  · intro selects
    exact ⟨selects.live, sameTag.2 selects.tag, selects.owner, selects.name, selects.fileType,
      ⟨selects.createdFrom, selects.createdTo⟩, selects.updatedFrom, selects.updatedTo⟩

theorem selects_iff_of_no_tag (noTag : request.tag.bind nonBlank? = none)
    (links : List TagLink) :
    (Vault.queryOf request none).selects links row = true ↔
      request.fromWholeSeconds.Selects tables row := by
  refine selects_iff ⟨?_, ?_⟩
  · intro _ name isName
    rw [noTag] at isName
    cases isName
  · intro _ wanted isWanted
    cases isWanted

theorem selects_iff_of_tag {name : String} {tag : Tag}
    (asked : request.tag.bind nonBlank? = some name) (known : tables.tag? name = some tag) :
    (Vault.queryOf request (some tag.tagId)).selects (tables.links.getD []) row = true ↔
      request.fromWholeSeconds.Selects tables row := by
  refine selects_iff ⟨?_, ?_⟩
  · intro linked other isName
    obtain rfl : name = other := Option.some.inj (asked.symm.trans isName)
    have member := linked tag.tagId rfl
    rcases present : tables.links with _ | links
    · rw [present, Option.getD_none] at member
      cases member
    · rw [present, Option.getD_some] at member
      exact ⟨tag, links, known, rfl, member⟩
  · rintro tagged wanted ⟨⟩
    obtain ⟨other, links, isTag, present, member⟩ := tagged name asked
    obtain rfl : tag = other := Option.some.inj (known.symm.trans isTag)
    rw [present]
    exact member

theorem not_selects_of_unknown_tag {name : String}
    (asked : request.tag.bind nonBlank? = some name) (unknown : tables.tag? name = none) :
    ¬ request.fromWholeSeconds.Selects tables row := by
  intro selects
  obtain ⟨tag, _, known, _⟩ := selects.tag name asked
  rw [unknown] at known
  cases known

end ListRequest

/-! ## Numbers of pages -/

namespace Vault

theorem pageOf_toNat (page : Int) :
    ((pageOf page).toNat : Int) = max 1 (min page 0xFFFFFFFF) := by
  unfold pageOf
  split
  · rename_i small
    change (1 : Int) = _
    omega
  · split
    · rename_i positive fits
      have same : (UInt32.ofNat page.toNat).toNat = page.toNat :=
        UInt32.toNat_ofNat_of_lt' (by change page.toNat < 4294967296; omega)
      omega
    · change (0xFFFFFFFF : Int) = _
      omega

theorem pageSizeOf_toNat (pageSize : Int) :
    ((pageSizeOf pageSize).toNat : Int) =
      if 1 ≤ pageSize ∧ pageSize ≤ 100 then pageSize else 10 := by
  have most : ((maxPageSize.toNat : Nat) : Int) = 100 := rfl
  rw [pageSizeOf, most]
  split
  · rename_i inRange
    have same : (UInt32.ofNat pageSize.toNat).toNat = pageSize.toNat :=
      UInt32.toNat_ofNat_of_lt' (by change pageSize.toNat < 4294967296; omega)
    omega
  · rfl

theorem pageSizeOf_bounds (pageSize : Int) :
    1 ≤ (pageSizeOf pageSize).toNat ∧ (pageSizeOf pageSize).toNat ≤ 100 := by
  have same := pageSizeOf_toNat pageSize
  split at same <;> omega

/-- The number of earlier matches is computed without overflow. -/
theorem offsetOf_toNat {page pageSize : UInt32} (first : 1 ≤ page.toNat)
    (atMost : pageSize.toNat ≤ 100) :
    (offsetOf page pageSize).toNat = (page.toNat - 1) * pageSize.toNat ∧
      (offsetOf page pageSize).toNat < 0x8000000000000000 := by
  have below := page.toNat_lt
  have product : (page.toNat - 1) * pageSize.toNat ≤ 4294967295 * 100 :=
    Nat.mul_le_mul (by omega) atMost
  have earlier : (page - 1).toNat = page.toNat - 1 :=
    UInt32.toNat_sub_of_le page 1 (UInt32.le_iff_toNat_le.2 first)
  have same : (offsetOf page pageSize).toNat = (page.toNat - 1) * pageSize.toNat := by
    rw [offsetOf, UInt64.toNat_mul, UInt32.toNat_toUInt64, UInt32.toNat_toUInt64, earlier]
    exact Nat.mod_eq_of_lt (by omega)
  exact ⟨same, by omega⟩

end Vault

/-! ## Answers -/

/-- How a file appears in a listing. -/
def Tables.Describes (tables : Tables) (row : FileRow) (item : FileMetadata) : Prop :=
  ∃ file names,
    row.toRecord = .ok file ∧ tables.tagNames row.fileId = .ok names ∧
      item = FileMetadata.current file names

/-- A listing that shows the page of a ranking that a request asks for. -/
structure ListRequest.Shows (request : ListRequest) (tables : Tables) (ranking : List FileRow)
    (listing : Listing) : Prop where
  page : (listing.page.toNat : Int) = max 1 (min request.page 0xFFFFFFFF)
  pageSize : (listing.pageSize.toNat : Int) =
    if 1 ≤ request.pageSize ∧ request.pageSize ≤ 100 then request.pageSize else 10
  total : listing.total = ranking.length
  items : ∀ direction : SortDirection, direction.IsChosenBy request.direction →
    List.Forall₂ tables.Describes
      (((direction.arrange ranking).drop
          ((listing.page.toNat - 1) * listing.pageSize.toNat)).take listing.pageSize.toNat)
      listing.items

/-- A file that an answer describes, with the names of its tags. -/
def Tables.DescribesFile (tables : Tables) (file : FileRecord) (item : FileMetadata) : Prop :=
  ∃ names, tables.tagNames file.fileId = .ok names ∧ item = FileMetadata.current file names

namespace Tables

variable {tables : Tables}

theorem Describes.fileId_eq {row : FileRow} {item : FileMetadata}
    (describes : tables.Describes row item) :
    item.fileId = row.fileId := by
  obtain ⟨file, names, decoded, _, rfl⟩ := describes
  exact FileRow.fileId_of_toRecord decoded

theorem describes_of_decoded {rows : List FileRow} {files : List FileRecord}
    {items : List FileMetadata}
    (decoded : List.Forall₂ (fun row file => row.toRecord = .ok file) rows files)
    (described : List.Forall₂ tables.DescribesFile files items) :
    List.Forall₂ tables.Describes rows items := by
  induction decoded generalizing items with
  | nil =>
      cases described
      exact .nil
  | cons isFile _ inductionHypothesis =>
      cases described with
      | cons describes others =>
          obtain ⟨names, named, isItem⟩ := describes
          rw [FileRow.fileId_of_toRecord isFile] at named
          exact .cons ⟨_, names, isFile, named, isItem⟩ (inductionHypothesis others)

end Tables

namespace Vault

variable {request : ListRequest} {conditions : Conditions} {before after : World}
  {listing : Listing} {ranking : List FileRow}

theorem listMatching_eq_ok {tagId : Option String}
    (done : listMatching request tagId conditions before = (.ok listing, after)) :
    ∃ found,
      (queryOf request tagId).answer before.tables = .ok found ∧
        listing.page = pageOf request.page ∧ listing.pageSize = pageSizeOf request.pageSize ∧
        listing.total = found.total ∧
        List.Forall₂ before.tables.DescribesFile found.items listing.items := by
  unfold listMatching at done
  dsimp only at done
  rw [VaultAction.bind_eq_ok] at done
  obtain ⟨found, between, looked, done⟩ := done
  have answered := read_eq_ok (bounded_eq_ok.1 looked)
  have sameTables := (read_noted (bounded_eq_ok.1 looked)).tables
  refine ⟨found, answered, ?_⟩
  split at done
  · rename_i nothing
    cases done
    rw [List.isEmpty_iff.1 nothing]
    exact ⟨rfl, rfl, rfl, .nil⟩
  · rw [VaultAction.bind_eq_ok] at done
    obtain ⟨entries, last, tagged, done⟩ := done
    cases done
    have named := read_eq_ok (bounded_eq_ok.1 tagged)
    rw [sameTables] at named
    refine ⟨rfl, rfl, rfl, ?_⟩
    rw [List.forall₂_map_right_iff, List.forall₂_same]
    intro file member
    exact ⟨_, Tables.tagNames_of_tagsForFiles named (List.mem_map_of_mem member), rfl⟩

theorem shows_of_listMatching (keyed : (before.tables.files.map FileRow.fileId).Nodup)
    (ranks : (sortKeyOf request.sort).Ranks before.tables.files
      (request.fromWholeSeconds.Selects before.tables) ranking)
    {tagId : Option String}
    (selects : ∀ row,
      (queryOf request tagId).selects (before.tables.links.getD []) row = true ↔
        request.fromWholeSeconds.Selects before.tables row)
    (done : listMatching request tagId conditions before = (.ok listing, after)) :
    request.Shows before.tables ranking listing := by
  obtain ⟨found, answered, samePage, sameSize, counted, described⟩ := listMatching_eq_ok done
  have clamped := pageOf_toNat request.page
  have rankedByQuery : (queryOf request tagId).sort.Ranks before.tables.files
      (fun row => (queryOf request tagId).selects (before.tables.links.getD []) row = true)
      ranking :=
    ⟨fun row => (ranks.mem_iff row).trans (and_congr_right' (selects row).symm), ranks.ascends⟩
  obtain ⟨total, decoded⟩ := FileQuery.answer_of_ranks keyed rankedByQuery answered
  have offset : (queryOf request tagId).offset.toNat =
      (listing.page.toNat - 1) * listing.pageSize.toNat := by
    rw [samePage, sameSize]
    exact (offsetOf_toNat (by omega) (pageSizeOf_bounds request.pageSize).2).1
  have limit : (queryOf request tagId).limit = listing.pageSize := sameSize.symm
  rw [offset, limit] at decoded
  refine ⟨?_, ?_, counted.trans total, fun direction chosen => ?_⟩
  · rw [samePage, clamped]
  · rw [sameSize, pageSizeOf_toNat]
  · rw [← directionOf_eq_iff.2 chosen]
    exact Tables.describes_of_decoded decoded described

/-- A listing that is answered shows a page of the ranking of all selected files. -/
theorem shows_of_list (keyed : (before.tables.files.map FileRow.fileId).Nodup)
    (ranks : (sortKeyOf request.sort).Ranks before.tables.files
      (request.fromWholeSeconds.Selects before.tables) ranking)
    (done : list request conditions before = (.ok listing, after)) :
    request.Shows before.tables ranking listing := by
  unfold list at done
  rcases asked : request.tag.bind nonBlank? with _ | name
  · rw [asked] at done
    exact shows_of_listMatching keyed ranks
      (fun _ => ListRequest.selects_iff_of_no_tag asked _) done
  rw [asked] at done
  dsimp only at done
  rw [VaultAction.bind_eq_ok] at done
  obtain ⟨found, between, looked, done⟩ := done
  have known := read_eq_ok (bounded_eq_ok.1 looked)
  have sameTables := (read_noted (bounded_eq_ok.1 looked)).tables
  cases known
  rcases found : before.tables.tag? name with _ | tag
  · rw [found] at done
    cases done
    have nothing : ranking = [] := by
      refine List.eq_nil_iff_forall_not_mem.2 fun row member => ?_
      exact ListRequest.not_selects_of_unknown_tag asked found ((ranks.mem_iff row).1 member).2
    rw [nothing]
    refine ⟨pageOf_toNat request.page, pageSizeOf_toNat request.pageSize, rfl, ?_⟩
    intro direction _
    cases direction <;> simp [SortDirection.arrange]
  · rw [found] at done
    rw [← sameTables] at keyed ranks found ⊢
    exact shows_of_listMatching keyed ranks
      (fun _ => ListRequest.selects_iff_of_tag asked found) done

/-! ## Listings without faults -/

theorem listMatching_of_noFaults (sound : before.tables.Sound)
    (short : request.HasShortPattern) (faultless : conditions.faults = noFaults)
    (tagId : Option String) :
    ∃ listing after,
      listMatching request tagId conditions before = (.ok listing, after) := by
  have clamped := pageOf_toNat request.page
  obtain ⟨rows, matching⟩ : ∃ rows,
      (queryOf request tagId).matchingRows before.tables = .ok rows :=
    FileQuery.matchingRows_of_shortPattern short sound.links
  have readable : ∀ row ∈ rows, ∃ file, row.toRecord = .ok file := by
    intro row member
    rw [FileQuery.matchingRows_eq_ok matching, List.mem_mergeSort, List.mem_filter] at member
    exact (sound.files row member.1).toRecord_eq_ok
  have fits : (queryOf request tagId).offset.toNat < 0x8000000000000000 :=
    (offsetOf_toNat (by omega) (pageSizeOf_bounds request.pageSize).2).2
  obtain ⟨found, answered⟩ := FileQuery.answer_of_matchingRows matching readable fits
  obtain ⟨between, looked, sameTables⟩ :=
    bounded_read_of_noFaults .catalogRead .listFiles
      (fun tables => tables.listFiles (queryOf request tagId)) faultless answered
  unfold listMatching
  dsimp only
  rw [VaultAction.bind_apply, listFiles, looked]
  dsimp only
  split
  · exact ⟨_, _, rfl⟩
  · obtain ⟨entries, named⟩ :=
      Tables.exists_tagsForFiles sound.links (found.items.map FileRecord.fileId)
    rw [← sameTables] at named
    obtain ⟨last, tagged, _⟩ :=
      bounded_read_of_noFaults .catalogRead .tagsForFiles
        (fun tables => tables.tagsForFiles (found.items.map FileRecord.fileId)) faultless named
    rw [VaultAction.bind_apply, tagsForFiles, tagged]
    exact ⟨_, _, rfl⟩

theorem list_of_noFaults (sound : before.tables.Sound) (short : request.HasShortPattern)
    (faultless : conditions.faults = noFaults) :
    ∃ listing after, list request conditions before = (.ok listing, after) := by
  unfold list
  rcases request.tag.bind nonBlank? with _ | name
  · exact listMatching_of_noFaults sound short faultless none
  obtain ⟨between, looked, sameTables⟩ :=
    bounded_read_of_noFaults .catalogRead .findTag (fun tables => tables.findTag name)
      faultless rfl
  dsimp only
  rw [VaultAction.bind_apply, findTag, looked]
  rw [← sameTables] at sound
  rcases before.tables.tag? name with _ | tag
  · exact ⟨_, _, rfl⟩
  · exact listMatching_of_noFaults sound short faultless (some tag.tagId)

end Vault

/-! ## Pages of a ranking -/

namespace ListRequest

/-- The same request for another page or the other direction. -/
def onPage (request : ListRequest) (direction : Option String) (page pageSize : Int) :
    ListRequest :=
  { request with direction, page, pageSize }

/-- Whether a listing is what the vault answers to a request. -/
def IsAnsweredBy (request : ListRequest) (conditions : Conditions) (world : World)
    (listing : Listing) : Prop :=
  ∃ after, Vault.list request conditions world = (.ok listing, after)

/-- Whether listings are what the vault answers to requests for the first pages, one after
another. -/
def AreAnsweredBy (request : ListRequest) (direction : Option String) (pageSize : Int)
    (conditions : Conditions) (world : World) (count : Nat) (listings : Nat → Listing) : Prop :=
  ∀ number < count,
    (request.onPage direction (number + 1) pageSize).IsAnsweredBy conditions world
      (listings number)

/-- The files on the first pages, one after another. -/
def shownFileIds (count : Nat) (listings : Nat → Listing) : List String :=
  (List.range count).flatMap fun number => (listings number).items.map FileMetadata.fileId

variable {request : ListRequest} {tables : Tables} {ranking : List FileRow} {listing : Listing}

theorem selects_onPage {direction : Option String} {page pageSize : Int} {row : FileRow} :
    (request.onPage direction page pageSize).Selects tables row ↔
      request.Selects tables row := by
  constructor
  · intro selects
    exact ⟨selects.live, selects.owner, selects.name, selects.fileType, selects.createdFrom,
      selects.createdTo, selects.updatedFrom, selects.updatedTo, selects.tag⟩
  · intro selects
    exact ⟨selects.live, selects.owner, selects.name, selects.fileType, selects.createdFrom,
      selects.createdTo, selects.updatedFrom, selects.updatedTo, selects.tag⟩

/-- Page, page size and direction have no say in what is selected: a ranking serves all. -/
theorem shows_of_isAnsweredBy {world : World} {conditions : Conditions}
    {direction : Option String} {page pageSize : Int}
    (keyed : (world.tables.files.map FileRow.fileId).Nodup)
    (ranks : (Vault.sortKeyOf request.sort).Ranks world.tables.files
      (request.fromWholeSeconds.Selects world.tables) ranking)
    (answered : (request.onPage direction page pageSize).IsAnsweredBy conditions world listing) :
    (request.onPage direction page pageSize).Shows world.tables ranking listing := by
  obtain ⟨after, done⟩ := answered
  refine Vault.shows_of_list keyed ⟨fun row => ?_, ranks.ascends⟩ done
  rw [ranks.mem_iff]
  exact and_congr_right' selects_onPage.symm

theorem Shows.pageSize_eq (shows : request.Shows tables ranking listing) :
    listing.pageSize.toNat = (Vault.pageSizeOf request.pageSize).toNat := by
  have same := shows.pageSize.trans (Vault.pageSizeOf_toNat request.pageSize).symm
  exact Int.ofNat_inj.1 same

theorem Shows.fileIds (shows : request.Shows tables ranking listing)
    {towards : SortDirection} (chosen : towards.IsChosenBy request.direction) :
    listing.items.map FileMetadata.fileId =
      (((towards.arrange ranking).drop
          ((listing.page.toNat - 1) * listing.pageSize.toNat)).take
        listing.pageSize.toNat).map FileRow.fileId := by
  have same := (shows.items towards chosen).imp fun _ _ describes => describes.fileId_eq
  rw [← List.forall₂_eq_eq_eq, List.forall₂_map_left_iff, List.forall₂_map_right_iff]
  exact List.Forall₂.flip same

theorem Shows.items_eq_nil (shows : request.Shows tables ranking listing)
    (pastEnd : ranking.length ≤ (listing.page.toNat - 1) * listing.pageSize.toNat) :
    listing.items = [] := by
  have window := shows.items _ (directionOf_eq_iff.1 rfl)
  rw [List.drop_eq_nil_of_le (by rwa [SortDirection.length_arrange]), List.take_nil,
    List.forall₂_nil_left_iff] at window
  exact window

/-- The number of earlier matches is computed without overflow. -/
theorem Shows.offsetOf_toNat (shows : request.Shows tables ranking listing) :
    (Vault.offsetOf listing.page listing.pageSize).toNat =
        (listing.page.toNat - 1) * listing.pageSize.toNat ∧
      (Vault.offsetOf listing.page listing.pageSize).toNat < 0x8000000000000000 := by
  have first := shows.page
  have bounds := Vault.pageSizeOf_bounds request.pageSize
  exact Vault.offsetOf_toNat (by omega) (shows.pageSize_eq ▸ bounds.2)

/-- The pages of one size, read one after another, show a ranking from its start. -/
theorem flatMap_pages {direction : Option String} {towards : SortDirection}
    (chosen : towards.IsChosenBy direction) {pageSize : Int} {count : Nat}
    (reachable : count ≤ 0xFFFFFFFF) {listings : Nat → Listing}
    (shown : ∀ number < count,
      (request.onPage direction (number + 1) pageSize).Shows tables ranking
        (listings number)) :
    shownFileIds count listings =
      ((towards.arrange ranking).take
        (count * (Vault.pageSizeOf pageSize).toNat)).map FileRow.fileId := by
  rw [shownFileIds, ← flatMap_windows, List.map_flatMap]
  refine List.flatMap_congr fun number inRange => ?_
  have shows := shown number (List.mem_range.1 inRange)
  have position : (listings number).page.toNat - 1 = number := by
    have page := shows.page
    have below := List.mem_range.1 inRange
    change _ = max 1 (min ((number : Int) + 1) _) at page
    omega
  rw [shows.fileIds chosen, position, shows.pageSize_eq]
  rfl

/-- Descending pages show the files of ascending ones in reverse, if all of them are read. -/
theorem shownFileIds_reverse {upward downward : Option String}
    (ascending : SortDirection.ascending.IsChosenBy upward)
    (descending : SortDirection.descending.IsChosenBy downward) {pageSize : Int} {count : Nat}
    (reachable : count ≤ 0xFFFFFFFF)
    (enough : ranking.length ≤ count * (Vault.pageSizeOf pageSize).toNat)
    {rising falling : Nat → Listing}
    (risingShown : ∀ number < count,
      (request.onPage upward (number + 1) pageSize).Shows tables ranking (rising number))
    (fallingShown : ∀ number < count,
      (request.onPage downward (number + 1) pageSize).Shows tables ranking (falling number)) :
    shownFileIds count falling = (shownFileIds count rising).reverse := by
  rw [flatMap_pages ascending reachable risingShown,
    flatMap_pages descending reachable fallingShown, List.take_of_length_le,
    List.take_of_length_le, ← List.map_reverse]
  · rfl
  · rwa [SortDirection.length_arrange]
  · rwa [SortDirection.length_arrange]

end ListRequest

/-- Listings partition what they are asked for. In every state that a run reaches, the files
that a request selects have one ranking, by the chosen column and then by their identifiers;
a lower bound in time counts from the start of its second, which only lets more files in.
Without faults every page of the ranking, in either direction, is answered with the files at
its positions and with the number of all of them; consecutive pages show each of them once,
and descending pages in the reverse order of ascending ones. -/
theorem listing_pages_partition (schedule : List ScheduledOperation) (start : World)
    (emptyTables : start.tables = Tables.empty) (request : ListRequest)
    (short : request.HasShortPattern) :
    ∃ key ranking,
      SortKey.IsChosenBy request.sort key ∧
        key.Ranks (runOperations schedule start).tables.files
          (request.fromWholeSeconds.Selects (runOperations schedule start).tables) ranking ∧
        (∀ row, request.Selects (runOperations schedule start).tables row →
          request.fromWholeSeconds.Selects (runOperations schedule start).tables row) ∧
        (request.StartsAtSeconds →
          key.Ranks (runOperations schedule start).tables.files
            (request.Selects (runOperations schedule start).tables) ranking) ∧
        ∀ conditions : Conditions, conditions.faults = noFaults →
          (∀ (direction : Option String) (page pageSize : Int), ∃ listing,
            (request.onPage direction page pageSize).IsAnsweredBy conditions
                (runOperations schedule start) listing ∧
              (request.onPage direction page pageSize).Shows
                (runOperations schedule start).tables ranking listing ∧
              (ranking.length ≤ (listing.page.toNat - 1) * listing.pageSize.toNat →
                listing.items = []) ∧
              (Vault.offsetOf listing.page listing.pageSize).toNat =
                (listing.page.toNat - 1) * listing.pageSize.toNat ∧
              (Vault.offsetOf listing.page listing.pageSize).toNat < 0x8000000000000000) ∧
            (∀ (direction : Option String) (towards : SortDirection) (pageSize : Int)
                (count : Nat) (listings : Nat → Listing),
              towards.IsChosenBy direction → count ≤ 0xFFFFFFFF →
                request.AreAnsweredBy direction pageSize conditions
                    (runOperations schedule start) count listings →
                  ListRequest.shownFileIds count listings =
                    ((towards.arrange ranking).take
                      (count * (Vault.pageSizeOf pageSize).toNat)).map FileRow.fileId) ∧
              ∀ (upward downward : Option String) (pageSize : Int) (count : Nat)
                  (rising falling : Nat → Listing),
                SortDirection.ascending.IsChosenBy upward →
                  SortDirection.descending.IsChosenBy downward → count ≤ 0xFFFFFFFF →
                    ranking.length ≤ count * (Vault.pageSizeOf pageSize).toNat →
                      request.AreAnsweredBy upward pageSize conditions
                          (runOperations schedule start) count rising →
                        request.AreAnsweredBy downward pageSize conditions
                            (runOperations schedule start) count falling →
                          ListRequest.shownFileIds count falling =
                            (ListRequest.shownFileIds count rising).reverse := by
  have sound := sound_runOperations schedule start (emptyTables ▸ Tables.sound_empty)
  have keyed := (emptyTables ▸ evolves_runOperations schedule start).keyed_of_empty
  generalize runOperations schedule start = world at sound keyed
  obtain ⟨ranking, ranks⟩ := (Vault.sortKeyOf request.sort).exists_ranks keyed
    (request.fromWholeSeconds.Selects world.tables)
  have shows : ∀ {conditions : Conditions} {direction : Option String} {page pageSize : Int}
      {listing : Listing},
      (request.onPage direction page pageSize).IsAnsweredBy conditions world listing →
        (request.onPage direction page pageSize).Shows world.tables ranking listing :=
    ListRequest.shows_of_isAnsweredBy keyed ranks
  refine ⟨Vault.sortKeyOf request.sort, ranking, sortKeyOf_eq_iff.1 rfl, ranks,
    fun _ => ListRequest.Selects.fromWholeSeconds,
    fun whole => ListRequest.fromWholeSeconds_eq_self whole ▸ ranks,
    fun conditions faultless => ⟨?_, ?_, ?_⟩⟩
  · intro direction page pageSize
    obtain ⟨listing, answered⟩ :
        ∃ listing, (request.onPage direction page pageSize).IsAnsweredBy conditions world
          listing :=
      Vault.list_of_noFaults sound short faultless
    have shown := shows answered
    exact ⟨listing, answered, shown, shown.items_eq_nil, shown.offsetOf_toNat⟩
  · intro direction towards pageSize count listings chosen reachable answered
    exact ListRequest.flatMap_pages chosen reachable fun number below =>
      shows (answered number below)
  · intro upward downward pageSize count rising falling ascending descending reachable enough
      risingAnswered fallingAnswered
    exact ListRequest.shownFileIds_reverse ascending descending reachable enough
      (fun number below => shows (risingAnswered number below))
      fun number below => shows (fallingAnswered number below)

/-- Ask for the notes of an owner by a part of their name, from a moment on. -/
def notesOfAlice (earliest : Timestamp) : ListRequest where
  owner := some " alice "
  name := some "NOTES"
  fileType := none
  tag := some "home "
  createdFrom := some earliest
  createdTo := none
  updatedFrom := none
  updatedTo := none
  sort := some " Name"
  direction := none
  page := 1
  pageSize := 0

/-- The vault after the first upload, as a run reaches it. -/
def afterFirstUpload : World :=
  runOperations [undisturbed (.upload Vault.firstUpload)] (Vault.emptyVault .empty)

/-- The first upload is the only file on the first page of those from its moment on. -/
theorem first_upload_is_listed :
    (Vault.emptyVault .empty).tables = Tables.empty ∧
      (notesOfAlice Vault.firstMoment).HasShortPattern ∧
      (notesOfAlice Vault.firstMoment).StartsAtSeconds ∧
      ∃ ranking listing,
        SortKey.name.Ranks afterFirstUpload.tables.files
            ((notesOfAlice Vault.firstMoment).Selects afterFirstUpload.tables) ranking ∧
          ((notesOfAlice Vault.firstMoment).onPage none 1 0).IsAnsweredBy
            (Vault.conditionsWith noFaults) afterFirstUpload listing ∧
          ((notesOfAlice Vault.firstMoment).onPage none 1 0).Shows afterFirstUpload.tables
            ranking listing ∧
          ranking.length = 1 ∧ listing.items.map FileMetadata.fileName = ["notes.md"] := by
  have short : (notesOfAlice Vault.firstMoment).HasShortPattern := by
    have part : (notesOfAlice Vault.firstMoment).name.bind nonBlank? = some "NOTES" := by
      decide +kernel
    intro given isGiven
    obtain rfl := Option.some.inj (part.symm.trans isGiven)
    decide +kernel
  have whole : (notesOfAlice Vault.firstMoment).StartsAtSeconds := by
    constructor
    · rintro bound ⟨⟩
      rfl
    · rintro bound ⟨⟩
  have byName : Vault.sortKeyOf (notesOfAlice Vault.firstMoment).sort = .name := by
    decide +kernel
  have evaluated : (Vault.list ((notesOfAlice Vault.firstMoment).onPage none 1 0)
      (Vault.conditionsWith noFaults) afterFirstUpload).1.toOption.map
        (fun listing => (listing.total, listing.items.map FileMetadata.fileName)) =
      some (1, ["notes.md"]) := by
    decide +kernel
  refine ⟨rfl, short, whole, ?_⟩
  obtain ⟨key, ranking, chosen, _, _, ranks, pages⟩ :=
    listing_pages_partition [undisturbed (.upload Vault.firstUpload)] (Vault.emptyVault .empty)
      rfl (notesOfAlice Vault.firstMoment) short
  obtain rfl : SortKey.name = key := byName.symm.trans (sortKeyOf_eq_iff.2 chosen)
  obtain ⟨onePage, _⟩ := pages (Vault.conditionsWith noFaults) rfl
  obtain ⟨listing, ⟨after, answered⟩, shows, _⟩ := onePage none 1 0
  change Vault.list _ _ afterFirstUpload = _ at answered
  rw [answered] at evaluated
  obtain ⟨total, names⟩ := Prod.mk.inj (Option.some.inj evaluated)
  exact ⟨ranking, listing, ranks whole, ⟨after, answered⟩, shows,
    shows.total.symm.trans total, names⟩

/-- Half a second after the first upload. -/
def halfSecondLater : Timestamp :=
  { Vault.firstMoment with nanosecond := 500000000, nanosecond_lt := by decide }

/-- Fractions of a second are dropped from lower bounds: a listing from half a second after
the first upload on shows it, and counts it, although no file lies within that bound. -/
theorem earlier_file_is_listed :
    (∀ row ∈ afterFirstUpload.tables.files,
        ¬ (notesOfAlice halfSecondLater).Selects afterFirstUpload.tables row) ∧
      ∃ listing,
        (notesOfAlice halfSecondLater).IsAnsweredBy (Vault.conditionsWith noFaults)
            afterFirstUpload listing ∧
          listing.total = 1 ∧ listing.items.map FileMetadata.fileName = ["notes.md"] := by
  obtain ⟨earlier, evaluated⟩ :
      (∀ row ∈ afterFirstUpload.tables.files,
          storedNanoseconds row.createdAt < halfSecondLater.nanoseconds) ∧
        (Vault.list (notesOfAlice halfSecondLater) (Vault.conditionsWith noFaults)
            afterFirstUpload).1.toOption.map
              (fun listing => (listing.total, listing.items.map FileMetadata.fileName)) =
          some (1, ["notes.md"]) := by
    decide +kernel
  refine ⟨fun row member selects => ?_, ?_⟩
  · exact absurd (selects.createdFrom halfSecondLater rfl) (Int.not_le.2 (earlier row member))
  · rcases answered : Vault.list (notesOfAlice halfSecondLater) (Vault.conditionsWith noFaults)
      afterFirstUpload with ⟨failure | listing, after⟩
    · rw [answered] at evaluated
      cases evaluated
    · rw [answered] at evaluated
      obtain ⟨total, names⟩ := Prod.mk.inj (Option.some.inj evaluated)
      exact ⟨listing, ⟨after, answered⟩, total, names⟩

end ContentVault
