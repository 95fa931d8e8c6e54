import ContentVault.Proofs.Vault.Labels
import ContentVault.Proofs.Vault.Pages

/-!
# Finding files by their labels

Which files a listing by owner, type or tag finds, in every state that a run of operations
reaches from empty tables.

* a listing trims the label that it is asked for, and ignores a blank one, but it compares
  the rest with what is stored, character by character;
* so a file is found by its own owner or type, together with exactly the files that share
  it, if that text is tidy; otherwise others are found in its place;
* names of tags are always tidy, so every file is found by each of its tags.
-/

namespace ContentVault

open World StoreRequest

/-! ## Listings by labels -/

/-- A request for the files with given labels. -/
def ListRequest.byLabels (owner fileType tag sort : Option String) : ListRequest where
  owner
  name := none
  fileType
  tag
  createdFrom := none
  createdTo := none
  updatedFrom := none
  updatedTo := none
  sort
  direction := none
  page := 1
  pageSize := 0

/-- The files that have given labels.  A label is trimmed, and a blank one is none. -/
@[mk_iff]
structure Tables.HasLabels (tables : Tables)
    (owner fileType tag : Option String) (row : FileRow) : Prop where
  owner : ∀ text, owner.bind nonBlank? = some text → row.owner = text
  fileType : ∀ text, fileType.bind nonBlank? = some text → row.fileType = text
  tag : ∀ name, tag.bind nonBlank? = some name → tables.Carries row.fileId name

/-- Over all of its pages and in either direction, a request shows exactly the live files
that are wanted, each once. -/
def ListRequest.Finds (request : ListRequest) (world : World) (wanted : FileRow → Prop) :
    Prop :=
  ∃ found,
    (Vault.sortKeyOf request.sort).Ranks world.tables.files
        (fun row => row.trashedAt = none ∧ wanted row) found ∧
      ∀ conditions : Conditions, conditions.faults = noFaults →
        ∀ (direction : Option String) (pageSize : Int),
          (∀ page : Int, ∃ listing,
            (request.onPage direction page pageSize).IsAnsweredBy conditions world listing ∧
              (request.onPage direction page pageSize).Shows world.tables found listing) ∧
            ∀ (count : Nat) (listings : Nat → Listing),
              count ≤ 0xFFFFFFFF → found.length ≤ count * (Vault.pageSizeOf pageSize).toNat →
                (∀ number < count,
                  (request.onPage direction (number + 1) pageSize).IsAnsweredBy conditions
                    world (listings number)) →
                ((List.range count).flatMap fun number =>
                    (listings number).items.map FileMetadata.fileId) =
                  ((Vault.directionOf direction).arrange found).map FileRow.fileId

namespace ListRequest

variable {request : ListRequest} {world : World} {row : FileRow}
  {wanted others : FileRow → Prop} {owner fileType tag sort : Option String}

theorem Finds.congr (finds : request.Finds world wanted)
    (same : ∀ row, wanted row ↔ others row) :
    request.Finds world others := by
  have sameWanted : wanted = others := funext fun row => propext (same row)
  exact sameWanted ▸ finds

/-- A request does not find fewer files than it finds: its total is one number. -/
theorem Finds.wanted_of_subset (finds : request.Finds world wanted)
    (findsOthers : request.Finds world others)
    (subset : ∀ row ∈ world.tables.files, wanted row → others row)
    (registered : row ∈ world.tables.files) (live : row.trashedAt = none)
    (isOther : others row) :
    wanted row := by
  obtain ⟨found, ranks, pages⟩ := finds
  obtain ⟨allFound, allRanks, allPages⟩ := findsOthers
  obtain ⟨listing, ⟨after, answered⟩, shows⟩ :=
    (pages (Vault.conditionsWith noFaults) rfl none 0).1 1
  obtain ⟨other, ⟨otherAfter, otherAnswered⟩, otherShows⟩ :=
    (allPages (Vault.conditionsWith noFaults) rfl none 0).1 1
  rw [answered] at otherAnswered
  cases otherAnswered
  have sameLength : found.length = allFound.length :=
    shows.total.symm.trans otherShows.total
  have within : found ⊆ allFound := by
    intro each member
    obtain ⟨isRegistered, isLive, isWanted⟩ := (ranks.mem_iff each).1 member
    exact (allRanks.mem_iff each).2
      ⟨isRegistered, isLive, subset each isRegistered isWanted⟩
  have distinct : found.Nodup := ranks.ascends.imp fun isBefore => ne_of_irrefl isBefore
  have same : found.Perm allFound :=
    (List.subperm_of_subset distinct within).perm_of_length_le sameLength.ge
  have isFound : row ∈ found :=
    same.mem_iff.2 ((allRanks.mem_iff row).2 ⟨registered, live, isOther⟩)
  exact ((ranks.mem_iff row).1 isFound).2.2

/-- A request finds what it selects. -/
theorem finds_of_selects (sound : world.tables.Sound)
    (keyed : (world.tables.files.map FileRow.fileId).Nodup)
    (short : request.HasShortPattern)
    (selects : ∀ row, request.fromWholeSeconds.Selects world.tables row ↔
      row.trashedAt = none ∧ wanted row) :
    request.Finds world wanted := by
  obtain ⟨found, ranks⟩ := (Vault.sortKeyOf request.sort).exists_ranks keyed
    fun row => row.trashedAt = none ∧ wanted row
  refine ⟨found, ranks, fun conditions faultless direction pageSize => ?_⟩
  have shows : ∀ {page : Int} {listing : Listing},
      (request.onPage direction page pageSize).IsAnsweredBy conditions world listing →
        (request.onPage direction page pageSize).Shows world.tables found listing :=
    shows_of_isAnsweredBy keyed
      ⟨fun row => (ranks.mem_iff row).trans (and_congr_right' (selects row).symm), ranks.ascends⟩
  constructor
  · intro page
    obtain ⟨listing, answered⟩ :
        ∃ listing, (request.onPage direction page pageSize).IsAnsweredBy conditions world
          listing :=
      Vault.list_of_noFaults sound short faultless
    exact ⟨listing, answered, shows answered⟩
  · intro count listings reachable enough answered
    refine (flatMap_pages (directionOf_eq_iff.1 rfl) reachable fun number below =>
      shows (answered number below)).trans ?_
    rw [List.take_of_length_le (by rwa [SortDirection.length_arrange])]

theorem selects_byLabels (labelled : world.tables.Labelled) :
    (byLabels owner fileType tag sort).fromWholeSeconds.Selects world.tables row ↔
      row.trashedAt = none ∧ world.tables.HasLabels owner fileType tag row := by
  have carries : ∀ name, world.tables.Carries row.fileId name ↔ _ :=
    fun _ => Tables.carries_iff labelled.tagIds labelled.tagNames
  constructor
  · intro selects
    exact ⟨selects.live, selects.owner, selects.fileType,
      fun name named => (carries name).2 (selects.tag name named)⟩
  · rintro ⟨live, hasLabels⟩
    exact {
      live
      owner := hasLabels.owner
      name := fun _ named => by cases named
      fileType := hasLabels.fileType
      createdFrom := fun _ bounded => by cases bounded
      createdTo := fun _ bounded => by cases bounded
      updatedFrom := fun _ bounded => by cases bounded
      updatedTo := fun _ bounded => by cases bounded
      tag := fun name named => (carries name).1 (hasLabels.tag name named) }

/-- A request by labels finds the files that have them. -/
theorem finds_byLabels (sound : world.tables.Sound)
    (keyed : (world.tables.files.map FileRow.fileId).Nodup)
    (labelled : world.tables.Labelled) (owner fileType tag sort : Option String) :
    (byLabels owner fileType tag sort).Finds world
      (world.tables.HasLabels owner fileType tag) := by
  have short : (byLabels owner fileType tag sort).HasShortPattern := by
    intro part named
    cases named
  exact finds_of_selects sound keyed short fun _ => selects_byLabels labelled

end ListRequest

/-! ## Own labels -/

namespace Tables

variable {tables : Tables} {text : String} {row : FileRow}

theorem hasLabels_owner :
    tables.HasLabels (some text) none none row ↔
      (trim text ≠ "" → row.owner = trim text) := by
  rw [hasLabels_iff, Option.bind_some, forall_nonBlank? text fun given => row.owner = given]
  simp

theorem hasLabels_fileType :
    tables.HasLabels none (some text) none row ↔
      (trim text ≠ "" → row.fileType = trim text) := by
  rw [hasLabels_iff, Option.bind_some, forall_nonBlank? text fun given => row.fileType = given]
  simp

theorem hasLabels_tag :
    tables.HasLabels none none (some text) row ↔
      (trim text ≠ "" → tables.Carries row.fileId (trim text)) := by
  rw [hasLabels_iff, Option.bind_some, forall_nonBlank? text (tables.Carries row.fileId)]
  simp

/-- Only tidy names are carried. -/
theorem Labelled.isTidy_of_carries (labelled : tables.Labelled) {fileId name : String}
    (carries : tables.Carries fileId name) :
    IsTidy name := by
  obtain ⟨tag, _, found, _⟩ :=
    (carries_iff labelled.tagIds labelled.tagNames).1 carries
  obtain ⟨member, rfl⟩ := name_of_tag? found
  exact labelled.tidy tag member

end Tables

section Reachable

variable (schedule : List ScheduledOperation) {start : World}
  (emptyTables : start.tables = Tables.empty)

include emptyTables

theorem labelled_of_empty : (runOperations schedule start).tables.Labelled :=
  labelled_runOperations schedule start (emptyTables ▸ Tables.labelled_empty)

theorem ListRequest.finds_runOperations (owner fileType tag sort : Option String) :
    (byLabels owner fileType tag sort).Finds (runOperations schedule start)
      ((runOperations schedule start).tables.HasLabels owner fileType tag) :=
  finds_byLabels (sound_runOperations schedule start (emptyTables ▸ Tables.sound_empty))
    (emptyTables ▸ evolves_runOperations schedule start).keyed_of_empty
    (labelled_of_empty schedule emptyTables) owner fileType tag sort

/-- A listing by an owner finds the files of the trimmed owner, or all files if nothing is
left of it. -/
theorem ListRequest.finds_of_owner (owner : String) (sort : Option String) :
    (byLabels (some owner) none none sort).Finds (runOperations schedule start)
      fun other => trim owner ≠ "" → other.owner = trim owner :=
  (finds_runOperations schedule emptyTables (some owner) none none sort).congr
    fun _ => Tables.hasLabels_owner

/-- A listing by a type finds the files of the trimmed type, or all files if nothing is left
of it. -/
theorem ListRequest.finds_of_fileType (fileType : String) (sort : Option String) :
    (byLabels none (some fileType) none sort).Finds (runOperations schedule start)
      fun other => trim fileType ≠ "" → other.fileType = trim fileType :=
  (finds_runOperations schedule emptyTables none (some fileType) none sort).congr
    fun _ => Tables.hasLabels_fileType

end Reachable

/-- What listings by the labels of a file find: the files that share the label, if it is
tidy.  For an owner or a type that is not, they find those whose label is the trimmed
text, or all files if nothing is left of it. -/
structure World.FindsByLabels (world : World) (row : FileRow) : Prop where
  owner : IsTidy row.owner → ∀ sort,
    (ListRequest.byLabels (some row.owner) none none sort).Finds world
      fun other => other.owner = row.owner
  fileType : IsTidy row.fileType → ∀ sort,
    (ListRequest.byLabels none (some row.fileType) none sort).Finds world
      fun other => other.fileType = row.fileType
  tags : ∃ names, world.tables.tagNames row.fileId = .ok names ∧
    ∀ name ∈ names, ∀ sort,
      (ListRequest.byLabels none none (some name) sort).Finds world
        fun other => world.tables.Carries other.fileId name
  knownType : IsFileType row.fileType
  trimmedOwner : ∀ sort,
    (ListRequest.byLabels (some row.owner) none none sort).Finds world
      fun other => trim row.owner ≠ "" → other.owner = trim row.owner
  trimmedType : ∀ sort,
    (ListRequest.byLabels none (some row.fileType) none sort).Finds world
      fun other => trim row.fileType ≠ "" → other.fileType = trim row.fileType

/-- Files are found by their own labels. In every state that a run reaches, a listing by a
tag of a file finds exactly the live files that carry it, and so does a listing by its owner
or by its type, as long as that text is tidy; a type that is not is the extension of a
name. -/
theorem files_found_by_own_labels (schedule : List ScheduledOperation) (start : World)
    (emptyTables : start.tables = Tables.empty) (row : FileRow)
    (registered : row ∈ (runOperations schedule start).tables.files) :
    (runOperations schedule start).FindsByLabels row := by
  have sound := sound_runOperations schedule start (emptyTables ▸ Tables.sound_empty)
  have labelled := labelled_of_empty schedule emptyTables
  constructor
  · intro tidy sort
    refine (ListRequest.finds_of_owner schedule emptyTables row.owner sort).congr
      fun other => ?_
    rw [tidy.2, forall_prop_of_true tidy.1]
  · intro tidy sort
    refine (ListRequest.finds_of_fileType schedule emptyTables row.fileType sort).congr
      fun other => ?_
    rw [tidy.2, forall_prop_of_true tidy.1]
  · obtain ⟨names, named⟩ := Tables.exists_tagNames sound.links row.fileId
    refine ⟨names, named, fun name listed sort => ?_⟩
    have tidy : IsTidy name := labelled.isTidy_of_carries ⟨names, named, listed⟩
    refine (ListRequest.finds_runOperations schedule emptyTables none none (some name)
      sort).congr fun other => ?_
    rw [Tables.hasLabels_tag, tidy.2, forall_prop_of_true tidy.1]
  · exact labelled.fileTypes row registered
  · exact ListRequest.finds_of_owner schedule emptyTables row.owner
  · exact ListRequest.finds_of_fileType schedule emptyTables row.fileType

/-- The upload of a short text. -/
def note (owner fileName tags text : String) : ScheduledOperation :=
  undisturbed (.upload ⟨owner, fileName, none, none, tags, "", text.toUTF8⟩)

/-- The vault after some uploads. -/
def vaultOf (notes : List ScheduledOperation) : World :=
  runOperations notes (Vault.emptyVault .empty)

/-- A note is found by its owner, by its type and by its tag. -/
theorem note_found_by_own_labels :
    (Vault.emptyVault .empty).tables = Tables.empty ∧
      ∃ row ∈ (vaultOf [note "alice" "notes.md" "home" "hello"]).tables.files,
        row.trashedAt = none ∧ IsTidy row.owner ∧ IsTidy row.fileType ∧
          (vaultOf [note "alice" "notes.md" "home" "hello"]).tables.Carries row.fileId "home" ∧
          (vaultOf [note "alice" "notes.md" "home" "hello"]).FindsByLabels row := by
  have evaluated :
      (vaultOf [note "alice" "notes.md" "home" "hello"]).tables.files.map (fun row =>
        (row.trashedAt, row.owner, row.fileType,
          ((vaultOf [note "alice" "notes.md" "home" "hello"]).tables.tagNames
            row.fileId).toOption)) =
        [(none, "alice", "md", some ["home"])] := by
    decide +kernel
  obtain ⟨row, files, labels⟩ := List.map_eq_singleton_iff.1 evaluated
  simp only [Prod.mk.injEq] at labels
  obtain ⟨live, owner, fileType, tags⟩ := labels
  have registered : row ∈ (vaultOf [note "alice" "notes.md" "home" "hello"]).tables.files :=
    files ▸ List.mem_singleton_self row
  refine ⟨rfl, row, registered, live, ?_, ?_, ?_,
    files_found_by_own_labels _ (Vault.emptyVault .empty) rfl row registered⟩
  · rw [owner]
    decide +kernel
  · rw [fileType]
    decide +kernel
  · rcases named :
      (vaultOf [note "alice" "notes.md" "home" "hello"]).tables.tagNames row.fileId with
      failure | names
    · rw [named] at tags
      cases tags
    · rw [named] at tags
      cases tags
      exact ⟨_, named, List.mem_singleton_self "home"⟩

/-! ## Labels with blanks at their ends -/

/-- A request does not find the only file if it finds files that this one is none of. -/
theorem ListRequest.Finds.not_finds_only {request : ListRequest} {world : World}
    {wanted others : FileRow → Prop} {row : FileRow} (finds : request.Finds world others)
    (only : world.tables.files = [row]) (live : row.trashedAt = none) (isWanted : wanted row)
    (isOther : ¬ others row) :
    ¬ request.Finds world wanted := by
  intro claimed
  refine isOther (finds.wanted_of_subset claimed (fun each member found => ?_) ?_ live isWanted)
  · rw [only, List.mem_singleton] at member
    exact absurd (member ▸ found) isOther
  · rw [only]
    exact List.mem_singleton_self row

/-- Owners are accepted that no listing keeps apart: a file whose owner has a blank at its
front is not found by that owner, and a listing by a blank owner finds everybody's files.
Nor is a file found by its type if its extension starts with a blank. -/
theorem padded_labels_are_not_found :
    (∃ row ∈ (vaultOf [note " alice" "notes.md" "" "hello"]).tables.files,
      row.trashedAt = none ∧
        ¬ (ListRequest.byLabels (some row.owner) none none none).Finds
          (vaultOf [note " alice" "notes.md" "" "hello"]) fun other => other.owner = row.owner) ∧
      (∃ row ∈
          (vaultOf [note " " "notes.md" "" "hello", note "bob" "b.md" "" "world"]).tables.files,
        row.trashedAt = none ∧
          ¬ (ListRequest.byLabels (some row.owner) none none none).Finds
            (vaultOf [note " " "notes.md" "" "hello", note "bob" "b.md" "" "world"])
            fun other => other.owner = row.owner) ∧
      ∃ row ∈ (vaultOf [note "alice" "notes. md" "" "hello"]).tables.files,
        row.trashedAt = none ∧ row.fileType ≠ "" ∧
          ¬ (ListRequest.byLabels none (some row.fileType) none none).Finds
            (vaultOf [note "alice" "notes. md" "" "hello"])
            fun other => other.fileType = row.fileType := by
  refine ⟨?_, ?_, ?_⟩
  · have owners :
        (vaultOf [note " alice" "notes.md" "" "hello"]).tables.files.map
            (fun row => (row.trashedAt, row.owner)) =
          [(none, " alice")] := by
      decide +kernel
    obtain ⟨row, files, labels⟩ := List.map_eq_singleton_iff.1 owners
    obtain ⟨live, owner⟩ := Prod.mk.inj labels
    have registered : row ∈ (vaultOf [note " alice" "notes.md" "" "hello"]).tables.files :=
      files ▸ List.mem_singleton_self row
    have padded : ¬ (trim row.owner ≠ "" → row.owner = trim row.owner) := by
      rw [owner]
      decide +kernel
    exact ⟨row, registered, live,
      (ListRequest.finds_of_owner _ rfl row.owner none).not_finds_only files live rfl padded⟩
  · have owners :
        (vaultOf [note " " "notes.md" "" "hello", note "bob" "b.md" "" "world"]).tables.files.map
            (fun row => (row.trashedAt, row.owner)) =
          [(none, " "), (none, "bob")] := by
      decide +kernel
    obtain ⟨row, others, files, labels, otherLabels⟩ := List.map_eq_cons_iff.1 owners
    obtain ⟨bob, rfl, bobLabels⟩ := List.map_eq_singleton_iff.1 otherLabels
    obtain ⟨live, owner⟩ := Prod.mk.inj labels
    obtain ⟨bobLive, bobOwner⟩ := Prod.mk.inj bobLabels
    have registered :
        ∀ each ∈ [row, bob], each ∈
          (vaultOf [note " " "notes.md" "" "hello", note "bob" "b.md" "" "world"]).tables.files :=
      fun _ member => files ▸ member
    have blank : ¬ trim row.owner ≠ "" := by
      rw [owner]
      decide +kernel
    refine ⟨row, registered row (by simp), live, fun finds => ?_⟩
    -- The listing finds all files, so the file of another owner is among them.
    have sameOwner : bob.owner = row.owner :=
      finds.wanted_of_subset (ListRequest.finds_of_owner _ rfl row.owner none)
        (fun _ _ _ named => absurd named blank) (registered bob (by simp)) bobLive
        fun named => absurd named blank
    rw [owner, bobOwner] at sameOwner
    exact absurd sameOwner (by decide)
  · have types :
        (vaultOf [note "alice" "notes. md" "" "hello"]).tables.files.map
            (fun row => (row.trashedAt, row.fileType)) =
          [(none, " md")] := by
      decide +kernel
    obtain ⟨row, files, labels⟩ := List.map_eq_singleton_iff.1 types
    obtain ⟨live, fileType⟩ := Prod.mk.inj labels
    have registered : row ∈ (vaultOf [note "alice" "notes. md" "" "hello"]).tables.files :=
      files ▸ List.mem_singleton_self row
    have padded : ¬ (trim row.fileType ≠ "" → row.fileType = trim row.fileType) := by
      rw [fileType]
      decide +kernel
    have notEmpty : row.fileType ≠ "" := by
      rw [fileType]
      decide
    exact ⟨row, registered, live, notEmpty,
      (ListRequest.finds_of_fileType _ rfl row.fileType none).not_finds_only files live rfl
        padded⟩

end ContentVault
