import ContentVault.Proofs.Catalog.Atomicity

/-!
# Changing a description twice

What changing the description of a live file leaves, and what changing it again adds.

* the tags of the file are those with the given names and no others;
* the same change at the same time leaves the tables as they are.
-/

namespace ContentVault

theorem firstMentions_of_new {α : Type} [DecidableEq α] {kept items : List α}
    (distinct : items.Nodup) (new : ∀ item ∈ items, item ∉ kept) :
    firstMentions kept items = kept ++ items := by
  have allNew : (items.filter fun item => decide (item ∉ kept)) = items :=
    List.filter_eq_self.2 fun item member => decide_eq_true (new item member)
  rw [← List.append_nil kept, firstMentions_append, List.append_nil, allNew,
    firstMentions_of_nodup distinct]

namespace Tables

variable {fileId : String} {names : List String} {base before after last : Tables}
  {found foundAgain : List Tag} {details : FileDetails} {changedAt : Int64} {old : List TagLink}

theorem getFile_eq_none {tables : Tables} :
    tables.getFile fileId = .ok none ↔ tables.isLive fileId = false := by
  simp [getFile, option_mapM_eq_ok, isLive]

/-! ## The tags of a file whose links were cleared -/

namespace Linked

variable (linked : Linked fileId names base found after)

include linked

theorem hasTagNamed {name : String} (given : name ∈ names) :
    after.hasTagNamed name = true := by
  obtain ⟨tag, _, isFound⟩ := linked.tag_of_name given
  obtain ⟨member, isName⟩ := name_of_tag? isFound
  exact List.any_eq_true.2 ⟨tag, member, decide_eq_true isName⟩

theorem tags_eq (distinct : names.Nodup) :
    after.tags =
      base.tags ++ (names.filter fun name => !base.hasTagNamed name).map Tag.named := by
  rw [congrArg Tables.tags linked.tables, missingTags, firstMentions_of_nodup (distinct.filter _)]

/-- The tags that were linked are those that the given names find. -/
theorem targets_eq :
    (found.map fun tag => (⟨fileId, tag.tagId⟩ : TagLink)) = names.map (after.linkTo fileId) := by
  have targets : (names.map after.tag?).map
      (fun tag => (⟨fileId, (tag.map Tag.tagId).getD ""⟩ : TagLink)) =
        names.map (after.linkTo fileId) := by
    rw [List.map_map]
    rfl
  rw [← targets, linked.named, List.map_map]
  rfl

theorem links_eq (present : base.links = some old) :
    after.links = some (firstMentions old (names.map (after.linkTo fileId))) := by
  have links := congrArg Tables.links linked.tables
  rw [← linked.targets_eq, links, present]
  rfl

/-- A file without links is tagged with exactly the names that it is linked to. -/
theorem tagNames_eq (distinct : names.Nodup) (tagIds : (after.tags.map Tag.tagId).Nodup)
    (present : base.links = some old) (unlinked : ∀ link ∈ old, link.fileId ≠ fileId) :
    after.tagNames fileId = .ok (sortedNames names) := by
  have named : ∀ name ∈ names,
      after.nameOfLink fileId (after.linkTo fileId name) = some name := by
    intro name given
    obtain ⟨tag, _, isFound⟩ := linked.tag_of_name given
    exact nameOfLink_linkTo tagIds isFound
  have distinctLinks : (names.map (after.linkTo fileId)).Nodup := by
    refine List.Nodup.map_on ?_ distinct
    intro first isFirst second isSecond same
    have sameName := congrArg (after.nameOfLink fileId) same
    rw [named first isFirst, named second isSecond] at sameName
    exact Option.some.inj sameName
  have newLinks : ∀ link ∈ names.map (after.linkTo fileId), link ∉ old := by
    intro link member isOld
    obtain ⟨name, _, rfl⟩ := List.mem_map.1 member
    exact unlinked _ isOld rfl
  have oldNames : old.filterMap (after.nameOfLink fileId) = [] := by
    rw [List.filterMap_eq_nil_iff]
    intro link member
    rw [nameOfLink, if_neg (unlinked link member)]
  have newNames : (names.map (after.linkTo fileId)).filterMap (after.nameOfLink fileId) =
      names := by
    rw [List.filterMap_map]
    exact (List.filterMap_congr named).trans List.filterMap_some
  have allNames : (old ++ names.map (after.linkTo fileId)).filterMap (after.nameOfLink fileId) =
      names := by
    rw [List.filterMap_append, oldNames, newNames, List.nil_append]
  have links := linked.links_eq present
  rw [firstMentions_of_new distinctLinks newLinks] at links
  rw [tagNames, requireLinks, links]
  exact congrArg (fun told => Except.ok (sortedNames told)) allNames

end Linked

/-! ## The same change again -/

theorem getD_getD {α : Type} (given : Option α) (old : α) :
    given.getD (given.getD old) = given.getD old := by
  cases given <;> rfl

/-- Rows that were just changed are not changed by the same change. -/
theorem describing_of_described
    (described : after.files = (before.describing fileId details changedAt).files) :
    after.describing fileId details changedAt = after := by
  have sameRows : (after.describing fileId details changedAt).files = after.files := by
    unfold describing at described ⊢
    dsimp only at described ⊢
    rw [described, List.map_map]
    refine List.map_congr_left fun row _ => ?_
    rw [Function.comp_apply]
    by_cases live : row.fileId = fileId ∧ row.trashedAt = none
    · simp only [if_pos live, getD_getD]
    · rw [if_neg live, if_neg live]
  calc after.describing fileId details changedAt
    _ = { after with files := (after.describing fileId details changedAt).files } := rfl
    _ = after := by rw [sameRows]

theorem Linked.unlinked_links (linked : Linked fileId names (base.unlinked fileId) found after) :
    (after.unlinked fileId).links = (base.unlinked fileId).links := by
  have links := congrArg Tables.links linked.tables
  unfold unlinked at links ⊢
  dsimp only at links ⊢
  rw [links]
  rcases base.links with _ | all
  · rfl
  · have added : ∀ link ∈ firstMentions [] ((found.map fun tag => ⟨fileId, tag.tagId⟩).filter
        fun link => decide (link ∉ all.filter fun link => decide (link.fileId ≠ fileId))),
        ¬ decide (link.fileId ≠ fileId) = true := by
      intro link member
      rcases mem_firstMentions.1 member with isKept | isTarget
      · cases isKept
      · obtain ⟨tag, _, rfl⟩ := List.mem_map.1 (List.mem_of_mem_filter isTarget)
        simp
    simp only [Option.map_some, Option.some.injEq]
    rw [← List.append_nil (all.filter _), firstMentions_append, List.filter_append,
      List.filter_eq_nil_iff.2 added, List.filter_filter]
    simp only [Bool.and_self]

/-- Linking a file again to the names that it was just linked to changes nothing. -/
theorem Linked.relinked (linked : Linked fileId names (base.unlinked fileId) found after)
    (relinked : Linked fileId names (after.unlinked fileId) foundAgain last) : last = after := by
  have noneMissing : (after.unlinked fileId).missingTags names = [] := by
    have allNamed : (names.filter fun name => !(after.unlinked fileId).hasTagNamed name) = [] := by
      rw [List.filter_eq_nil_iff]
      intro name given
      have isNamed : (after.unlinked fileId).hasTagNamed name = true := linked.hasTagNamed given
      rw [isNamed]
      exact Bool.false_ne_true
    rw [missingTags, allNamed]
    rfl
  have tags : last.tags = after.tags := by
    rw [congrArg Tables.tags relinked.tables, noneMissing]
    exact List.append_nil _
  have sameLookup : last.tag? = after.tag? := by
    funext name
    rw [tag?, tag?, tags]
  have sameFound : foundAgain = found := by
    have named := relinked.named
    rw [sameLookup, linked.named] at named
    exact (List.map_injective_iff.2 (Option.some_injective Tag) named).symm
  have links : last.links = after.links := by
    rw [congrArg Tables.links relinked.tables, congrArg Tables.links linked.tables, sameFound]
    dsimp only
    rw [linked.unlinked_links]
  have files : last.files = after.files := by
    rw [congrArg Tables.files relinked.tables]
    rfl
  have versions : last.versions = after.versions := by
    rw [congrArg Tables.versions relinked.tables]
    rfl
  calc last
    _ = ⟨last.files, last.versions, last.tags, last.links⟩ := rfl
    _ = after := by rw [files, versions, tags, links]

/-- The same change of a description at the same time adds nothing to the first one. -/
theorem Redescribed.again {tags : Option (List String)} {moment : Timestamp} {updated : Bool}
    (described : Redescribed fileId details tags moment before true after)
    (again : Redescribed fileId details tags moment after updated last) : last = after := by
  obtain ⟨_, written⟩ := described
  obtain ⟨_, rewritten⟩ := again
  rw [if_pos rfl] at written
  cases updated with
  | false =>
      exact rewritten
  | true =>
      rw [if_pos rfl] at rewritten
      cases tags with
      | none =>
          exact rewritten.trans (describing_of_described (congrArg Tables.files written))
      | some names =>
          obtain ⟨_, found, linked⟩ := written
          obtain ⟨_, foundAgain, relinked⟩ := rewritten
          have files : after.files =
              (before.describing fileId details (encodeTime moment)).files := by
            rw [congrArg Tables.files linked.tables]
            rfl
          rw [describing_of_described files] at relinked
          exact linked.relinked relinked

end Tables

end ContentVault
