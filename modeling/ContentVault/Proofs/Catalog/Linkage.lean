import ContentVault.Proofs.Catalog.Description
import ContentVault.Proofs.Catalog.Part

/-!
# Links between files and tags

* every link is there once and leads from a registered file to a tag, and every change of the
  tables leaves it so;
* tags are only added, and the links of a file change only if its own tags are set;
* linking a file again to the names that it carries leaves its links and all tags alone.
-/

namespace ContentVault

/-- Every link is there once and leads from a registered file to a tag. -/
structure Tables.WellLinked (tables : Tables) (links : List TagLink) : Prop
    extends tables.TagsKeyed links where
  distinct : links.Nodup
  linkedTags : ∀ link ∈ links, ∃ tag ∈ tables.tags, tag.tagId = link.tagId

namespace Tables

variable {before base after tables : Tables} {fileId other : String} {names : List String}
  {links old : List TagLink} {found : List Tag}

/-! ## Changes of links -/

theorem wellLinked_empty : empty.WellLinked [] where
  present := rfl
  linkedFiles := nofun
  tagIds := List.nodup_nil
  distinct := List.nodup_nil
  linkedTags := nofun

namespace WellLinked

/-- A change of files leaves the links alone if no file gets lost. -/
theorem of_files (wellLinked : before.WellLinked links) (sameTags : after.tags = before.tags)
    (sameLinks : after.links = before.links)
    (kept : ∀ row ∈ before.files, after.hasFile row.fileId = true) :
    after.WellLinked links where
  present := sameLinks.trans wellLinked.present
  linkedFiles := by
    intro link member
    obtain ⟨row, isRow, sameFile⟩ :=
      hasFile_eq_true_iff.1 (wellLinked.linkedFiles link member)
    exact sameFile ▸ kept row isRow
  tagIds := sameTags ▸ wellLinked.tagIds
  distinct := wellLinked.distinct
  linkedTags := sameTags ▸ wellLinked.linkedTags

/-- A change of rows that keeps their identifiers leaves the links alone. -/
theorem of_map (wellLinked : before.WellLinked links) (sameTags : after.tags = before.tags)
    (sameLinks : after.links = before.links)
    (sameFiles : after.files.map FileRow.fileId = before.files.map FileRow.fileId) :
    after.WellLinked links := by
  refine wellLinked.of_files sameTags sameLinks fun row member => ?_
  rw [hasFile_of_map_fileId sameFiles]
  exact hasFile_eq_true_iff.2 ⟨row, member, rfl⟩

theorem describing (wellLinked : before.WellLinked links) (fileId : String) (details : FileDetails)
    (changedAt : Int64) :
    (before.describing fileId details changedAt).WellLinked links := by
  have sameFiles : (before.describing fileId details changedAt).files.map FileRow.fileId =
      before.files.map FileRow.fileId := by
    rw [Tables.describing, List.map_map]
    refine List.map_congr_left fun row _ => ?_
    rw [Function.comp_apply]
    split <;> rfl
  exact wellLinked.of_map rfl rfl sameFiles

theorem unlinked (wellLinked : before.WellLinked links) (fileId : String) :
    (before.unlinked fileId).WellLinked
      (links.filter fun link => decide (link.fileId ≠ fileId)) where
  present := by
    rw [Tables.unlinked, wellLinked.present]
    rfl
  linkedFiles := fun link member =>
    wellLinked.linkedFiles link (List.mem_of_mem_filter member)
  tagIds := wellLinked.tagIds
  distinct := wellLinked.distinct.filter _
  linkedTags := fun link member => wellLinked.linkedTags link (List.mem_of_mem_filter member)

theorem linked (wellLinked : before.WellLinked links) (known : before.hasFile fileId = true)
    (linked : Linked fileId names before found after) (keepsTagIds : before.KeepsTagIds after) :
    ∃ more, after.WellLinked more := by
  have tags : after.tags = before.tags ++ before.missingTags names :=
    congrArg Tables.tags linked.tables
  have sameFiles : ∀ file, after.hasFile file = before.hasFile file := by
    intro file
    rw [hasFile, congrArg Tables.files linked.tables, hasFile]
  have present := congrArg Tables.links linked.tables
  rw [wellLinked.present, Option.map_some] at present
  refine ⟨_, ⟨present, ?_, keepsTagIds wellLinked.tagIds⟩,
    nodup_firstMentions _ wellLinked.distinct, ?_⟩
  · intro link member
    rw [sameFiles]
    rcases mem_firstMentions.1 member with isOld | isTarget
    · exact wellLinked.linkedFiles link isOld
    · obtain ⟨tag, _, rfl⟩ := List.mem_map.1 isTarget
      exact known
  · intro link member
    rcases mem_firstMentions.1 member with isOld | isTarget
    · obtain ⟨tag, isTag, sameId⟩ := wellLinked.linkedTags link isOld
      exact ⟨tag, tags ▸ List.mem_append_left _ isTag, sameId⟩
    · obtain ⟨tag, isTag, rfl⟩ := List.mem_map.1 isTarget
      obtain ⟨name, _, named⟩ := linked.name_of_tag isTag
      exact ⟨tag, (name_of_tag? named).1, rfl⟩

end WellLinked

/-- The links stay as they should be if they were. -/
def StaysWellLinked (before after : Tables) : Prop :=
  ∀ links, before.WellLinked links → ∃ more, after.WellLinked more

namespace StaysWellLinked

instance : IsPreorder Tables StaysWellLinked where
  refl := fun _ links wellLinked => ⟨links, wellLinked⟩
  trans := by
    intro _ _ _ left right links wellLinked
    obtain ⟨more, between⟩ := left links wellLinked
    exact right more between

theorem created {file : FileRecord} {version : VersionRecord}
    (created : before.createFile file version = (.ok (), after)) :
    before.StaysWellLinked after := by
  intro links wellLinked
  obtain ⟨_, _, row, _, _, _, _, _, rfl⟩ := createFile_eq_ok.1 created
  refine ⟨links, wellLinked.of_files rfl rfl fun old member => ?_⟩
  exact hasFile_eq_true_iff.2 ⟨old, List.mem_append_left _ member, rfl⟩

theorem appended {version : VersionRecord} {expected : UInt32}
    (added : before.appendVersion version expected = (.ok (), after)) :
    before.StaysWellLinked after := by
  intro links wellLinked
  obtain ⟨_, row, _, _, _, rfl⟩ := appendVersion_eq_ok.1 added
  exact ⟨links, wellLinked.of_map rfl rfl (bumpVersion_fileIds before row _)⟩

theorem tagged (live : before.liveFile? fileId ≠ none)
    (attached : before.attachTags fileId names = (.ok found, after)) :
    before.StaysWellLinked after := by
  intro links wellLinked
  obtain ⟨row, member, sameFile, _⟩ := liveFile?_ne_none_iff.1 live
  obtain ⟨_, _, linked⟩ := linked_of_linkTags (Work.transaction_eq_ok.1 attached)
  exact wellLinked.linked (hasFile_eq_true_iff.2 ⟨row, member, sameFile⟩) linked
    ((Work.within_linkTags (KeepsTagIds.allowsTagging fileId) _ _).committed attached)

theorem described {details : FileDetails} {tags : Option (List String)} {changedAt : Timestamp}
    {updated : Bool} (keepsTagIds : before.KeepsTagIds after)
    (redescribed : Redescribed fileId details tags changedAt before updated after) :
    before.StaysWellLinked after := by
  intro links wellLinked
  obtain ⟨rfl, written⟩ := redescribed
  have renamed := wellLinked.describing fileId details (encodeTime changedAt)
  split at written
  · rename_i live
    cases tags with
    | none =>
        exact ⟨links, written ▸ renamed⟩
    | some names =>
        obtain ⟨_, _, linked⟩ := written
        rw [isLive, Option.isSome_iff_ne_none, liveFile?_ne_none_iff] at live
        obtain ⟨row, member, sameFile, _⟩ := live
        have known : ((before.describing fileId details (encodeTime changedAt)).unlinked
            fileId).hasFile fileId = true := by
          refine hasFile_eq_true_iff.2 ⟨_, List.mem_map_of_mem member, ?_⟩
          split
          · exact sameFile
          · exact sameFile
        exact (renamed.unlinked fileId).linked known linked keepsTagIds
  · exact ⟨links, written ▸ wellLinked⟩

theorem trashed {fileIds moved : List String} {trashedAt : Timestamp}
    (removed : before.trash fileIds trashedAt = (.ok moved, after)) :
    before.StaysWellLinked after := by
  intro links wellLinked
  have moves := trashFiles_eq trashedAt fileIds [] before
  rw [Work.transaction_eq_ok.1 removed] at moves
  obtain ⟨_, rfl⟩ := Prod.mk.inj moves
  refine ⟨links, wellLinked.of_map rfl rfl ?_⟩
  rw [discarding, List.map_map]
  refine List.map_congr_left fun row _ => ?_
  rw [Function.comp_apply]
  split <;> rfl

end StaysWellLinked

/-! ## The links of one file -/

theorem filterMap_nameOfLink (links : List TagLink) :
    (links.filter fun link => link.fileId = fileId).filterMap (tables.nameOfLink fileId) =
      links.filterMap (tables.nameOfLink fileId) := by
  rw [List.filterMap_filter]
  refine List.filterMap_congr fun link _ => ?_
  by_cases own : link.fileId = fileId
  · rw [if_pos (decide_eq_true own)]
  · rw [if_neg (by simpa using own), nameOfLink, if_neg own]

/-- A file that is not linked has no tags. -/
theorem tagNames_of_unlinked (present : tables.links = some links)
    (unlinked : ∀ link ∈ links, link.fileId ≠ fileId) :
    tables.tagNames fileId = .ok (sortedNames []) := by
  have noNames : links.filterMap (tables.nameOfLink fileId) = [] := by
    rw [List.filterMap_eq_nil_iff]
    intro link member
    rw [nameOfLink, if_neg (unlinked link member)]
  rw [tagNames, requireLinks, present]
  exact congrArg (fun named => Except.ok (sortedNames named)) noNames

/-- While its links stay, the tags of a file stay, whatever tags are added. -/
theorem WellLinked.tagNames_eq (wellLinked : before.WellLinked links)
    (moreTags : before.tags <+: after.tags)
    (sameLinks : (after.part fileId).links = (before.part fileId).links) :
    after.tagNames fileId = before.tagNames fileId := by
  obtain ⟨added, tags⟩ := moreTags
  have sameNames : ∀ link ∈ links, after.nameOfLink fileId link =
      before.nameOfLink fileId link := by
    intro link member
    obtain ⟨tag, isTag, sameId⟩ := wellLinked.linkedTags link member
    have known : (before.tags.find? fun tag => tag.tagId = link.tagId).isSome = true :=
      List.find?_isSome.2 ⟨tag, isTag, decide_eq_true sameId⟩
    rw [nameOfLink, nameOfLink, ← tags, List.find?_append, Option.or_of_isSome known]
  rw [part, part, wellLinked.present, Option.map_some] at sameLinks
  obtain ⟨others, present, own⟩ := Option.map_eq_some_iff.1 sameLinks
  have names : others.filterMap (after.nameOfLink fileId) =
      links.filterMap (before.nameOfLink fileId) := by
    rw [← filterMap_nameOfLink, own, filterMap_nameOfLink]
    exact List.filterMap_congr sameNames
  rw [tagNames, requireLinks, present, tagNames, requireLinks, wellLinked.present]
  exact congrArg (fun named => Except.ok (sortedNames named)) names

theorem Linked.tags_prefix (linked : Linked fileId names base found after) :
    base.tags <+: after.tags :=
  ⟨base.missingTags names, (congrArg Tables.tags linked.tables).symm⟩

/-- Linking a file to tags leaves the links of other files alone. -/
theorem Linked.links_of_other (linked : Linked fileId names base found after)
    (different : other ≠ fileId) : (after.part other).links = (base.part other).links := by
  have links := congrArg Tables.links linked.tables
  rw [part, part, links]
  rcases base.links with _ | all
  · rfl
  · have added : ∀ link ∈ firstMentions [] ((found.map fun tag =>
        (⟨fileId, tag.tagId⟩ : TagLink)).filter fun link => decide (link ∉ all)),
        ¬ decide (link.fileId = other) = true := by
      intro link member
      rcases mem_firstMentions.1 member with isKept | isTarget
      · cases isKept
      · obtain ⟨tag, _, rfl⟩ := List.mem_map.1 (List.mem_of_mem_filter isTarget)
        simpa using different.symm
    simp only [Option.map_some, Option.some.injEq]
    rw [← List.append_nil all, firstMentions_append, List.append_nil, List.filter_append,
      List.filter_eq_nil_iff.2 added, List.append_nil]

theorem links_unlinked (different : other ≠ fileId) :
    ((base.unlinked fileId).part other).links = (base.part other).links := by
  rw [part, part, unlinked]
  rcases base.links with _ | all
  · rfl
  · simp only [Option.map_some, Option.some.injEq]
    rw [List.filter_filter]
    refine List.filter_congr fun link _ => ?_
    by_cases own : link.fileId = other
    · simp [own, different]
    · simp [own]

/-! ## Setting tags -/

/-- Tags are only added, a file's links are left alone unless names are set for it, and a file
for which names are set carries exactly these. -/
structure TagsFollow (set : String → Option (List String)) (before after : Tables) : Prop where
  tags : before.tags <+: after.tags
  untouched : ∀ fileId, set fileId = none →
    (after.part fileId).links = (before.part fileId).links
  named : ∀ fileId names, set fileId = some names →
    after.tagNames fileId = .ok (sortedNames names)

/-- Only the links of one file are set. -/
def setFor (fileId : String) (names : Option (List String)) (asked : String) :
    Option (List String) :=
  if fileId = asked then names else none

theorem tagsFollow_of_same (sameTags : after.tags = before.tags)
    (sameLinks : after.links = before.links) : TagsFollow (fun _ => none) before after where
  tags := sameTags ▸ List.prefix_rfl
  untouched := by
    intro fileId _
    rw [part, part, sameLinks]
  named := nofun

/-- A file without links that is linked to tags carries exactly these. -/
theorem Linked.tagsFollow (linked : Linked fileId names base found after)
    (keepsTagIds : base.KeepsTagIds after) (distinct : names.Nodup)
    (wellLinked : base.WellLinked links) (unlinked : ∀ link ∈ links, link.fileId ≠ fileId) :
    TagsFollow (setFor fileId (some names)) base after where
  tags := linked.tags_prefix
  untouched := by
    intro asked notSet
    refine linked.links_of_other ?_
    rintro rfl
    rw [setFor, if_pos rfl] at notSet
    cases notSet
  named := by
    intro asked set isSet
    rw [setFor] at isSet
    split at isSet
    · rename_i same
      cases isSet
      exact same ▸ linked.tagNames_eq distinct (keepsTagIds wellLinked.tagIds)
        wellLinked.present unlinked
    · cases isSet

/-- A change of a description sets the tags of its file if names are given. -/
theorem Redescribed.tagsFollow {details : FileDetails} {tags : Option (List String)}
    {changedAt : Timestamp} (keepsTagIds : before.KeepsTagIds after)
    (distinct : ∀ names, tags = some names → names.Nodup)
    (redescribed : Redescribed fileId details tags changedAt before true after)
    (wellLinked : before.WellLinked links) :
    TagsFollow (setFor fileId tags) before after := by
  obtain ⟨_, written⟩ := redescribed
  rw [if_pos rfl] at written
  cases tags with
  | none =>
      have noneSet : setFor fileId none = fun _ => none := by
        funext asked
        rw [setFor, ite_self]
      subst written
      rw [noneSet]
      exact tagsFollow_of_same rfl rfl
  | some names =>
      obtain ⟨_, found, linked⟩ := written
      have unlinked := (wellLinked.describing fileId details
        (encodeTime changedAt)).unlinked fileId
      have follow := linked.tagsFollow keepsTagIds (distinct names rfl) unlinked
        fun link member => of_decide_eq_true (List.mem_filter.1 member).2
      refine ⟨follow.tags, fun asked notSet => ?_, follow.named⟩
      rw [follow.untouched asked notSet, links_unlinked]
      · rfl
      · rintro rfl
        rw [setFor, if_pos rfl] at notSet
        cases notSet

/-! ## Setting tags again -/

theorem WellLinked.mem_iff_carries (wellLinked : tables.WellLinked links)
    (tagNames : (tables.tags.map Tag.name).Nodup) (fileId : String) (link : TagLink) :
    link ∈ links ∧ link.fileId = fileId ↔
      ∃ name, tables.Carries fileId name ∧ link = tables.linkTo fileId name := by
  constructor
  · rintro ⟨member, rfl⟩
    obtain ⟨tag, isTag, sameId⟩ := wellLinked.linkedTags link member
    have named : tables.tag? tag.name = some tag := find?_of_nodup_keys tagNames isTag
    have isLink : link = ⟨link.fileId, tag.tagId⟩ := by rw [sameId]
    refine ⟨tag.name, (carries_iff wellLinked.tagIds tagNames).2
      ⟨tag, links, named, wellLinked.present, isLink ▸ member⟩, ?_⟩
    rw [linkTo_of_found named]
    exact isLink
  · rintro ⟨name, carries, rfl⟩
    obtain ⟨tag, others, named, present, member⟩ :=
      (carries_iff wellLinked.tagIds tagNames).1 carries
    rw [wellLinked.present] at present
    cases present
    rw [linkTo_of_found named]
    exact ⟨member, rfl⟩

theorem carries_iff_mem (carried : tables.tagNames fileId = .ok names) {name : String} :
    tables.Carries fileId name ↔ name ∈ names := by
  constructor
  · rintro ⟨all, answered, listed⟩
    rw [carried] at answered
    cases answered
    exact listed
  · exact fun listed => ⟨names, carried, listed⟩

/-- There is a tag for every name that a file carries. -/
theorem hasTagNamed_of_carried (tagIds : (tables.tags.map Tag.tagId).Nodup)
    (tagNames : (tables.tags.map Tag.name).Nodup) (carried : tables.tagNames fileId = .ok names) :
    ∀ name ∈ names, tables.hasTagNamed name = true := by
  intro name listed
  obtain ⟨tag, _, named, _⟩ :=
    (carries_iff tagIds tagNames).1 ((carries_iff_mem carried).2 listed)
  obtain ⟨member, isName⟩ := name_of_tag? named
  exact List.any_eq_true.2 ⟨tag, member, decide_eq_true isName⟩

theorem missingTags_of_named (named : ∀ name ∈ names, tables.hasTagNamed name = true) :
    tables.missingTags names = [] := by
  have allNamed : (names.filter fun name => !tables.hasTagNamed name) = [] := by
    rw [List.filter_eq_nil_iff]
    intro name listed
    rw [named name listed]
    exact Bool.false_ne_true
  rw [missingTags, allNamed]
  rfl

/-- A file that is linked again to the names that it carries has the links that it had, and no
tag is added. -/
theorem Linked.perm_of_carried (wellLinked : before.WellLinked links)
    (tagNames : (before.tags.map Tag.name).Nodup)
    (carried : before.tagNames fileId = .ok names) (sameTags : base.tags = before.tags)
    (unlinked : base.links =
      some (links.filter fun link => decide (link.fileId ≠ fileId)))
    (linked : Linked fileId names base found after) :
    after.tags = before.tags ∧ ∃ others, after.links = some others ∧ others.Perm links := by
  have noneMissing : base.missingTags names = [] := by
    refine missingTags_of_named fun name listed => ?_
    rw [Tables.hasTagNamed, sameTags]
    exact hasTagNamed_of_carried wellLinked.tagIds tagNames carried name listed
  have tags : after.tags = before.tags := by
    rw [congrArg Tables.tags linked.tables, noneMissing, ← sameTags]
    exact List.append_nil _
  refine ⟨tags, _, linked.links_eq unlinked, ?_⟩
  have sameTargets : names.map (after.linkTo fileId) = names.map (before.linkTo fileId) := by
    refine List.map_congr_left fun name _ => ?_
    rw [linkTo, linkTo, tag?, tag?, tags]
  rw [List.perm_ext_iff_of_nodup
    (nodup_firstMentions _ (wellLinked.distinct.filter _)) wellLinked.distinct]
  intro link
  rw [mem_firstMentions, List.mem_filter, decide_eq_true_eq, sameTargets, List.mem_map]
  by_cases own : link.fileId = fileId
  · have isCarried : (∃ name ∈ names, before.linkTo fileId name = link) ↔ link ∈ links := by
      have carriedLinks := wellLinked.mem_iff_carries tagNames fileId link
      simp only [own, and_true, carries_iff_mem carried] at carriedLinks
      rw [carriedLinks]
      simp only [eq_comm]
    rw [isCarried]
    simp [own]
  · have notTarget : ¬ ∃ name ∈ names, before.linkTo fileId name = link := by
      rintro ⟨name, _, rfl⟩
      exact own rfl
    simp [own, notTarget]

/-- Linking a registered file to a tag that is there succeeds, and only adds to the links. -/
theorem exists_linkTag {name : String} (known : tables.hasFile fileId = true)
    (present : tables.links.isSome = true) (named : tables.hasTagNamed name = true) :
    ∃ found after, Work.linkTag fileId name tables = (.ok found, after) ∧
      after.files = tables.files ∧ after.tags = tables.tags ∧ after.links.isSome = true := by
  obtain ⟨tag, isTag, isName⟩ := List.any_eq_true.1 named
  obtain ⟨links, isLinks⟩ := Option.isSome_iff_exists.1 present
  have sameTags : tables.insertTag (Tag.named name) = tables := by
    refine if_pos (List.any_eq_true.2 ⟨tag, isTag, ?_⟩)
    rw [Bool.or_eq_true]
    exact Or.inr isName
  have isFound : (tables.tag? name).isSome = true := List.find?_isSome.2 ⟨tag, isTag, isName⟩
  obtain ⟨found, isFound⟩ := Option.isSome_iff_exists.1 isFound
  have linkable : (tables.hasFile fileId && tables.tags.any fun other =>
      other.tagId = found.tagId) = true := by
    rw [known, Bool.true_and]
    exact List.any_eq_true.2 ⟨found, (name_of_tag? isFound).1, decide_eq_true rfl⟩
  obtain ⟨after, attached, kept⟩ : ∃ after,
      tables.attachTag fileId found.tagId = .ok after ∧ after.files = tables.files ∧
        after.tags = tables.tags ∧ after.links.isSome = true := by
    rw [attachTag, requireLinks, isLinks]
    change ∃ after, (if links.contains ⟨fileId, found.tagId⟩ = true then _ else _) = _ ∧ _
    split
    · exact ⟨tables, rfl, rfl, rfl, present⟩
    · exact ⟨_, rfl, rfl, rfl, rfl⟩
  refine ⟨found, after, ?_, kept⟩
  rw [Work.linkTag]
  simp only [Work.bind_eq_ok, Work.plain_eq_ok, Work.query_eq_ok, Work.pure_eq_ok]
  refine ⟨(), tables, by rw [sameTags], found, tables, ⟨?_, rfl⟩, (), after, attached, rfl, rfl⟩
  rw [isFound]

/-- Linking a registered file to tags that are there succeeds. -/
theorem exists_linkTags (known : tables.hasFile fileId = true)
    (present : tables.links.isSome = true)
    (named : ∀ name ∈ names, tables.hasTagNamed name = true) (collected : List Tag) :
    ∃ answer after, Work.linkTags fileId names collected tables = (.ok answer, after) := by
  induction names generalizing tables collected with
  | nil =>
      exact ⟨collected, tables, rfl⟩
  | cons name rest inductionHypothesis =>
      obtain ⟨found, between, linked, sameFiles, sameTags, stillLinks⟩ :=
        exists_linkTag known present (named name List.mem_cons_self)
      have stillKnown : between.hasFile fileId = true := by
        rw [hasFile, sameFiles]
        exact known
      have stillNamed : ∀ other ∈ rest, between.hasTagNamed other = true := by
        intro other member
        rw [hasTagNamed, sameTags]
        exact named other (List.mem_cons_of_mem name member)
      obtain ⟨answer, after, onward⟩ := inductionHypothesis stillKnown stillLinks stillNamed
        (if collected.contains found then collected else collected ++ [found])
      exact ⟨answer, after, Work.bind_eq_ok.2 ⟨found, between, linked, onward⟩⟩

/-- Replacing the tags of a live file by tags that are there succeeds. -/
theorem exists_updateDetails (live : before.isLive fileId = true)
    (present : before.links.isSome = true)
    (named : ∀ name ∈ names, before.hasTagNamed name = true) (details : FileDetails)
    (changedAt : Timestamp) :
    ∃ after, before.updateDetails fileId details (some names) changedAt = (.ok true, after) := by
  obtain ⟨links, isLinks⟩ := Option.isSome_iff_exists.1 present
  let described := (before.updateDescription fileId details.fileName details.fileType
    details.description (encodeTime changedAt)).2
  have isLinks' : described.links = some links := isLinks
  let cleared : Tables :=
    { described with
      links := some (links.filter fun link => decide (link.fileId ≠ fileId)) }
  have clearing : described.clearTags fileId = .ok cleared := by
    rw [clearTags, requireLinks, isLinks']
    rfl
  have known : cleared.hasFile fileId = true := by
    rw [isLive, Option.isSome_iff_ne_none, liveFile?_ne_none_iff] at live
    obtain ⟨row, member, sameFile, _⟩ := live
    have sameFiles : described.files.map FileRow.fileId = before.files.map FileRow.fileId :=
      map_updateLive fun _ => rfl
    have same : cleared.hasFile fileId = before.hasFile fileId :=
      hasFile_of_map_fileId sameFiles fileId
    rw [same]
    exact hasFile_eq_true_iff.2 ⟨row, member, sameFile⟩
  obtain ⟨answer, after, linking⟩ := exists_linkTags known rfl named []
  refine ⟨after, Work.transaction_eq_ok.2 (Work.bind_eq_ok.2
    ⟨_, described, Work.counted_eq_ok.2 ⟨rfl, rfl⟩, ?_⟩)⟩
  have notMissed : ¬ before.isLive fileId = false := by
    rw [live]
    exact Bool.noConfusion
  rw [if_neg (mt updateDescription_hits.1 notMissed)]
  simp only [Work.bind_eq_ok, Work.plain_eq_ok, Work.pure_eq_ok]
  exact ⟨(), cleared, clearing, answer, after, linking, trivial, rfl⟩

end Tables

end ContentVault
