import ContentVault.Proofs.Catalog.Work
import ContentVault.Proofs.Text.Blank
import ContentVault.Vault.Tags
import Mathlib.Data.List.Nodup
import Mathlib.Data.List.Sort
import Mathlib.Data.String.Basic

/-!
# Attaching tags

* the names that a text lists are distinct and tidy;
* attaching tags to a file adds a tag for every name that has none and a link for
  every tag that the file does not carry yet, and nothing else;
* where tags have keys and links refer to files, a new file then carries exactly
  the tags with the given names;
* the tags of several files are those of each of them.
-/

namespace ContentVault

/-! ## Distinct names -/

theorem nodup_firstMentions {α : Type} [DecidableEq α] (items : List α) {kept : List α}
    (distinct : kept.Nodup) :
    (firstMentions kept items).Nodup := by
  induction items generalizing kept with
  | nil =>
      exact distinct
  | cons item rest inductionHypothesis =>
      rw [firstMentions]
      by_cases known : item ∈ kept
      · rw [if_pos known]
        exact inductionHypothesis distinct
      · rw [if_neg known]
        refine inductionHypothesis (List.nodup_append.2 ⟨distinct, by simp, ?_⟩)
        intro old member new newMember
        rw [List.mem_singleton] at newMember
        rintro rfl
        exact known (newMember ▸ member)

theorem mem_firstMentions {α : Type} [DecidableEq α] {items kept : List α} {item : α} :
    item ∈ firstMentions kept items ↔ item ∈ kept ∨ item ∈ items := by
  induction items generalizing kept with
  | nil =>
      simp [firstMentions]
  | cons first rest inductionHypothesis =>
      rw [firstMentions, inductionHypothesis, List.mem_cons]
      by_cases known : first ∈ kept
      · rw [if_pos known]
        constructor
        · exact Or.imp_right Or.inr
        · rintro (inKept | rfl | inRest)
          · exact Or.inl inKept
          · exact Or.inl known
          · exact Or.inr inRest
      · rw [if_neg known, List.mem_append, List.mem_singleton, or_assoc]

/-- Items that are kept already are passed over. -/
theorem firstMentions_append {α : Type} [DecidableEq α] (kept more items : List α) :
    firstMentions (kept ++ more) items =
      kept ++ firstMentions more (items.filter fun item => decide (item ∉ kept)) := by
  induction items generalizing more with
  | nil =>
      rfl
  | cons item rest inductionHypothesis =>
      by_cases isKept : item ∈ kept
      · rw [firstMentions, if_pos (List.mem_append_left _ isKept),
          List.filter_cons_of_neg (by simpa using isKept), inductionHypothesis]
      · rw [List.filter_cons_of_pos (by simpa using isKept), firstMentions, firstMentions]
        by_cases isMore : item ∈ more
        · rw [if_pos (List.mem_append_right _ isMore), if_pos isMore, inductionHypothesis]
        · rw [if_neg (by simp [isKept, isMore]), if_neg isMore, List.append_assoc,
            inductionHypothesis]

theorem firstMentions_of_nodup {α : Type} [DecidableEq α] {items : List α}
    (distinct : items.Nodup) :
    firstMentions [] items = items := by
  induction items with
  | nil =>
      rfl
  | cons item rest inductionHypothesis =>
      obtain ⟨newItem, distinctRest⟩ := List.nodup_cons.1 distinct
      have others : (rest.filter fun other => decide (other ∉ [item])) = rest := by
        rw [List.filter_eq_self]
        intro other member
        refine decide_eq_true fun isItem => ?_
        rw [List.mem_singleton] at isItem
        exact newItem (isItem ▸ member)
      rw [firstMentions, if_neg List.not_mem_nil, List.nil_append, ← List.append_nil [item],
        firstMentions_append, others, inductionHypothesis distinctRest, List.singleton_append]

/-- Items are kept in the order in which they are mentioned first. -/
theorem pairwise_idxOf_firstMentions {α : Type} [DecidableEq α] {done kept items : List α}
    {wanted : α → Bool} (known : ∀ item, item ∈ kept ↔ item ∈ done ∧ wanted item = true)
    (ordered : kept.Pairwise fun first second =>
      (done ++ items).idxOf first < (done ++ items).idxOf second) :
    (firstMentions kept (items.filter wanted)).Pairwise fun first second =>
      (done ++ items).idxOf first < (done ++ items).idxOf second := by
  induction items generalizing done kept with
  | nil => exact ordered
  | cons item rest inductionHypothesis =>
      rw [List.append_cons] at ordered ⊢
      by_cases isWanted : wanted item = true
      · rw [List.filter_cons_of_pos isWanted, firstMentions]
        by_cases isKept : item ∈ kept
        · rw [if_pos isKept]
          refine inductionHypothesis (fun other => ?_) ordered
          rw [known, List.mem_append, List.mem_singleton]
          exact ⟨fun ⟨old, wants⟩ => ⟨Or.inl old, wants⟩, fun ⟨old, wants⟩ =>
            ⟨old.elim id fun same => same ▸ ((known item).1 isKept).1, wants⟩⟩
        · rw [if_neg isKept]
          have isNew : item ∉ done := fun old => isKept ((known item).2 ⟨old, isWanted⟩)
          refine inductionHypothesis (fun other => ?_) ?_
          · rw [List.mem_append, known, List.mem_append, List.mem_singleton]
            by_cases same : other = item
            · simp [same, isWanted]
            · simp [same]
          · refine List.pairwise_append.2 ⟨ordered, List.pairwise_singleton _ _, ?_⟩
            intro old isOld new isItem
            rw [List.mem_singleton] at isItem
            subst isItem
            have oldDone := ((known old).1 isOld).1
            rw [List.append_assoc, List.idxOf_append_of_mem oldDone,
              List.idxOf_append_of_notMem isNew]
            exact Nat.lt_add_right _ (List.idxOf_lt_length_of_mem oldDone)
      · rw [List.filter_cons_of_neg isWanted]
        refine inductionHypothesis (fun other => ?_) ordered
        rw [known, List.mem_append, List.mem_singleton]
        by_cases same : other = item
        · simp [same, isWanted]
        · simp [same]

theorem nodup_parseTags (text : String) : (parseTags text).Nodup :=
  nodup_firstMentions _ List.nodup_nil

theorem isTidy_of_mem_parseTags {text name : String} (listed : name ∈ parseTags text) :
    IsTidy name := by
  rcases mem_firstMentions.1 listed with isKept | isNamed
  · cases isKept
  obtain ⟨characters, named, rfl⟩ := List.mem_map.1 isNamed
  obtain ⟨isTrimmed, notEmpty⟩ := List.mem_filter.1 named
  obtain ⟨piece, _, rfl⟩ := List.mem_map.1 isTrimmed
  refine ⟨fun empty => ?_, trim_ofList_trimChars piece⟩
  rw [String.ofList_eq_empty_iff] at empty
  rw [empty] at notEmpty
  cases notEmpty

/-! ## One tag -/

/-- Where keys are distinct, an item is found by its key. -/
theorem find?_of_nodup_keys {α κ : Type} [DecidableEq κ] {key : α → κ} {items : List α}
    {item : α} (keyed : (items.map key).Nodup) (member : item ∈ items) :
    (items.find? fun other => key other = key item) = some item := by
  rcases first : items.find? fun other => key other = key item with _ | other
  · rw [List.find?_eq_none] at first
    exact absurd (decide_eq_true rfl) (first item member)
  · have sameKey := List.find?_some first
    rw [List.inj_on_of_nodup_map keyed (List.mem_of_find?_eq_some first) member
      (of_decide_eq_true sameKey)]

namespace Tables

variable {before after tables : Tables} {fileId name : String} {tag : Tag}

/-- Whether there is a tag with a name. -/
def hasTagNamed (tables : Tables) (name : String) : Bool :=
  tables.tags.any fun tag => tag.name = name

theorem tag?_of_appended {added : List Tag} (more : after.tags = before.tags ++ added)
    (found : before.tag? name = some tag) :
    after.tag? name = some tag := by
  rw [tag?, more, List.find?_append]
  unfold tag? at found
  rw [found]
  rfl

/-- A tag that is found after an insertion was there or was inserted. -/
theorem insertTag_tags
    (found : (tables.insertTag (Tag.named name)).tag? name = some tag) :
    (tables.insertTag (Tag.named name)).tags =
      tables.tags ++ if tables.hasTagNamed name then [] else [Tag.named name] := by
  unfold insertTag at found ⊢
  by_cases named : tables.hasTagNamed name = true
  · rw [if_pos named, List.append_nil]
    have taken : (tables.tags.any fun other =>
        other.tagId = (Tag.named name).tagId || other.name = (Tag.named name).name) = true := by
      rw [hasTagNamed, List.any_eq_true] at named
      obtain ⟨other, member, sameName⟩ := named
      rw [List.any_eq_true]
      refine ⟨other, member, ?_⟩
      rw [Bool.or_eq_true]
      exact Or.inr sameName
    rw [if_pos taken]
  · rw [if_neg named]
    split at found
    · exfalso
      rw [tag?] at found
      have sameName := List.find?_some found
      refine named ?_
      rw [hasTagNamed, List.any_eq_true]
      exact ⟨tag, List.mem_of_find?_eq_some found, sameName⟩
    · rename_i free
      rw [if_neg free]

theorem nodup_insertTag (distinct : (tables.tags.map Tag.tagId).Nodup) (new : Tag) :
    ((tables.insertTag new).tags.map Tag.tagId).Nodup := by
  unfold insertTag
  split
  · exact distinct
  · rename_i free
    simp only [List.any_eq_true, Bool.or_eq_true, decide_eq_true_eq, not_exists, not_and,
      not_or] at free
    rw [List.map_append, List.nodup_append]
    refine ⟨distinct, by simp, ?_⟩
    intro tagId member other otherMember same
    obtain ⟨old, oldMember, rfl⟩ := List.mem_map.1 member
    rw [List.map_singleton, List.mem_singleton] at otherMember
    exact (free old oldMember).1 (same.trans otherMember)

end Tables

/-- What linking a file to one tag does when it succeeds. -/
theorem linkTag_eq_ok {before after : Tables} {fileId name : String} {tag : Tag}
    (linked : Work.linkTag fileId name before = (.ok tag, after)) :
    after.files = before.files ∧ after.versions = before.versions ∧
      after.tags =
        before.tags ++ (if before.hasTagNamed name then [] else [Tag.named name]) ∧
      after.tag? name = some tag ∧
      ((before.tags.map Tag.tagId).Nodup → (after.tags.map Tag.tagId).Nodup) ∧
      ∃ links,
        before.links = some links ∧
          after.links =
            some
              (links ++
                if ⟨fileId, tag.tagId⟩ ∈ links then [] else [⟨fileId, tag.tagId⟩]) := by
  unfold Work.linkTag at linked
  simp only [Work.bind_eq_ok, Work.plain_eq_ok, Work.query_eq_ok, Work.pure_eq_ok] at linked
  obtain ⟨_, inserted, insertion, found, _, ⟨lookup, rfl⟩, _, final, attached, rfl, rfl⟩ := linked
  cases insertion
  split at lookup
  · rename_i isTag
    cases lookup
    obtain ⟨links, present, rfl⟩ := Tables.attachTag_eq_ok attached
    have untouched : (before.insertTag (Tag.named name)).files = before.files ∧
        (before.insertTag (Tag.named name)).versions = before.versions ∧
        (before.insertTag (Tag.named name)).links = before.links := by
      obtain ⟨_, inserted⟩ := Tables.insertTag_eq before (Tag.named name)
      rw [inserted]
      exact ⟨rfl, rfl, rfl⟩
    exact ⟨untouched.1, untouched.2.1, Tables.insertTag_tags isTag, isTag,
      fun distinct => Tables.nodup_insertTag distinct _, links, untouched.2.2 ▸ present, rfl⟩
  · cases lookup

/-! ## Several tags -/

/-- The tags that are missing for some names, in the order of first mention. -/
def Tables.missingTags (tables : Tables) (names : List String) : List Tag :=
  (firstMentions [] (names.filter fun name => !tables.hasTagNamed name)).map Tag.named

/-- The tag that one name adds is missing no more for the others. -/
theorem Tables.missingTags_cons {before after : Tables} {name : String}
    (added :
      after.tags =
        before.tags ++ if before.hasTagNamed name then [] else [Tag.named name])
    (rest : List String) :
    after.tags ++ after.missingTags rest = before.tags ++ before.missingTags (name :: rest) := by
  unfold missingTags
  rw [added]
  by_cases isNamed : before.hasTagNamed name = true
  · have sameNames : ∀ other, after.hasTagNamed other = before.hasTagNamed other := by
      intro other
      rw [if_pos isNamed, List.append_nil] at added
      rw [hasTagNamed, added, hasTagNamed]
    rw [if_pos isNamed, List.append_nil, List.filter_cons_of_neg (by simp [isNamed])]
    simp only [sameNames]
  · have fewerNames :
        (rest.filter fun other => !after.hasTagNamed other) =
          (rest.filter fun other => !before.hasTagNamed other).filter
            fun other => decide (other ∉ [name]) := by
      rw [List.filter_filter]
      refine List.filter_congr fun other _ => ?_
      rw [hasTagNamed, added, if_neg isNamed, List.any_append]
      simp [hasTagNamed, Tag.named, eq_comm, Bool.and_comm]
    rw [if_neg isNamed, List.filter_cons_of_pos (by simpa using isNamed), firstMentions,
      if_neg List.not_mem_nil, List.nil_append, fewerNames, ← List.append_nil [name],
      firstMentions_append, List.append_nil, List.map_append, List.append_assoc]
    rfl

/-- What linking a file to the tags with given names writes: the missing tags, and
for the tag of each name a link unless it is linked already. -/
structure Tables.Linked (fileId : String) (names : List String) (before : Tables)
    (tags : List Tag) (after : Tables) : Prop where
  named : names.map after.tag? = tags.map some
  present : names ≠ [] → before.links.isSome = true
  tables :
    after =
      { before with
        tags := before.tags ++ before.missingTags names
        links :=
          before.links.map fun links =>
            firstMentions links (tags.map fun tag => ⟨fileId, tag.tagId⟩) }

theorem linked_of_linkTags {fileId : String} {names : List String}
    {before after : Tables} {collected answer : List Tag}
    (linked : Work.linkTags fileId names collected before = (.ok answer, after)) :
    ∃ tags,
      answer = firstMentions collected tags ∧ Tables.Linked fileId names before tags after := by
  induction names generalizing before collected with
  | nil =>
      rw [Work.linkTags, Work.pure_eq_ok] at linked
      obtain ⟨rfl, rfl⟩ := linked
      refine ⟨[], rfl, rfl, fun some => absurd rfl some, ?_⟩
      simp [Tables.missingTags, firstMentions]
  | cons name rest inductionHypothesis =>
      rw [Work.linkTags, Work.bind_eq_ok] at linked
      obtain ⟨tag, between, linkedFirst, linkedRest⟩ := linked
      obtain ⟨files, versions, tagsAdded, found, _, links, present, linksAdded⟩ :=
        linkTag_eq_ok linkedFirst
      obtain ⟨others, answered, named, _, final⟩ := inductionHypothesis linkedRest
      have stillFound : after.tag? name = some tag :=
        Tables.tag?_of_appended (congrArg Tables.tags final) found
      have sameLinks :
          between.links.map (fun links =>
              firstMentions links (others.map fun tag => ⟨fileId, tag.tagId⟩)) =
            before.links.map fun links =>
              firstMentions links ((tag :: others).map fun tag => ⟨fileId, tag.tagId⟩) := by
        rw [present, linksAdded, Option.map_some, Option.map_some, List.map_cons, firstMentions]
        by_cases known : ⟨fileId, tag.tagId⟩ ∈ links
        · rw [if_pos known, if_pos known, List.append_nil]
        · rw [if_neg known, if_neg known]
      refine ⟨tag :: others, ?_, ?_, fun _ => by rw [present]; rfl, ?_⟩
      · rw [answered, firstMentions]
        simp only [List.contains_iff_mem]
      · rw [List.map_cons, List.map_cons, stillFound, named]
      · rw [final, files, versions, Tables.missingTags_cons tagsAdded, sameLinks]

namespace Tables.Linked

variable {fileId name : String} {names : List String} {before after : Tables}
  {tag : Tag} {tags : List Tag}

theorem tag_of_name (linked : Linked fileId names before tags after) (given : name ∈ names) :
    ∃ tag ∈ tags, after.tag? name = some tag := by
  have found : after.tag? name ∈ tags.map some :=
    linked.named ▸ List.mem_map_of_mem given
  obtain ⟨tag, member, isFound⟩ := List.mem_map.1 found
  exact ⟨tag, member, isFound.symm⟩

theorem name_of_tag (linked : Linked fileId names before tags after) (member : tag ∈ tags) :
    ∃ name ∈ names, after.tag? name = some tag := by
  have named : some tag ∈ names.map after.tag? :=
    linked.named ▸ List.mem_map_of_mem member
  exact List.mem_map.1 named

end Tables.Linked

/-- Identifiers of tags that were distinct still are. -/
def Tables.KeepsTagIds (before after : Tables) : Prop :=
  (before.tags.map Tag.tagId).Nodup → (after.tags.map Tag.tagId).Nodup

instance : IsPreorder Tables Tables.KeepsTagIds where
  refl _ := id
  trans _ _ _ first second := second ∘ first

theorem Tables.KeepsTagIds.allowsTagging (fileId : String) :
    Work.AllowsTagging KeepsTagIds fileId where
  insert _ tag distinct := nodup_insertTag distinct tag
  attach attached := by
    obtain ⟨_, _, rfl⟩ := attachTag_eq_ok attached
    exact id
  clear cleared := by
    obtain ⟨_, _, rfl⟩ := clearTags_eq_ok cleared
    exact id

/-- What linking a file to tags with given names does to the tables of tags and
links: the missing tags are added, and links that lead to the named tags. -/
structure Tables.Tagged (fileId : String) (names : List String) (before after : Tables) :
    Prop where
  tags :
    after.tags =
      before.tags ++ (names.filter fun name => !before.hasTagNamed name).map Tag.named
  tagIds : (before.tags.map Tag.tagId).Nodup → (after.tags.map Tag.tagId).Nodup
  links :
    ∃ added,
      after.links = before.links.map (· ++ added) ∧ added.Nodup ∧
        ∀ link ∈ added, link ∉ before.links.getD [] ∧
          ∃ name ∈ names, ∃ tag,
            after.tag? name = some tag ∧ link = ⟨fileId, tag.tagId⟩
  linked :
    ∀ name ∈ names, ∃ tag links,
      after.tag? name = some tag ∧ after.links = some links ∧ ⟨fileId, tag.tagId⟩ ∈ links

theorem linkTags_eq_ok {fileId : String} {names : List String} (distinct : names.Nodup)
    {before after : Tables} {collected answer : List Tag}
    (linked : Work.linkTags fileId names collected before = (.ok answer, after)) :
    after.files = before.files ∧ after.versions = before.versions ∧
      Tables.Tagged fileId names before after := by
  obtain ⟨tags, _, whole⟩ := linked_of_linkTags linked
  have links := congrArg Tables.links whole.tables
  have tagIds : Tables.KeepsTagIds before after :=
    (Work.within_linkTags (Tables.KeepsTagIds.allowsTagging fileId) names collected).related
      linked
  refine ⟨by rw [whole.tables], by rw [whole.tables], ?_, tagIds, ?_, ?_⟩
  · rw [congrArg Tables.tags whole.tables, Tables.missingTags,
      firstMentions_of_nodup (distinct.filter _)]
  · let targets : List TagLink := tags.map fun tag => ⟨fileId, tag.tagId⟩
    let old := before.links.getD []
    refine ⟨firstMentions [] (targets.filter fun link => decide (link ∉ old)), ?_,
      nodup_firstMentions _ List.nodup_nil, ?_⟩
    · rw [links]
      rcases present : before.links with _ | all
      · rfl
      · have isOld : old = all := by
          simp only [old, present, Option.getD_some]
        rw [Option.map_some, Option.map_some, isOld, ← firstMentions_append, List.append_nil]
    · intro link member
      rcases mem_firstMentions.1 member with isKept | isTarget
      · cases isKept
      · obtain ⟨target, new⟩ := List.mem_filter.1 isTarget
        obtain ⟨tag, isTag, isLink⟩ := List.mem_map.1 target
        obtain ⟨name, given, found⟩ := whole.name_of_tag isTag
        exact ⟨of_decide_eq_true new, name, given, tag, found, isLink.symm⟩
  · intro name given
    obtain ⟨tag, isTag, found⟩ := whole.tag_of_name given
    obtain ⟨all, present⟩ :=
      Option.isSome_iff_exists.1 (whole.present (List.ne_nil_of_mem given))
    rw [present, Option.map_some] at links
    exact ⟨tag, _, found, links,
      mem_firstMentions.2 (Or.inr (List.mem_map_of_mem isTag))⟩

theorem tagged_of_attachTags {fileId : String} {names : List String} (distinct : names.Nodup)
    {before after : Tables} {tags : List Tag}
    (attached : before.attachTags fileId names = (.ok tags, after)) :
    after.files = before.files ∧ after.versions = before.versions ∧
      Tables.Tagged fileId names before after :=
  linkTags_eq_ok distinct (Work.transaction_eq_ok.1 attached)

/-! ## The tags of a new file -/

/-- The table of links is there and refers to files, and the keys of tags are
distinct. -/
structure Tables.TagsKeyed (tables : Tables) (links : List TagLink) : Prop where
  present : tables.links = some links
  linkedFiles : ∀ link ∈ links, tables.hasFile link.fileId = true
  tagIds : (tables.tags.map Tag.tagId).Nodup

/-- The name of the tag behind a link, if the link is one of a file. -/
def Tables.nameOfLink (tables : Tables) (fileId : String) (link : TagLink) : Option String :=
  if link.fileId = fileId then
    (tables.tags.find? fun tag => tag.tagId = link.tagId).map Tag.name
  else
    none

/-- The link from a file to the tag with a name. -/
def Tables.linkTo (tables : Tables) (fileId name : String) : TagLink :=
  ⟨fileId, ((tables.tag? name).map Tag.tagId).getD ""⟩

section NewFile

variable {fileId name : String} {names : List String} {before after : Tables} {tag : Tag}

theorem linkTo_of_found (found : after.tag? name = some tag) :
    after.linkTo fileId name = ⟨fileId, tag.tagId⟩ := by
  rw [Tables.linkTo, found]
  rfl

theorem name_of_tag? (found : after.tag? name = some tag) :
    tag ∈ after.tags ∧ tag.name = name := by
  rw [Tables.tag?] at found
  have isName := List.find?_some found
  exact ⟨List.mem_of_find?_eq_some found, of_decide_eq_true isName⟩

/-- A link leads to the tag that it was made for. -/
theorem nameOfLink_linkTo (tagIds : (after.tags.map Tag.tagId).Nodup)
    (found : after.tag? name = some tag) :
    after.nameOfLink fileId (after.linkTo fileId name) = some name := by
  obtain ⟨member, isName⟩ := name_of_tag? found
  have looked :
      after.nameOfLink fileId ⟨fileId, tag.tagId⟩ =
        (after.tags.find? fun other => other.tagId = tag.tagId).map Tag.name :=
    if_pos rfl
  rw [linkTo_of_found found, looked, find?_of_nodup_keys tagIds member, Option.map_some, isName]

/-- A file that was new carries exactly the given tags. -/
theorem Tables.Tagged.tagNames (tagged : Tables.Tagged fileId names before after)
    (distinct : names.Nodup) {old : List TagLink} (keyed : before.TagsKeyed old)
    (new : before.hasFile fileId = false) :
    ∃ carried, after.tagNames fileId = .ok carried ∧ carried.Perm names := by
  obtain ⟨added, links, distinctLinks, justified⟩ := tagged.links
  have distinctIds := tagged.tagIds keyed.tagIds
  have unlinked : ∀ link ∈ old, link.fileId ≠ fileId := by
    intro link member same
    have known := keyed.linkedFiles link member
    rw [same, new] at known
    cases known
  rw [keyed.present, Option.map_some] at links
  rw [keyed.present, Option.getD_some] at justified
  -- The added links are those to the given names, in some order.
  have sameLinks : added.Perm (names.map (after.linkTo fileId)) := by
    refine (List.perm_ext_iff_of_nodup distinctLinks ?_).2 ?_
    · refine List.Nodup.map_on ?_ distinct
      intro first firstMember second secondMember same
      obtain ⟨firstTag, _, firstFound, _⟩ := tagged.linked first firstMember
      obtain ⟨secondTag, _, secondFound, _⟩ := tagged.linked second secondMember
      have secondName : after.nameOfLink fileId (after.linkTo fileId second) = some first :=
        same ▸ nameOfLink_linkTo distinctIds firstFound
      rw [nameOfLink_linkTo distinctIds secondFound] at secondName
      exact (Option.some.inj secondName).symm
    · intro link
      rw [List.mem_map]
      constructor
      · intro member
        obtain ⟨_, name, isGiven, tag, found, rfl⟩ := justified link member
        exact ⟨name, isGiven, linkTo_of_found found⟩
      · rintro ⟨name, isGiven, rfl⟩
        obtain ⟨tag, all, found, present, member⟩ := tagged.linked name isGiven
        rw [links] at present
        cases present
        rw [linkTo_of_found found]
        rcases List.mem_append.1 member with isOld | isAdded
        · exact absurd rfl (unlinked _ isOld)
        · exact isAdded
  have oldNames : old.filterMap (after.nameOfLink fileId) = [] := by
    rw [List.filterMap_eq_nil_iff]
    intro link member
    rw [nameOfLink, if_neg (unlinked link member)]
  have newNames : (names.map (after.linkTo fileId)).filterMap (after.nameOfLink fileId) =
      names := by
    rw [List.filterMap_map]
    refine (List.filterMap_congr ?_).trans List.filterMap_some
    intro name member
    obtain ⟨tag, _, found, _⟩ := tagged.linked name member
    exact nameOfLink_linkTo distinctIds found
  refine ⟨sortedNames ((old ++ added).filterMap (after.nameOfLink fileId)), ?_, ?_⟩
  · rw [Tables.tagNames, requireLinks, links]
    rfl
  · rw [List.filterMap_append, oldNames, List.nil_append]
    refine (List.mergeSort_perm _ _).trans ?_
    rw [← newNames]
    exact sameLinks.filterMap _

end NewFile

/-! ## The names of a file's tags -/

/-- Whether a name is one of those that a file is tagged with. -/
def Tables.Carries (tables : Tables) (fileId name : String) : Prop :=
  ∃ names, tables.tagNames fileId = .ok names ∧ name ∈ names

/-- Where tags have keys and different names, a file carries a name if it is linked to the
tag with that name. -/
theorem Tables.carries_iff {tables : Tables} {fileId name : String}
    (tagIds : (tables.tags.map Tag.tagId).Nodup)
    (distinctNames : (tables.tags.map Tag.name).Nodup) :
    tables.Carries fileId name ↔
      ∃ tag links,
        tables.tag? name = some tag ∧ tables.links = some links ∧
          ⟨fileId, tag.tagId⟩ ∈ links := by
  constructor
  · rintro ⟨names, answered, listed⟩
    rcases present : tables.links with _ | links
    · rw [tagNames, requireLinks, present] at answered
      cases answered
    rw [tagNames, requireLinks, present] at answered
    cases answered
    rw [sortedNames, List.mem_mergeSort, List.mem_filterMap] at listed
    obtain ⟨link, member, named⟩ := listed
    split at named
    · rename_i sameFile
      obtain ⟨tag, isTag, rfl⟩ := Option.map_eq_some_iff.1 named
      have sameId := List.find?_some isTag
      rw [decide_eq_true_eq] at sameId
      refine ⟨tag, links, find?_of_nodup_keys distinctNames (List.mem_of_find?_eq_some isTag),
        rfl, ?_⟩
      rw [sameId, ← sameFile]
      exact member
    · cases named
  · rintro ⟨tag, links, found, present, linked⟩
    refine ⟨sortedNames (links.filterMap (tables.nameOfLink fileId)), ?_, ?_⟩
    · rw [tagNames, requireLinks, present]
      rfl
    · rw [sortedNames, List.mem_mergeSort, List.mem_filterMap]
      refine ⟨_, linked, ?_⟩
      rw [← linkTo_of_found found]
      exact nameOfLink_linkTo tagIds found

/-! ## The tags of several files -/

namespace Tables

variable {tables : Tables} {fileIds : List String}

theorem exists_tagNames (present : tables.links.isSome = true) (fileId : String) :
    ∃ names, tables.tagNames fileId = .ok names := by
  obtain ⟨links, isLinks⟩ := Option.isSome_iff_exists.1 present
  unfold tagNames requireLinks
  rw [isLinks]
  exact ⟨_, rfl⟩

theorem databaseError_eq_ok {α : Type} {answer : Except StatementFailure α} {value : α} :
    databaseError answer = .ok value ↔ answer = .ok value := by
  cases answer <;> simp [databaseError]

theorem lookup_addName {entries : List (String × List String)} {row : String × String}
    (fileId : String) :
    ((addName entries row).lookup fileId).getD [] =
      (entries.lookup fileId).getD [] ++ if row.1 = fileId then [row.2] else [] := by
  obtain ⟨named, name⟩ := row
  induction entries with
  | nil =>
      by_cases same : named = fileId
      · simp [addName, same]
      · have differs : (fileId == named) = false := beq_false_of_ne (Ne.symm same)
        simp [addName, List.lookup_cons, same, differs]
  | cons entry rest inductionHypothesis =>
      obtain ⟨other, names⟩ := entry
      rw [addName, List.lookup_cons]
      by_cases isOther : other = named
      · rw [if_pos isOther, List.lookup_cons]
        by_cases same : fileId = other
        · simp [same, isOther]
        · have differs : (fileId == other) = false := beq_false_of_ne same
          have notNamed : named ≠ fileId := isOther ▸ Ne.symm same
          simp [differs, notNamed]
      · rw [if_neg isOther, List.lookup_cons]
        by_cases same : fileId = other
        · have notNamed : named ≠ fileId := fun isNamed => isOther (same.symm.trans isNamed.symm)
          simp [same, same ▸ notNamed]
        · have differs : (fileId == other) = false := beq_false_of_ne same
          simp only [differs]
          exact inductionHypothesis

/-- Grouping rows by file keeps the order of each file's names. -/
theorem lookup_foldl_addName (rows : List (String × String))
    (entries : List (String × List String)) (fileId : String) :
    ((rows.foldl addName entries).lookup fileId).getD [] =
      (entries.lookup fileId).getD [] ++
        (rows.filter fun row => decide (row.1 = fileId)).map Prod.snd := by
  induction rows generalizing entries with
  | nil =>
      simp
  | cons row rest inductionHypothesis =>
      rw [List.foldl_cons, inductionHypothesis, lookup_addName, List.append_assoc]
      by_cases same : row.1 = fileId
      · simp [same]
      · simp [same]

/-- The links of one file among those of several. -/
theorem filter_namedLink {links : List TagLink} {fileId : String} (asked : fileId ∈ fileIds) :
    ((links.filterMap (tables.namedLink fileIds)).filter
        fun row => decide (row.1 = fileId)).map Prod.snd =
      links.filterMap (tables.nameOfLink fileId) := by
  rw [List.filter_filterMap, List.map_filterMap]
  refine List.filterMap_congr fun link _ => ?_
  rcases found : tables.tags.find? fun tag => tag.tagId = link.tagId with _ | tag
  · simp [namedLink, nameOfLink, found]
  · by_cases sameFile : link.fileId = fileId
    · simp [namedLink, nameOfLink, found, sameFile, asked]
    · by_cases others : link.fileId ∈ fileIds
      · simp [namedLink, nameOfLink, found, sameFile, others]
      · simp [namedLink, nameOfLink, sameFile, others]

/-- The names of each file are those that are found for it alone, in the same order; a file
that is left out has no tags. -/
theorem tagNames_of_tagsForFiles {entries : List (String × List String)}
    (answered : tables.tagsForFiles fileIds = .ok entries) {fileId : String}
    (asked : fileId ∈ fileIds) :
    tables.tagNames fileId = .ok ((entries.lookup fileId).getD []) := by
  rw [tagsForFiles, if_neg (List.ne_nil_of_mem asked), except_bind_eq_ok] at answered
  obtain ⟨links, present, same⟩ := answered
  cases same
  let rows := (links.filterMap (tables.namedLink fileIds)).mergeSort
    fun first second => first.2 ≤ second.2
  have inOrder : ((rows.filter fun row => decide (row.1 = fileId)).map Prod.snd).Pairwise
      (· ≤ ·) := by
    have sorted : rows.Pairwise fun first second => decide (first.2 ≤ second.2) = true := by
      refine List.pairwise_mergeSort ?_ ?_ _
      · intro first second third
        simpa using le_trans
      · intro first second
        simpa using le_total first.2 second.2
    exact List.pairwise_map.2 (List.Pairwise.filter _ (sorted.imp of_decide_eq_true))
  have sameNames :
      ((rows.filter fun row => decide (row.1 = fileId)).map Prod.snd).Perm
        (sortedNames (links.filterMap (tables.nameOfLink fileId))) := by
    refine (List.Perm.map _ (List.Perm.filter _ (List.mergeSort_perm _ _))).trans ?_
    rw [filter_namedLink asked]
    exact (List.mergeSort_perm _ _).symm
  rw [lookup_foldl_addName, tagNames, databaseError_eq_ok.1 present]
  exact congrArg Except.ok
    (sameNames.eq_of_pairwise' inOrder (List.pairwise_mergeSort' (· ≤ ·) _)).symm

theorem exists_tagsForFiles (present : tables.links.isSome = true) (fileIds : List String) :
    ∃ entries, tables.tagsForFiles fileIds = .ok entries := by
  obtain ⟨links, isLinks⟩ := Option.isSome_iff_exists.1 present
  unfold tagsForFiles requireLinks
  split
  · exact ⟨_, rfl⟩
  · rw [isLinks]
    exact ⟨_, rfl⟩

end Tables

end ContentVault
