import ContentVault.Proofs.Catalog.Orderly
import ContentVault.Proofs.Catalog.Part
import ContentVault.Proofs.Catalog.Tagging

/-!
# Work about some files in two catalogs

Two catalogs that hold the same rows of some files and may differ in all others, and the same
work about these files done in both.

* it answers the same and leaves the same rows of these files;
* it leaves the rows of all other files as they were, in both catalogs;
* it adds tags and takes none away, and a tag that it adds to one catalog is in the other,
  as long as different names have different tag identifiers.
-/

namespace ContentVault

/-- Different names of tags in scope have different identifiers. -/
def Scope.TellsTags (scope : Scope) : Prop :=
  ∀ first second, scope.tag first → scope.tag second → tagIdOf first = tagIdOf second →
    first = second

/-! ## Tags of orderly catalogs -/

namespace Tables

variable {scope : Scope} {tables : Tables} {name : String}

/-- Tags with names in scope that can be told by their identifiers. -/
structure NamesTags (scope : Scope) (tables : Tables) : Prop where
  orderly : tables.Orderly scope.path
  named : ∀ tag ∈ tables.tags, scope.tag tag.name

theorem NamesTags.tag_eq (names : tables.NamesTags scope) (tells : scope.TellsTags) {tag : Tag}
    (member : tag ∈ tables.tags) (inScope : scope.tag name) (sameId : tag.tagId = tagIdOf name) :
    tag = Tag.named name := by
  have isNamed := names.orderly.tags tag member
  have ownId : tag.tagId = tagIdOf tag.name := congrArg Tag.tagId isNamed
  rw [isNamed, tells tag.name name (names.named tag member) inScope (ownId.symm.trans sameId)]

/-- A tag is added unless it is there. -/
theorem NamesTags.insertTag_eq (names : tables.NamesTags scope) (tells : scope.TellsTags)
    (inScope : scope.tag name) :
    tables.insertTag (Tag.named name) =
      if Tag.named name ∈ tables.tags then tables
      else { tables with tags := tables.tags ++ [Tag.named name] } := by
  have taken : (tables.tags.any fun other =>
      other.tagId = (Tag.named name).tagId || other.name = (Tag.named name).name) = true ↔
        Tag.named name ∈ tables.tags := by
    simp only [List.any_eq_true, Bool.or_eq_true, decide_eq_true_eq]
    constructor
    · rintro ⟨other, member, sameId | sameName⟩
      · exact names.tag_eq tells member inScope sameId ▸ member
      · have isNamed := names.orderly.tags other member
        rw [sameName] at isNamed
        exact isNamed ▸ member
    · exact fun member => ⟨_, member, .inl rfl⟩
  simp only [insertTag, taken]

theorem NamesTags.insertTag (names : tables.NamesTags scope) (inScope : scope.tag name) :
    (tables.insertTag (Tag.named name)).NamesTags scope := by
  refine ⟨names.orderly.insertTag name, ?_⟩
  unfold Tables.insertTag
  split
  · exact names.named
  · intro tag member
    rcases List.mem_append.1 member with isOld | isNew
    · exact names.named tag isOld
    · rw [List.mem_singleton.1 isNew]
      exact inScope

theorem NamesTags.mem_insertTag (names : tables.NamesTags scope) (tells : scope.TellsTags)
    (inScope : scope.tag name) {tag : Tag} :
    tag ∈ (tables.insertTag (Tag.named name)).tags ↔
      tag ∈ tables.tags ∨ tag = Tag.named name := by
  rw [names.insertTag_eq tells inScope]
  split
  · rename_i member
    exact ⟨.inl, fun either => either.elim id fun same => same ▸ member⟩
  · simp

theorem Orderly.tag?_of_mem {allowed : String → String → Prop} (orderly : tables.Orderly allowed)
    (member : Tag.named name ∈ tables.tags) : tables.tag? name = some (Tag.named name) := by
  rcases found : tables.tag? name with _ | tag
  · exact absurd (decide_eq_true rfl) (List.find?_eq_none.1 found _ member)
  · have isName : tag.name = name := of_decide_eq_true (List.find?_some found :)
    rw [orderly.tags tag (List.mem_of_find?_eq_some found), isName]

/-- A link leads to the one tag with its identifier. -/
theorem NamesTags.find?_tagId (names : tables.NamesTags scope) (tells : scope.TellsTags)
    {tag : Tag} (member : tag ∈ tables.tags) :
    (tables.tags.find? fun other => other.tagId = tag.tagId) = some tag := by
  have isNamed := names.orderly.tags tag member
  rcases found : tables.tags.find? fun other => other.tagId = tag.tagId with _ | other
  · exact absurd (decide_eq_true rfl) (List.find?_eq_none.1 found _ member)
  · have sameId : other.tagId = tag.tagId := of_decide_eq_true (List.find?_some found :)
    have isTag := names.tag_eq tells (List.mem_of_find?_eq_some found) (names.named tag member)
      (sameId.trans (congrArg Tag.tagId isNamed))
    exact found.trans (congrArg some (isTag.trans isNamed.symm))

/-- The tag with a name is found once it was inserted, so that only linking it is left. -/
theorem NamesTags.linkTag_eq (names : tables.NamesTags scope) (tells : scope.TellsTags)
    (inScope : scope.tag name) (fileId : String) :
    Work.linkTag fileId name tables =
      (Work.plain (Tables.attachTag · fileId (tagIdOf name)) >>= fun _ =>
        pure (Tag.named name)) (tables.insertTag (Tag.named name)) := by
  have isThere := (names.insertTag inScope).orderly.tag?_of_mem
    ((names.mem_insertTag tells inScope).2 (.inr rfl))
  have inserted : Work.plain (fun tables => .ok (tables.insertTag (Tag.named name))) tables =
      (.ok (), tables.insertTag (Tag.named name)) := rfl
  refine (Work.bind_of_ok inserted).trans (Work.bind_of_ok ?_)
  rw [Work.query, isThere]

end Tables

/-! ## Two catalogs -/

/-- Two catalogs after the same work about the files in scope, which was begun in two others:
the rows of these files are the same in both, the rows of all other files are as they were,
and tags were only added. -/
structure Tables.Alongside (scope : Scope) (first second here there : Tables) : Prop where
  namesHere : here.NamesTags scope
  namesThere : there.NamesTags scope
  within : ∀ fileId, scope.file fileId → here.part fileId = there.part fileId
  beside : ∀ fileId, ¬ scope.file fileId →
    here.part fileId = first.part fileId ∧ there.part fileId = second.part fileId
  grown : first.tags <+: here.tags ∧ second.tags <+: there.tags
  tags : ∀ tag, tag ∈ there.tags ↔ tag ∈ here.tags ∨ tag ∈ second.tags

namespace Tables.Alongside

variable {scope : Scope} {first second here there : Tables} {fileId : String}

theorem start (namesFirst : first.NamesTags scope) (namesSecond : second.NamesTags scope)
    (same : ∀ fileId, scope.file fileId → first.part fileId = second.part fileId)
    (grown : first.tags <+: second.tags) : Alongside scope first second first second where
  namesHere := namesFirst
  namesThere := namesSecond
  within := same
  beside := fun _ _ => ⟨rfl, rfl⟩
  grown := ⟨List.prefix_refl _, List.prefix_refl _⟩
  tags := fun _ => ⟨.inr, fun either => either.elim (grown.subset ·) id⟩

variable (related : Alongside scope first second here there)

include related

/-- The same change of the rows of a file in scope. -/
theorem step {hereAfter thereAfter : Tables} (inScope : scope.file fileId)
    {change : FilePart → FilePart} (changesHere : here.ChangesPart fileId change hereAfter)
    (changesThere : there.ChangesPart fileId change thereAfter)
    (orderlyHere : hereAfter.Orderly scope.path) (orderlyThere : thereAfter.Orderly scope.path) :
    Alongside scope first second hereAfter thereAfter where
  namesHere := ⟨orderlyHere, changesHere.tags ▸ related.namesHere.named⟩
  namesThere := ⟨orderlyThere, changesThere.tags ▸ related.namesThere.named⟩
  within := by
    intro other otherInScope
    by_cases same : other = fileId
    · rw [same, changesHere.changed, changesThere.changed, related.within fileId inScope]
    · rw [changesHere.others other same, changesThere.others other same,
        related.within other otherInScope]
  beside := by
    intro other outside
    have different : other ≠ fileId := fun same => outside (same ▸ inScope)
    rw [changesHere.others other different, changesThere.others other different]
    exact related.beside other outside
  grown := by
    rw [changesHere.tags, changesThere.tags]
    exact related.grown
  tags := by
    rw [changesHere.tags, changesThere.tags]
    exact related.tags

/-- A tag is added to both catalogs, or only to the one that does not have it. -/
theorem insertTag (tells : scope.TellsTags) {name : String} (inScope : scope.tag name) :
    Alongside scope first second (here.insertTag (Tag.named name))
      (there.insertTag (Tag.named name)) where
  namesHere := related.namesHere.insertTag inScope
  namesThere := related.namesThere.insertTag inScope
  within := by
    intro fileId isInScope
    rw [part_insertTag, part_insertTag, related.within fileId isInScope]
  beside := by
    intro fileId outside
    rw [part_insertTag, part_insertTag]
    exact related.beside fileId outside
  grown := by
    have prefixed : ∀ {tables : Tables}, tables.NamesTags scope →
        tables.tags <+: (tables.insertTag (Tag.named name)).tags := by
      intro tables names
      rw [names.insertTag_eq tells inScope]
      split
      · exact List.prefix_refl _
      · exact List.prefix_append _ _
    exact ⟨related.grown.1.trans (prefixed related.namesHere),
      related.grown.2.trans (prefixed related.namesThere)⟩
  tags := by
    intro tag
    rw [related.namesHere.mem_insertTag tells inScope,
      related.namesThere.mem_insertTag tells inScope, related.tags]
    exact or_right_comm

/-! ### Reads -/

/-- The names of the tags of a file. -/
theorem tagsForFile (tells : scope.TellsTags) (inScope : scope.file fileId) :
    here.tagsForFile fileId = there.tagsForFile fileId := by
  obtain ⟨linksHere, presentHere, lead⟩ := related.namesHere.orderly.links
  obtain ⟨linksThere, presentThere, _⟩ := related.namesThere.orderly.links
  have sameLinks : (linksHere.filter fun link => link.fileId = fileId) =
      linksThere.filter fun link => link.fileId = fileId := by
    have sameParts := congrArg FilePart.links (related.within fileId inScope)
    simpa only [part, presentHere, presentThere, Option.map_some, Option.some.injEq]
      using sameParts
  have ofPart : ∀ (tables : Tables) (links : List TagLink),
      links.filterMap (tables.nameOfLink fileId) =
        (links.filter fun link => link.fileId = fileId).filterMap
          (tables.nameOfLink fileId) := by
    intro tables links
    rw [List.filterMap_filter]
    refine List.filterMap_congr fun link _ => ?_
    by_cases own : link.fileId = fileId
    · simp [own]
    · simp [own, nameOfLink]
  have sameNames : linksHere.filterMap (here.nameOfLink fileId) =
      linksThere.filterMap (there.nameOfLink fileId) := by
    rw [ofPart, ofPart there, ← sameLinks]
    refine List.filterMap_congr fun link member => ?_
    obtain ⟨tag, isTag, sameId⟩ := lead link (List.mem_of_mem_filter member)
    have isThere := (related.tags tag).2 (.inl isTag)
    rw [nameOfLink, nameOfLink, ← sameId, related.namesHere.find?_tagId tells isTag,
      related.namesThere.find?_tagId tells isThere]
  have answered : ∀ {tables : Tables} {links : List TagLink}, tables.links = some links →
      tables.tagsForFile fileId =
        .ok (sortedNames (links.filterMap (tables.nameOfLink fileId))) := by
    intro tables links present
    rw [Tables.tagsForFile, tagNames, requireLinks, present]
    rfl
  rw [answered presentHere, answered presentThere, sameNames]

/-! ### Statements -/

theorem insertFile {row : FileRow} (inScope : scope.file row.fileId)
    (isPath : scope.path row.fileId row.path) :
    SameChange (Alongside scope first second) (here.insertFile row) (there.insertFile row) := by
  have sameFile := hasFile_of_part (related.within row.fileId inScope)
  rcases known : here.hasFile row.fileId with _ | _
  · have insertedHere := insertFile_eq_ok.2 ⟨known, rfl⟩
    have insertedThere := insertFile_eq_ok.2 ⟨sameFile ▸ known, rfl⟩
    rw [insertedHere, insertedThere]
    exact .changed (related.step inScope (changesPart_insertFile row) (changesPart_insertFile row)
      (related.namesHere.orderly.insertFile isPath insertedHere)
      (related.namesThere.orderly.insertFile isPath insertedThere))
  · rw [Tables.insertFile, Tables.insertFile, ← sameFile, known]
    exact .failed _

omit related in
/-- Whether a version is taken is a matter of the versions of its file. -/
theorem freshVersion_iff_part {allowed : String → String → Prop} {tables : Tables}
    (orderly : tables.Orderly allowed) {row : VersionRow} (derived : row.IsDerived) :
    tables.FreshVersion row ↔ ∀ other ∈ (tables.part row.fileId).versions,
      other.versionId ≠ row.versionId ∧ other.number ≠ row.number := by
  constructor
  · intro fresh other member
    obtain ⟨isVersion, own⟩ := List.mem_filter.1 member
    obtain ⟨differs, numbered⟩ := fresh other isVersion
    exact ⟨differs, fun sameNumber => numbered ⟨of_decide_eq_true own, sameNumber⟩⟩
  · intro fresh other member
    by_cases own : other.fileId = row.fileId
    · obtain ⟨differs, numbered⟩ :=
        fresh other (List.mem_filter.2 ⟨member, decide_eq_true own⟩)
      exact ⟨differs, fun ⟨_, sameNumber⟩ => numbered sameNumber⟩
    · exact ⟨fun sameId => own ((orderly.versions other member).2.fileId_eq derived sameId),
        fun ⟨sameFile, _⟩ => own sameFile⟩

theorem insertVersion {row : VersionRow} (inScope : scope.file row.fileId)
    (isPath : scope.path row.fileId row.path) (derived : row.IsDerived) :
    SameChange (Alongside scope first second) (here.insertVersion row)
      (there.insertVersion row) := by
  have sameFile := hasFile_of_part (related.within row.fileId inScope)
  have sameFresh : here.FreshVersion row ↔ there.FreshVersion row := by
    rw [freshVersion_iff_part related.namesHere.orderly derived,
      freshVersion_iff_part related.namesThere.orderly derived,
      related.within row.fileId inScope]
  rw [insertVersion_eq, insertVersion_eq, ← sameFile]
  simp only [← sameFresh]
  split
  · rename_i fresh
    split
    · rename_i known
      exact .changed (related.step inScope (changesPart_insertVersion row)
        (changesPart_insertVersion row)
        (related.namesHere.orderly.insertVersion isPath derived
          (insertVersion_eq_ok.2 ⟨fresh, known, rfl⟩))
        (related.namesThere.orderly.insertVersion isPath derived
          (insertVersion_eq_ok.2 ⟨sameFresh.1 fresh, sameFile ▸ known, rfl⟩)))
    · exact .failed _
  · exact .failed _

/-- The same change of the live rows of a file in scope. -/
theorem updateLive (inScope : scope.file fileId) {condition : FileRow → Bool}
    {change : FileRow → FileRow} (sameFile : ∀ row, (change row).fileId = row.fileId)
    (isPath : ∀ row, row.fileId = fileId → scope.path row.fileId row.path →
      scope.path row.fileId (change row).path) :
    SameCount (Alongside scope first second) (here.updateLive fileId condition change)
      (there.updateLive fileId condition change) := by
  have kept : ∀ row : FileRow, row.fileId = fileId → scope.path row.fileId row.path →
      scope.path (change row).fileId (change row).path := by
    intro row own allowed
    rw [sameFile]
    exact isPath row own allowed
  refine ⟨?_, related.step inScope (changesPart_updateLive sameFile)
    (changesPart_updateLive sameFile) (related.namesHere.orderly.updateLive kept)
    (related.namesThere.orderly.updateLive kept)⟩
  rw [count_updateLive, count_updateLive, related.within fileId inScope]

theorem clearTags (inScope : scope.file fileId) :
    SameChange (Alongside scope first second) (here.clearTags fileId)
      (there.clearTags fileId) := by
  have cleared : ∀ {tables : Tables} {links : List TagLink}, tables.links = some links →
      tables.clearTags fileId = .ok { tables with
        links := some (links.filter fun link => decide (link.fileId ≠ fileId)) } := by
    intro tables links present
    rw [Tables.clearTags, requireLinks, present]
    rfl
  obtain ⟨linksHere, presentHere, _⟩ := related.namesHere.orderly.links
  obtain ⟨linksThere, presentThere, _⟩ := related.namesThere.orderly.links
  have clearedHere := cleared presentHere
  have clearedThere := cleared presentThere
  rw [clearedHere, clearedThere]
  exact .changed (related.step inScope (changesPart_clearTags presentHere)
    (changesPart_clearTags presentThere) (related.namesHere.orderly.clearTags clearedHere)
    (related.namesThere.orderly.clearTags clearedThere))

omit related in
/-- Whether a file is linked to a tag is a matter of the links of the file. -/
theorem attachTag_eq {tables : Tables} {links : List TagLink} (present : tables.links = some links)
    {tag : Tag} (member : tag ∈ tables.tags) (fileId : String) :
    tables.attachTag fileId tag.tagId =
      if ⟨fileId, tag.tagId⟩ ∈ ((tables.part fileId).links.getD []) then .ok tables
      else if tables.hasFile fileId then
        .ok { tables with links := some (links ++ [⟨fileId, tag.tagId⟩]) }
      else .error .other := by
  have linked : ⟨fileId, tag.tagId⟩ ∈ (tables.part fileId).links.getD [] ↔
      links.contains ⟨fileId, tag.tagId⟩ = true := by
    simp [part, present]
  have known : (tables.tags.any fun other => other.tagId = tag.tagId) = true :=
    List.any_eq_true.2 ⟨tag, member, decide_eq_true rfl⟩
  simp only [Tables.attachTag, requireLinks, present, bind, Except.bind, linked, known,
    Bool.and_true]
  rfl

theorem attachTag (inScope : scope.file fileId) {tag : Tag} (memberHere : tag ∈ here.tags) :
    SameChange (Alongside scope first second) (here.attachTag fileId tag.tagId)
      (there.attachTag fileId tag.tagId) := by
  obtain ⟨linksHere, presentHere, _⟩ := related.namesHere.orderly.links
  obtain ⟨linksThere, presentThere, _⟩ := related.namesThere.orderly.links
  have memberThere := (related.tags tag).2 (.inl memberHere)
  have samePart := related.within fileId inScope
  have attachedHere := attachTag_eq presentHere memberHere fileId
  have attachedThere := attachTag_eq presentThere memberThere fileId
  rw [← samePart, ← hasFile_of_part samePart] at attachedThere
  by_cases linked : ⟨fileId, tag.tagId⟩ ∈ (here.part fileId).links.getD []
  · rw [if_pos linked] at attachedHere attachedThere
    rw [attachedHere, attachedThere]
    exact .changed related
  · rw [if_neg linked] at attachedHere attachedThere
    by_cases known : here.hasFile fileId = true
    · rw [if_pos known] at attachedHere attachedThere
      rw [attachedHere, attachedThere]
      exact .changed (related.step inScope (changesPart_addLink presentHere tag.tagId)
        (changesPart_addLink presentThere tag.tagId)
        (related.namesHere.orderly.attachTag attachedHere)
        (related.namesThere.orderly.attachTag attachedThere))
    · rw [if_neg known] at attachedHere attachedThere
      rw [attachedHere, attachedThere]
      exact .failed _

/-- Finding or creating a tag and linking it, though one catalog may have the tag already. -/
theorem linkTag (tells : scope.TellsTags) {name : String} (inScope : scope.file fileId)
    (named : scope.tag name) :
    SameOutcome (Alongside scope first second) (fun _ => True)
      (Work.linkTag fileId name here) (Work.linkTag fileId name there) := by
  have inserted := related.insertTag tells named
  have isThere := (related.namesHere.mem_insertTag tells named).2 (.inr rfl)
  rw [related.namesHere.linkTag_eq tells named, related.namesThere.linkTag_eq tells named]
  exact Work.bind_same (Work.statement_same inserted (inserted.attachTag inScope isThere))
    fun _ _ => .pure trivial

end Tables.Alongside

/-- Catalogs that hold the same rows of the files in scope run in step. -/
theorem catalogInStep_of_alongside {scope : Scope} (tells : scope.TellsTags)
    (first second : Tables) : CatalogInStep scope (Tables.Alongside scope first second) where
  fileRecord := fun related inScope => Tables.fileRecord_of_part (related.within _ inScope)
  getFile := fun related inScope => Tables.getFile_of_part (related.within _ inScope)
  getVersion := fun related inScope => Tables.getVersion_of_part (related.within _ inScope) _
  listVersions := fun related inScope => Tables.listVersions_of_part (related.within _ inScope)
  tagsForFile := fun related inScope => related.tagsForFile tells inScope
  filePath := fun related _ => related.namesHere.orderly.path_of_getFile
  versionPath := fun related _ => related.namesHere.orderly.path_of_getVersion
  insertFile := fun related inScope isPath => related.insertFile inScope isPath
  insertVersion := fun related inScope isPath derived =>
    related.insertVersion inScope isPath derived
  bumpVersion := fun related inScope isPath =>
    related.updateLive inScope (fun _ => rfl) fun _ own _ => own ▸ isPath
  updateDescription := fun related inScope =>
    related.updateLive inScope (fun _ => rfl) fun _ _ => id
  trashFile := fun related inScope =>
    related.updateLive inScope (fun _ => rfl) fun _ _ => id
  linkTag := fun inScope named _ _ related => related.linkTag tells inScope named
  clearTags := fun related inScope => related.clearTags inScope

end ContentVault
