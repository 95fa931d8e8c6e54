import ContentVault.Proofs.Catalog.Work

/-!
# Units of work in step

The same work on two related catalogs.

* a relation between tables runs in step with the statements about some files if they do to
  one what they do to the other, and leave the two related;
* then every unit of work about these files answers the same on both, and leaves them
  related, whether or not it fails.
-/

namespace ContentVault

/-- The same answer, of which something is known if it is no error, beside related states. -/
structure SameOutcome {σ ε α : Type} (relation : σ → σ → Prop) (expects : α → Prop)
    (here there : Except ε α × σ) : Prop where
  answers : here.1 = there.1
  states : relation here.2 there.2
  expected : ∀ value, here.1 = .ok value → expects value

namespace SameOutcome

variable {σ ε α : Type} {relation : σ → σ → Prop} {expects : α → Prop}
  {here there : Except ε α × σ}

/-- Both succeed with the same value, or both fail with the same error. -/
theorem cases (same : SameOutcome relation expects here there) :
    (∃ value first second, here = (.ok value, first) ∧ there = (.ok value, second) ∧
        relation first second ∧ expects value) ∨
      ∃ failure first second, here = (.error failure, first) ∧
        there = (.error failure, second) ∧ relation first second := by
  obtain ⟨answers, states, expected⟩ := same
  rcases here with ⟨failure | value, first⟩
  · exact .inr ⟨failure, first, there.2, rfl, Prod.ext answers.symm rfl, states⟩
  · exact .inl ⟨value, first, there.2, rfl, Prod.ext answers.symm rfl, states,
      expected value rfl⟩

theorem of_ok {value : α} {first second : σ} (states : relation first second)
    (expected : expects value) :
    SameOutcome relation expects ((.ok value, first) : Except ε α × σ) (.ok value, second) :=
  ⟨rfl, states, fun _ same => Except.ok.inj same ▸ expected⟩

theorem of_error {failure : ε} {first second : σ} (states : relation first second) :
    SameOutcome relation expects ((.error failure, first) : Except ε α × σ)
      (.error failure, second) :=
  ⟨rfl, states, nofun⟩

/-- What follows a result is the same on both sides, and an error ends both. -/
theorem bindCont {β : Type} {wants : β → Prop} {nextHere nextThere : α → ExceptT ε (StateM σ) β}
    (same : SameOutcome relation expects here there)
    (next : ∀ value, expects value → ∀ first second, relation first second →
      SameOutcome relation wants (nextHere value first) (nextThere value second)) :
    SameOutcome relation wants (ExceptT.bindCont nextHere here.1 here.2)
      (ExceptT.bindCont nextThere there.1 there.2) := by
  rcases same.cases with
    ⟨value, first, second, rfl, rfl, states, expected⟩ |
      ⟨failure, first, second, rfl, rfl, states⟩
  · exact next value expected first second states
  · exact .of_error states

end SameOutcome

/-- Files, the paths that each of them may have, and names of tags. -/
structure Scope where
  file : String → Prop
  path : String → String → Prop
  tag : String → Prop

/-- The same change succeeds on two tables and leaves them related, or it fails alike. -/
inductive SameChange (relation : Tables → Tables → Prop) :
    Except StatementFailure Tables → Except StatementFailure Tables → Prop where
  | changed {here there : Tables} (related : relation here there) :
      SameChange relation (.ok here) (.ok there)
  | failed (failure : StatementFailure) : SameChange relation (.error failure) (.error failure)

/-- As many rows of two tables are changed, which leaves them related. -/
def SameCount (relation : Tables → Tables → Prop) (here there : Nat × Tables) : Prop :=
  here.1 = there.1 ∧ relation here.2 there.2

/-- A version whose identifier belongs to its file and number. -/
def VersionRecord.IsDerived (version : VersionRecord) : Prop :=
  version.versionId = versionIdOf version.fileId version.number

/-- A row of a version whose identifier belongs to its file and number. -/
def VersionRow.IsDerived (row : VersionRow) : Prop :=
  ∃ number, row.versionId = versionIdOf row.fileId number ∧ row.number = encodeNumber number

theorem VersionRecord.IsDerived.row {version : VersionRecord} {row : VersionRow}
    (derived : version.IsDerived) (encoded : version.toRow = .ok row) : row.IsDerived := by
  obtain ⟨_, rfl⟩ := VersionRecord.toRow_eq_ok.1 encoded
  exact ⟨version.number, derived, rfl⟩

namespace Work

variable {α β : Type} {relation : Tables → Tables → Prop} {expects : α → Prop}
  {wants : β → Prop}

/-- Work that does to related tables the same. -/
def InStep (relation : Tables → Tables → Prop) (expects : α → Prop) (work : Work α) : Prop :=
  ∀ here there, relation here there → SameOutcome relation expects (work here) (work there)

theorem statement_same {raise : StatementFailure → CatalogError}
    {change : Tables → Except StatementFailure Tables} {here there : Tables}
    (related : relation here there) (changes : SameChange relation (change here) (change there)) :
    SameOutcome relation (fun _ => True) (statement raise change here)
      (statement raise change there) := by
  unfold statement
  generalize change here = first at changes ⊢
  generalize change there = second at changes ⊢
  cases changes with
  | changed after =>
      exact .of_ok after trivial
  | failed failure =>
      exact .of_error related

theorem bind_same {first : Work α} {next : α → Work β} {here there : Tables}
    (same : SameOutcome relation expects (first here) (first there))
    (nextInStep : ∀ value, expects value → InStep relation wants (next value)) :
    SameOutcome relation wants ((first >>= next) here) ((first >>= next) there) :=
  same.bindCont nextInStep

namespace InStep

theorem pure {value : α} (expected : expects value) :
    InStep relation expects (Pure.pure value : Work α) :=
  fun _ _ related => .of_ok related expected

theorem throw (failure : CatalogError) :
    InStep relation expects (MonadExcept.throw failure : Work α) :=
  fun _ _ related => .of_error related

/-- A query that does not look at the tables. -/
theorem fixed (answer : Except CatalogError α) :
    InStep relation (fun value => answer = .ok value) (Work.query fun _ => answer) :=
  fun _ _ related => ⟨rfl, related, fun _ => id⟩

theorem statement {raise : StatementFailure → CatalogError}
    {change : Tables → Except StatementFailure Tables}
    (same : ∀ here there, relation here there →
      SameChange relation (change here) (change there)) :
    InStep relation (fun _ => True) (Work.statement raise change) :=
  fun here there related => statement_same related (same here there related)

theorem counted {change : Tables → Nat × Tables}
    (same : ∀ here there, relation here there →
      SameCount relation (change here) (change there)) :
    InStep relation (fun _ => True) (Work.counted change) := by
  intro here there related
  obtain ⟨sameCount, after⟩ := same here there related
  exact ⟨congrArg Except.ok sameCount, after, fun _ _ => trivial⟩

theorem bind {first : Work α} {next : α → Work β} (firstInStep : InStep relation expects first)
    (nextInStep : ∀ value, expects value → InStep relation wants (next value)) :
    InStep relation wants (first >>= next) :=
  fun here there related => bind_same (firstInStep here there related) nextInStep

/-- What is rolled back is rolled back on both sides. -/
theorem transaction {work : Work α} (inStep : InStep relation expects work) :
    InStep relation expects work.transaction := by
  intro here there related
  unfold Work.transaction
  rcases (inStep here there related).cases with
    ⟨value, before, after, isHere, isThere, between, expected⟩ |
      ⟨failure, before, after, isHere, isThere, _⟩
  · rw [isHere, isThere]
    exact .of_ok between expected
  · rw [isHere, isThere]
    exact .of_error related

end InStep

end Work

/-- What reads and statements about the files in scope do to two related catalogs. -/
structure CatalogInStep (scope : Scope) (relation : Tables → Tables → Prop) : Prop where
  fileRecord : ∀ {here there : Tables} {fileId : String}, relation here there →
    scope.file fileId → here.fileRecord fileId = there.fileRecord fileId
  getFile : ∀ {here there : Tables} {fileId : String}, relation here there →
    scope.file fileId → here.getFile fileId = there.getFile fileId
  getVersion : ∀ {here there : Tables} {fileId : String} {number : UInt32},
    relation here there → scope.file fileId →
      here.getVersion fileId number = there.getVersion fileId number
  listVersions : ∀ {here there : Tables} {fileId : String}, relation here there →
    scope.file fileId → here.listVersions fileId = there.listVersions fileId
  tagsForFile : ∀ {here there : Tables} {fileId : String}, relation here there →
    scope.file fileId → here.tagsForFile fileId = there.tagsForFile fileId
  filePath : ∀ {here there : Tables} {fileId : String} {file : FileRecord},
    relation here there → scope.file fileId → here.getFile fileId = .ok (some file) →
      scope.path fileId file.path
  versionPath : ∀ {here there : Tables} {fileId : String} {number : UInt32}
    {version : VersionRecord}, relation here there → scope.file fileId →
      here.getVersion fileId number = .ok (some version) → scope.path fileId version.path
  insertFile : ∀ {here there : Tables} {row : FileRow}, relation here there →
    scope.file row.fileId → scope.path row.fileId row.path →
      SameChange relation (here.insertFile row) (there.insertFile row)
  insertVersion : ∀ {here there : Tables} {row : VersionRow}, relation here there →
    scope.file row.fileId → scope.path row.fileId row.path → row.IsDerived →
      SameChange relation (here.insertVersion row) (there.insertVersion row)
  bumpVersion : ∀ {here there : Tables} {row : VersionRow} {expected : Int64},
    relation here there → scope.file row.fileId → scope.path row.fileId row.path →
      SameCount relation (here.bumpVersion row expected) (there.bumpVersion row expected)
  updateDescription : ∀ {here there : Tables} {fileId : String}
    {fileName fileType description : Option String} {changedAt : Int64},
    relation here there → scope.file fileId →
      SameCount relation
        (here.updateDescription fileId fileName fileType description changedAt)
        (there.updateDescription fileId fileName fileType description changedAt)
  trashFile : ∀ {here there : Tables} {fileId : String} {trashedAt : Int64},
    relation here there → scope.file fileId →
      SameCount relation (here.trashFile fileId trashedAt) (there.trashFile fileId trashedAt)
  linkTag : ∀ {fileId name : String}, scope.file fileId → scope.tag name →
    (Work.linkTag fileId name).InStep relation (fun _ => True)
  clearTags : ∀ {here there : Tables} {fileId : String}, relation here there →
    scope.file fileId →
      SameChange relation (here.clearTags fileId) (there.clearTags fileId)

namespace CatalogInStep

variable {scope : Scope} {relation : Tables → Tables → Prop}
  (inStep : CatalogInStep scope relation)

include inStep

theorem createFile {file : FileRecord} {version : VersionRecord}
    (inScope : scope.file file.fileId) (filePath : scope.path file.fileId file.path)
    (sameFile : version.fileId = file.fileId) (samePath : version.path = file.path)
    (derived : version.IsDerived) :
    (Work.createFile file version).InStep relation (fun _ => True) := by
  unfold Work.createFile
  split
  · exact Work.InStep.throw _
  refine Work.InStep.bind (Work.InStep.fixed file.toRow) fun fileRow fileEncoded => ?_
  refine Work.InStep.bind (Work.InStep.fixed version.toRow) fun versionRow encoded => ?_
  have isDerived := derived.row encoded
  obtain ⟨_, rfl⟩ := FileRecord.toRow_eq_ok.1 fileEncoded
  obtain ⟨_, rfl⟩ := VersionRecord.toRow_eq_ok.1 encoded
  refine Work.InStep.bind (Work.InStep.statement fun _ _ related =>
    inStep.insertFile related inScope filePath) fun _ _ => ?_
  refine Work.InStep.statement fun _ _ related => inStep.insertVersion related ?_ ?_ isDerived
  · rw [sameFile]
    exact inScope
  · rw [sameFile, samePath]
    exact filePath

theorem appendVersion {version : VersionRecord} {expected : UInt32}
    (inScope : scope.file version.fileId) (path : scope.path version.fileId version.path)
    (derived : version.IsDerived) :
    (Work.appendVersion version expected).InStep relation (fun _ => True) := by
  unfold Work.appendVersion
  split
  · exact Work.InStep.throw _
  refine Work.InStep.bind (Work.InStep.fixed version.toRow) fun row encoded => ?_
  have isDerived := derived.row encoded
  obtain ⟨_, rfl⟩ := VersionRecord.toRow_eq_ok.1 encoded
  refine Work.InStep.bind (Work.InStep.counted fun _ _ related =>
    inStep.bumpVersion related inScope path) fun bumped _ => ?_
  split
  · exact Work.InStep.throw _
  · exact Work.InStep.statement fun _ _ related =>
      inStep.insertVersion related inScope path isDerived

theorem linkTags {fileId : String} (inScope : scope.file fileId) {names : List String}
    (named : ∀ name ∈ names, scope.tag name) (linked : List Tag) :
    (Work.linkTags fileId names linked).InStep relation (fun _ => True) := by
  induction names generalizing linked with
  | nil =>
      exact Work.InStep.pure trivial
  | cons name rest inductionHypothesis =>
      obtain ⟨isNamed, restNamed⟩ := List.forall_mem_cons.1 named
      exact Work.InStep.bind (inStep.linkTag inScope isNamed) fun tag _ =>
        inductionHypothesis restNamed _

theorem updateDetails {fileId : String} (inScope : scope.file fileId) (details : FileDetails)
    {tags : Option (List String)} (named : ∀ names ∈ tags, ∀ name ∈ names, scope.tag name)
    (changedAt : Timestamp) :
    (Work.updateDetails fileId details tags changedAt).InStep relation (fun _ => True) := by
  refine Work.InStep.bind (Work.InStep.counted fun _ _ related =>
    inStep.updateDescription related inScope) fun updated _ => ?_
  split
  · exact Work.InStep.pure trivial
  cases tags with
  | none =>
      exact Work.InStep.pure trivial
  | some names =>
      refine Work.InStep.bind (Work.InStep.statement fun _ _ related =>
        inStep.clearTags related inScope) fun _ _ => ?_
      exact Work.InStep.bind (inStep.linkTags inScope (named names rfl) []) fun _ _ =>
        Work.InStep.pure trivial

theorem trashFiles (trashedAt : Timestamp) {fileIds : List String}
    (inScope : ∀ fileId ∈ fileIds, scope.file fileId) (trashed : List String) :
    (Work.trashFiles trashedAt fileIds trashed).InStep relation (fun _ => True) := by
  induction fileIds generalizing trashed with
  | nil =>
      exact Work.InStep.pure trivial
  | cons fileId rest inductionHypothesis =>
      obtain ⟨isInScope, restInScope⟩ := List.forall_mem_cons.1 inScope
      exact Work.InStep.bind (Work.InStep.counted fun _ _ related =>
        inStep.trashFile related isInScope) fun hit _ => inductionHypothesis restInScope _

end CatalogInStep

end ContentVault
