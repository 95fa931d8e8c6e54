import ContentVault.Document.Basic

/-!
# Documents in layers

What stands under a name after several documents were laid over each other.

* the values under a name are laid over each other alone: what the documents have
  under other names does not matter;
* so a key of a section has the value of the last document that sets it, whatever the
  documents set beside it, unless that value is itself a table;
* tables under the key are joined.
-/

namespace ContentVault

namespace Document

/-- A table, empty or not. -/
def IsTable (document : Document) : Prop := ∃ entries, document = .table entries

instance (document : Document) : Decidable document.IsTable :=
  decidable_of_iff (document = .table document.entries) (by
    constructor
    · exact fun same => ⟨_, same⟩
    · rintro ⟨entries, rfl⟩
      rfl)

/-- All values under a name.  A document that repeats a name has several. -/
def valuesOf (document : Document) (name : String) : List Document :=
  (document.entries.filter fun entry => entry.1 = name).map Prod.snd

/-- Lay values over an older one, if there is one, each over those before it. -/
def overlaid (values : List Document) (old : Option Document) : Option Document :=
  values.foldl (fun old value => some (value.laidOver (old.getD .absent))) old

/-- The document that layers give together, the lowest one first. -/
def joined (layers : List Document) : Document :=
  layers.foldl (fun lower upper => upper.laidOver lower) (.table [])

/-- All values for a key in a section. -/
def settingsOf (document : Document) (sectionName key : String) : List Document :=
  (document.valuesOf sectionName).flatMap fun found => found.valuesOf key

/-- The value that a document sets for a key in a section. -/
def setting? (document : Document) (sectionName key : String) : Option Document :=
  (document.settingsOf sectionName key).getLast?

/-! ## Values over each other -/

theorem overlaid_append (first second : List Document) (old : Option Document) :
    overlaid (first ++ second) old = overlaid second (overlaid first old) :=
  List.foldl_append

theorem laidOver_of_not_isTable {value : Document} (noTable : ¬ value.IsTable)
    (lower : Document) : value.laidOver lower = value := by
  cases value with
  | table entries => exact absurd ⟨entries, rfl⟩ noTable
  | _ => rfl

theorem IsTable.laidOver {value : Document} (isTable : value.IsTable) (lower : Document) :
    (value.laidOver lower).IsTable := by
  obtain ⟨entries, rfl⟩ := isTable
  exact ⟨_, rfl⟩

/-- A last value that is no table hides all others. -/
theorem overlaid_of_getLast? {values : List Document}
    (noTable : ∀ last ∈ values.getLast?, ¬ last.IsTable) :
    overlaid values none = values.getLast? := by
  rcases isLast : values.getLast? with _ | last
  · rw [List.getLast?_eq_none_iff] at isLast
    rw [isLast]
    rfl
  · obtain ⟨earlier, rfl⟩ := List.getLast?_eq_some_iff.1 isLast
    rw [overlaid_append]
    exact congrArg some (laidOver_of_not_isTable (noTable last isLast) _)

/-- A last value that is a table gives a table. -/
theorem exists_overlaid_of_getLast? {values : List Document} {last : Document}
    (isLast : values.getLast? = some last) (isTable : last.IsTable) (old : Option Document) :
    ∃ found, overlaid values old = some found ∧ found.IsTable := by
  obtain ⟨earlier, rfl⟩ := List.getLast?_eq_some_iff.1 isLast
  rw [overlaid_append]
  exact ⟨_, rfl, isTable.laidOver _⟩

theorem isTable_of_overlaid {values : List Document} (tables : ∀ value ∈ values, value.IsTable)
    {found : Document} (isFound : overlaid values none = some found) : found.IsTable := by
  rcases isLast : values.getLast? with _ | last
  · rw [List.getLast?_eq_none_iff] at isLast
    rw [isLast] at isFound
    cases isFound
  · obtain ⟨_, same, isTable⟩ := exists_overlaid_of_getLast? isLast
      (tables last (List.mem_of_getLast? isLast)) none
    rw [isFound] at same
    exact Option.some.inj same ▸ isTable

/-! ## What stands under a name -/

/-- Each entry only reaches the value under its own name. -/
theorem get?_entriesOver (upper : List (String × Document)) (lower : Table String Document)
    (name : String) :
    (entriesOver upper lower).get? name =
      overlaid (valuesOf (.table upper) name) (lower.get? name) := by
  induction upper generalizing lower with
  | nil =>
      rfl
  | cons entry rest inductionHypothesis =>
      obtain ⟨written, value⟩ := entry
      rw [entriesOver, inductionHypothesis, entryOver, Table.get?_put]
      by_cases same : written = name
      · subst same
        simp [valuesOf, entries, overlaid]
      · simp [valuesOf, entries, same]

theorem get?_laidOver {upper : Document} (isTable : upper.IsTable) (lower : Document)
    (name : String) :
    (upper.laidOver lower).get? name = overlaid (upper.valuesOf name) (lower.get? name) := by
  obtain ⟨entries, rfl⟩ := isTable
  exact get?_entriesOver entries lower.entries name

/-- Under a name stand the values of all layers for it, laid over each other. -/
theorem get?_foldl_laidOver {layers : List Document} (tables : ∀ layer ∈ layers, layer.IsTable)
    (base : Document) (name : String) :
    (layers.foldl (fun lower upper => upper.laidOver lower) base).get? name =
      overlaid (layers.flatMap fun layer => layer.valuesOf name) (base.get? name) := by
  induction layers generalizing base with
  | nil =>
      rfl
  | cons layer rest inductionHypothesis =>
      rw [List.forall_mem_cons] at tables
      rw [List.foldl_cons, inductionHypothesis tables.2, get?_laidOver tables.1,
        List.flatMap_cons, overlaid_append]

theorem get?_joined {layers : List Document} (tables : ∀ layer ∈ layers, layer.IsTable)
    (name : String) :
    (joined layers).get? name =
      overlaid (layers.flatMap fun layer => layer.valuesOf name) none :=
  get?_foldl_laidOver tables (.table []) name

/-! ## What stands under a key of a section -/

/-- Below tables that are laid over each other stand the values of all of them. -/
theorem bind_get?_overlaid {values : List Document} (tables : ∀ value ∈ values, value.IsTable)
    (old : Option Document) (key : String) :
    ((overlaid values old).bind fun found => found.get? key) =
      overlaid (values.flatMap fun value => value.valuesOf key)
        (old.bind fun found => found.get? key) := by
  induction values generalizing old with
  | nil =>
      rfl
  | cons value rest inductionHypothesis =>
      rw [List.forall_mem_cons] at tables
      have underKey : (old.getD .absent).get? key = old.bind fun found => found.get? key := by
        cases old with
        | none => rfl
        | some found => rfl
      rw [List.flatMap_cons, overlaid_append, ← underKey, ← get?_laidOver tables.1]
      exact inductionHypothesis tables.2 _

/-- The value for a key depends on nothing else than the values that the layers set for that
very key. -/
theorem setting_joined {layers : List Document} {sectionName : String}
    (tables : ∀ layer ∈ layers, layer.IsTable)
    (sections : ∀ layer ∈ layers, ∀ found ∈ layer.valuesOf sectionName, found.IsTable)
    (key : String) :
    (((joined layers).get? sectionName).bind fun found => found.get? key) =
      overlaid (layers.flatMap fun layer => layer.settingsOf sectionName key) none := by
  have allTables : ∀ found ∈ layers.flatMap fun layer => layer.valuesOf sectionName,
      found.IsTable := by
    intro found member
    obtain ⟨layer, isLayer, stands⟩ := List.mem_flatMap.1 member
    exact sections layer isLayer found stands
  rw [get?_joined tables, bind_get?_overlaid allTables, List.flatMap_assoc]
  rfl

/-- A section of the layers together is a table if it is one in each of them. -/
theorem isTable_joined {layers : List Document} {sectionName : String}
    (tables : ∀ layer ∈ layers, layer.IsTable)
    (sections : ∀ layer ∈ layers, ∀ found ∈ layer.valuesOf sectionName, found.IsTable)
    {found : Document} (isFound : (joined layers).get? sectionName = some found) :
    found.IsTable := by
  rw [get?_joined tables] at isFound
  refine isTable_of_overlaid (fun value member => ?_) isFound
  obtain ⟨layer, isLayer, stands⟩ := List.mem_flatMap.1 member
  exact sections layer isLayer value stands

end Document

end ContentVault
