import ContentVault.Configuration.Load
import ContentVault.Proofs.Catalog.Row
import ContentVault.Proofs.Document.Layers

/-!
# Settings in layers

Which layer a setting of the loaded configuration comes from.

* every setting has the value of the highest layer that sets that very key, and its
  default if no layer does;
* the kind of store may be a table; then the tables that the layers below write for it
  count with it, down to the first layer that writes anything else;
* a section has to be a table wherever it is written.
-/

namespace ContentVault

/-! ## Reading a setting -/

namespace Extraction

variable {α : Type} {read : Document → Extraction α} {default value : α}

/-- A setting is read from what was found for it, or keeps its default. -/
def Gives (read : Document → Extraction α) (default : α) (found : Option Document)
    (value : α) : Prop :=
  match found with
  | some document => read document = .ok value
  | none => value = default

instance [DecidableEq α] (read : Document → Extraction α) (default : α)
    (found : Option Document) (value : α) : Decidable (Gives read default found value) :=
  match found with
  | some document => inferInstanceAs (Decidable (read document = .ok value))
  | none => inferInstanceAs (Decidable (value = default))

/-- A reader of settings that cannot be tables. -/
def RefusesTables (read : Document → Extraction α) : Prop :=
  ∀ (document : Document) (value : α), document.IsTable → read document ≠ .ok value

theorem refusesTables_text (name : String) : RefusesTables (text name) := by
  rintro _ value ⟨entries, rfl⟩
  exact nofun

theorem refusesTables_optionalText (name : String) : RefusesTables (optionalText name) := by
  rintro _ value ⟨entries, rfl⟩
  exact nofun

theorem refusesTables_boolean (name : String) : RefusesTables (boolean name) := by
  rintro _ value ⟨entries, rfl⟩
  exact nofun

theorem refusesTables_word32 (name : String) : RefusesTables (word32 name) := by
  rintro _ value ⟨entries, rfl⟩
  exact nofun

theorem refusesTables_word64 (name : String) : RefusesTables (word64 name) := by
  rintro _ value ⟨entries, rfl⟩
  exact nofun

theorem refusesTables_driver (name : String) : RefusesTables (driver name) := by
  rintro _ value ⟨entries, rfl⟩
  exact nofun

/-- For a setting that cannot be a table only the last value counts. -/
theorem gives_overlaid_iff (refuses : RefusesTables read) (values : List Document) :
    Gives read default (Document.overlaid values none) value ↔
      Gives read default values.getLast? value := by
  by_cases noTable : ∀ last ∈ values.getLast?, ¬ last.IsTable
  · rw [Document.overlaid_of_getLast? noTable]
  · push Not at noTable
    obtain ⟨last, isLast, isTable⟩ := noTable
    obtain ⟨found, isFound, foundTable⟩ :=
      Document.exists_overlaid_of_getLast? isLast isTable none
    rw [isFound, isLast]
    exact iff_of_false (refuses found value foundTable) (refuses last value isTable)

theorem checkSection_of_isTable {document : Document} {name : String}
    (isTable : ∀ found ∈ document.get? name, found.IsTable) :
    checkSection document name = .ok (document.get? name) := by
  rw [checkSection]
  rcases isFound : document.get? name with _ | found
  · rfl
  · obtain ⟨entries, rfl⟩ := isTable found isFound
    rfl

theorem setting_eq_ok_iff {section? : Option Document}
    (isTable : ∀ found ∈ section?, found.IsTable) (place : Nat) (name : String)
    (read : String → Document → Extraction α) :
    setting section? place name read default = .ok value ↔
      Gives (read name) default (section?.bind fun found => found.get? name) value := by
  have sameEntry : entry? section? place name = section?.bind fun found => found.get? name := by
    rcases section? with _ | found
    · rfl
    · obtain ⟨entries, rfl⟩ := isTable found rfl
      rfl
  rw [setting, sameEntry]
  rcases section?.bind fun found => found.get? name with _ | document
  · exact (Except.ok.injEq _ _).to_iff.trans eq_comm
  · rfl

end Extraction

/-! ## Settings of a section -/

/-- The values for the settings of the database are those that were found for them. -/
structure DatabaseSettings.TakenFrom (value? : String → Option Document)
    (settings default : DatabaseSettings) : Prop where
  driver : Extraction.Gives (Extraction.driver "driver") default.driver (value? "driver")
    settings.driver
  dsn : Extraction.Gives (Extraction.text "dsn") default.dsn (value? "dsn") settings.dsn
  maxOpenConnections : Extraction.Gives (Extraction.word32 "max_open_connections")
    default.maxOpenConnections (value? "max_open_connections") settings.maxOpenConnections
  maxIdleConnections : Extraction.Gives (Extraction.word32 "max_idle_connections")
    default.maxIdleConnections (value? "max_idle_connections") settings.maxIdleConnections
  maxLifetimeSeconds : Extraction.Gives (Extraction.word64 "max_lifetime_secs")
    default.maxLifetimeSeconds (value? "max_lifetime_secs") settings.maxLifetimeSeconds

/-- The values for the settings of the blobs' store are those that were found for them. -/
structure StorageSettings.TakenFrom (value? : String → Option Document)
    (kind? : Option Document) (settings default : StorageSettings) : Prop where
  kind : Extraction.Gives (Extraction.storageKind "kind") default.kind kind? settings.kind
  root : Extraction.Gives (Extraction.text "root") default.root (value? "root") settings.root
  bucket : Extraction.Gives (Extraction.optionalText "bucket") default.bucket
    (value? "bucket") settings.bucket
  region : Extraction.Gives (Extraction.text "region") default.region (value? "region")
    settings.region
  endpoint : Extraction.Gives (Extraction.optionalText "endpoint") default.endpoint
    (value? "endpoint") settings.endpoint
  keyId : Extraction.Gives (Extraction.optionalText "key_id") default.keyId
    (value? "key_id") settings.keyId
  keySecret : Extraction.Gives (Extraction.optionalText "key_secret") default.keySecret
    (value? "key_secret") settings.keySecret
  keyPrefix : Extraction.Gives (Extraction.optionalText "prefix") default.keyPrefix
    (value? "prefix") settings.keyPrefix
  createBucket : Extraction.Gives (Extraction.boolean "create_bucket") default.createBucket
    (value? "create_bucket") settings.createBucket

/-- The limits are those that were found for them. -/
structure EngineSettings.TakenFrom (value? : String → Option Document)
    (settings default : EngineSettings) : Prop where
  maxUploadSize : Extraction.Gives (Extraction.word64 "max_upload_size")
    default.maxUploadSize (value? "max_upload_size") settings.maxUploadSize
  operationTimeoutSeconds : Extraction.Gives (Extraction.word64 "operation_timeout_secs")
    default.operationTimeoutSeconds (value? "operation_timeout_secs")
    settings.operationTimeoutSeconds

/-- What is logged is what was found for it. -/
structure LogSettings.TakenFrom (value? : String → Option Document)
    (settings default : LogSettings) : Prop where
  filter : Extraction.Gives (Extraction.text "filter") default.filter (value? "filter")
    settings.filter

namespace Extraction

variable {layers : List Document} {sectionName : String}

/-- The value of the last layer that sets a key of a section. -/
def highest? (layers : List Document) (sectionName key : String) : Option Document :=
  (layers.flatMap fun layer => layer.settingsOf sectionName key).getLast?

/-- The layers are tables, and so is a section wherever they write it. -/
structure HaveTables (layers : List Document) (sectionName : String) : Prop where
  document : ∀ layer ∈ layers, layer.IsTable
  found : ∀ layer ∈ layers, ∀ found ∈ layer.valuesOf sectionName, found.IsTable

namespace HaveTables

theorem checkSection_eq (tables : HaveTables layers sectionName) :
    checkSection (Document.joined layers) sectionName =
      .ok ((Document.joined layers).get? sectionName) :=
  checkSection_of_isTable fun _ => Document.isTable_joined tables.document tables.found

theorem setting_eq_ok_iff {α : Type} {default value : α}
    (tables : HaveTables layers sectionName) (place : Nat) (key : String)
    (read : String → Document → Extraction α) :
    setting ((Document.joined layers).get? sectionName) place key read default = .ok value ↔
      Gives (read key) default
        (Document.overlaid (layers.flatMap fun layer => layer.settingsOf sectionName key) none)
        value := by
  rw [Extraction.setting_eq_ok_iff
    (fun _ => Document.isTable_joined tables.document tables.found),
    Document.setting_joined tables.document tables.found]

/-- A setting that cannot be a table has the value of the highest layer that sets it. -/
theorem setting_eq_ok_iff_of_refusesTables {α : Type} {default value : α}
    {read : String → Document → Extraction α} {key : String}
    (tables : HaveTables layers sectionName) (place : Nat) (refuses : RefusesTables (read key)) :
    setting ((Document.joined layers).get? sectionName) place key read default = .ok value ↔
      Gives (read key) default (highest? layers sectionName key) value := by
  rw [tables.setting_eq_ok_iff, gives_overlaid_iff refuses]
  rfl

theorem database_eq_ok_iff {settings default : DatabaseSettings}
    (tables : HaveTables layers "database") :
    Extraction.database (Document.joined layers) default = .ok settings ↔
      settings.TakenFrom (highest? layers "database") default := by
  simp only [Extraction.database, tables.checkSection_eq, except_bind_eq_ok, Except.ok.injEq,
    exists_eq_left', tables.setting_eq_ok_iff_of_refusesTables _ (refusesTables_driver _),
    tables.setting_eq_ok_iff_of_refusesTables _ (refusesTables_text _),
    tables.setting_eq_ok_iff_of_refusesTables _ (refusesTables_word32 _),
    tables.setting_eq_ok_iff_of_refusesTables _ (refusesTables_word64 _)]
  constructor
  · rintro ⟨driver, isDriver, dsn, isDsn, maxOpen, isMaxOpen, maxIdle, isMaxIdle,
      maxLifetime, isMaxLifetime, ⟨⟩⟩
    exact ⟨isDriver, isDsn, isMaxOpen, isMaxIdle, isMaxLifetime⟩
  · intro taken
    exact ⟨_, taken.driver, _, taken.dsn, _, taken.maxOpenConnections, _,
      taken.maxIdleConnections, _, taken.maxLifetimeSeconds, rfl⟩

/-- The kind of store is read from all values that the layers write for it. -/
theorem storage_eq_ok_iff {settings default : StorageSettings}
    (tables : HaveTables layers "storage") :
    Extraction.storage (Document.joined layers) default = .ok settings ↔
      settings.TakenFrom (highest? layers "storage")
        (Document.overlaid (layers.flatMap fun layer => layer.settingsOf "storage" "kind") none)
        default := by
  simp only [Extraction.storage, tables.checkSection_eq, except_bind_eq_ok, Except.ok.injEq,
    exists_eq_left', tables.setting_eq_ok_iff_of_refusesTables _ (refusesTables_text _),
    tables.setting_eq_ok_iff_of_refusesTables _ (refusesTables_optionalText _),
    tables.setting_eq_ok_iff_of_refusesTables _ (refusesTables_boolean _),
    tables.setting_eq_ok_iff _ _ storageKind]
  constructor
  · rintro ⟨kind, isKind, root, isRoot, bucket, isBucket, region, isRegion, endpoint,
      isEndpoint, keyId, isKeyId, keySecret, isKeySecret, keyPrefix, isKeyPrefix,
      createBucket, isCreateBucket, ⟨⟩⟩
    exact ⟨isKind, isRoot, isBucket, isRegion, isEndpoint, isKeyId, isKeySecret, isKeyPrefix,
      isCreateBucket⟩
  · intro taken
    exact ⟨_, taken.kind, _, taken.root, _, taken.bucket, _, taken.region, _, taken.endpoint,
      _, taken.keyId, _, taken.keySecret, _, taken.keyPrefix, _, taken.createBucket, rfl⟩

theorem engine_eq_ok_iff {settings default : EngineSettings}
    (tables : HaveTables layers "engine") :
    Extraction.engine (Document.joined layers) default = .ok settings ↔
      settings.TakenFrom (highest? layers "engine") default := by
  simp only [Extraction.engine, tables.checkSection_eq, except_bind_eq_ok, Except.ok.injEq,
    exists_eq_left', tables.setting_eq_ok_iff_of_refusesTables _ (refusesTables_word64 _)]
  constructor
  · rintro ⟨uploadSize, isUploadSize, timeout, isTimeout, ⟨⟩⟩
    exact ⟨isUploadSize, isTimeout⟩
  · intro taken
    exact ⟨_, taken.maxUploadSize, _, taken.operationTimeoutSeconds, rfl⟩

theorem log_eq_ok_iff {settings default : LogSettings} (tables : HaveTables layers "log") :
    Extraction.log (Document.joined layers) default = .ok settings ↔
      settings.TakenFrom (highest? layers "log") default := by
  simp only [Extraction.log, tables.checkSection_eq, except_bind_eq_ok, Except.ok.injEq,
    exists_eq_left', tables.setting_eq_ok_iff_of_refusesTables _ (refusesTables_text _)]
  constructor
  · rintro ⟨filter, isFilter, ⟨⟩⟩
    exact ⟨isFilter⟩
  · intro taken
    exact ⟨_, taken.filter, rfl⟩

end HaveTables

end Extraction

end ContentVault
