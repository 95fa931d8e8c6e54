import ContentVault.Proofs.Configuration.Layers

/-!
# Sources of settings

The places that settings are loaded from, and what the loaded configuration has of each.

* the environment comes before the file that was named, this one before the files of the
  configuration directory, and of those the last one counts first;
* each of them may be missing, and none hides more than the very keys that it sets.
-/

namespace ContentVault

namespace Configuration

/-- What was found at the places where settings are looked for. -/
structure Sources where
  toml : Option Document
  yaml : Option Document
  json : Option Document
  /-- The file that was named explicitly. -/
  named : Option Document
  environment : Document

namespace Sources

/-- The value for a key of a section: it is that of the first source which sets the key. -/
def value? (sources : Sources) (sectionName key : String) : Option Document :=
  sources.environment.setting? sectionName key <|>
    (sources.named.bind fun file => file.setting? sectionName key) <|>
      (sources.json.bind fun file => file.setting? sectionName key) <|>
        (sources.yaml.bind fun file => file.setting? sectionName key) <|>
          sources.toml.bind fun file => file.setting? sectionName key

/-- The documents that were found, the lowest layer first. -/
def layers (sources : Sources) : List Document :=
  sources.toml.toList ++ sources.yaml.toList ++ sources.json.toList ++ sources.named.toList ++
    [sources.environment]

/-- The kind of store.  A table is laid over what the layers below have in its place. -/
def kind? (sources : Sources) : Option Document :=
  match sources.value? "storage" "kind" with
  | some (.table _) =>
      Document.overlaid
        (sources.layers.flatMap fun layer => layer.settingsOf "storage" "kind") none
  | found => found

/-- A section is a table wherever it is written. -/
def SectionsAreTables (sources : Sources) : Prop :=
  ∀ sectionName ∈ ["database", "storage", "engine", "log"],
    ∀ layer ∈ sources.layers, ∀ found ∈ layer.valuesOf sectionName, found.IsTable

instance (sources : Sources) : Decidable sources.SectionsAreTables :=
  inferInstanceAs (Decidable (∀ sectionName ∈ ["database", "storage", "engine", "log"],
    ∀ layer ∈ sources.layers, ∀ found ∈ layer.valuesOf sectionName, found.IsTable))

/-- These are the documents that the files and the variables hold. -/
structure AreFound (tree : FileTree) (environment : Environment) (explicit : Option String)
    (sources : Sources) : Prop where
  toml : fileLayer tree environment
    (joinPath environment.configurationDirectory "cairn.toml") .toml = .ok sources.toml.toList
  yaml : fileLayer tree environment
    (joinPath environment.configurationDirectory "cairn.yaml") .yaml = .ok sources.yaml.toList
  json : fileLayer tree environment
    (joinPath environment.configurationDirectory "cairn.json") .json = .ok sources.json.toList
  named : match explicit with
    | none => sources.named = none
    | some path => ∃ format, explicitFormat tree environment path = .ok format ∧
        fileLayer tree environment path format = .ok sources.named.toList
  environment : sources.environment = environment.settings

end Sources

/-- Every setting is the one that the sources give. -/
structure TakenFrom (sources : Sources) (configuration default : Configuration) : Prop where
  database : configuration.database.TakenFrom (sources.value? "database") default.database
  storage : configuration.storage.TakenFrom (sources.value? "storage") sources.kind?
    default.storage
  engine : configuration.engine.TakenFrom (sources.value? "engine") default.engine
  log : configuration.log.TakenFrom (sources.value? "log") default.log

/-! ## The value of the highest layer -/

open Extraction (highest?)

theorem highest?_append (first second : List Document) (sectionName key : String) :
    highest? (first ++ second) sectionName key =
      (highest? second sectionName key).or (highest? first sectionName key) := by
  rw [highest?, List.flatMap_append, List.getLast?_append]
  rfl

theorem highest?_singleton (layer : Document) (sectionName key : String) :
    highest? [layer] sectionName key = layer.setting? sectionName key := by
  rw [highest?, List.flatMap_singleton]
  rfl

theorem highest?_toList (file : Option Document) (sectionName key : String) :
    highest? file.toList sectionName key =
      file.bind fun found => found.setting? sectionName key := by
  rcases file with _ | found
  · rfl
  · exact highest?_singleton found sectionName key

namespace Sources

variable {sources : Sources}

theorem value?_eq (sources : Sources) (sectionName : String) :
    sources.value? sectionName = highest? sources.layers sectionName := by
  funext key
  simp only [value?, layers, highest?_append, highest?_singleton, highest?_toList,
    Option.orElse_eq_orElse, Option.orElse_eq_or]

/-- A kind of store that is no table is that of the highest layer, too. -/
theorem kind?_eq (sources : Sources) :
    sources.kind? = Document.overlaid
      (sources.layers.flatMap fun layer => layer.settingsOf "storage" "kind") none := by
  rw [kind?, value?_eq]
  split
  · rfl
  · rename_i found notTable
    refine (Document.overlaid_of_getLast? ?_).symm
    rintro last isLast ⟨entries, rfl⟩
    exact notTable entries isLast

end Sources

/-! ## Loading -/

theorem ofLayers_eq_ok_iff {default configuration : Configuration} {layers : List Document} :
    ofLayers default layers = .ok configuration ↔
      ofDocument default (Document.joined layers) = .ok configuration ∧
        configuration.validate = .ok () := by
  simp only [ofLayers, except_bind_eq_ok]
  constructor
  · rintro ⟨_, isTaken, _, valid, ⟨⟩⟩
    exact ⟨isTaken, valid⟩
  · rintro ⟨isTaken, valid⟩
    exact ⟨_, isTaken, _, valid, rfl⟩

theorem ofDocument_joined_eq_ok_iff {sources : Sources} {default configuration : Configuration}
    (layers : ∀ layer ∈ sources.layers, layer.IsTable) (sections : sources.SectionsAreTables) :
    ofDocument default (Document.joined sources.layers) = .ok configuration ↔
      configuration.TakenFrom sources default := by
  have tables : ∀ sectionName ∈ ["database", "storage", "engine", "log"],
      Extraction.HaveTables sources.layers sectionName :=
    fun sectionName isSection => ⟨layers, sections sectionName isSection⟩
  simp only [ofDocument, except_bind_eq_ok,
    (tables "database" (by simp)).database_eq_ok_iff,
    (tables "storage" (by simp)).storage_eq_ok_iff, (tables "engine" (by simp)).engine_eq_ok_iff,
    (tables "log" (by simp)).log_eq_ok_iff, ← Sources.value?_eq, ← Sources.kind?_eq]
  constructor
  · rintro ⟨database, isDatabase, storage, isStorage, engine, isEngine, log, isLog, ⟨⟩⟩
    exact ⟨isDatabase, isStorage, isEngine, isLog⟩
  · intro taken
    exact ⟨_, taken.database, _, taken.storage, _, taken.engine, _, taken.log, rfl⟩

theorem isTable_nested {path : List String} (nonempty : path ≠ []) (value : Document) :
    (Document.nested path value).IsTable := by
  cases path with
  | nil => exact absurd rfl nonempty
  | cons name rest => exact ⟨_, rfl⟩

theorem settingPath?_ne_nil {name : String} {path : List String}
    (isPath : Environment.settingPath? name = some path) : path ≠ [] := by
  unfold Environment.settingPath? at isPath
  dsimp only at isPath
  split at isPath
  · split at isPath
    · cases isPath
    · rintro rfl
      rw [Option.some.injEq, List.map_eq_nil_iff] at isPath
      exact pieces_ne_nil _ _ isPath
  · cases isPath

theorem isTable_settings (environment : Environment) : environment.settings.IsTable := by
  unfold Environment.settings
  dsimp only
  generalize environment.bindings.mergeSort _ = sorted
  have start : (Document.table []).IsTable := ⟨_, rfl⟩
  generalize Document.table [] = found at start
  induction sorted generalizing found with
  | nil =>
      exact start
  | cons binding rest inductionHypothesis =>
      obtain ⟨name, value⟩ := binding
      rw [List.foldl_cons]
      refine inductionHypothesis _ ?_
      dsimp only
      rcases isPath : Environment.settingPath? name with _ | path
      · exact start
      · exact (isTable_nested (settingPath?_ne_nil isPath) _).laidOver found

/-- A file gives at most one layer, which is a table. -/
theorem layers_of_fileLayer {tree : FileTree} {environment : Environment} {path : String}
    {format : FileFormat} {found : List Document}
    (read : fileLayer tree environment path format = .ok found) :
    (∃ file : Option Document, found = file.toList) ∧ ∀ layer ∈ found, layer.IsTable := by
  unfold fileLayer at read
  split at read
  · unfold layerOf at read
    split at read
    · rename_i entries _
      cases read
      refine ⟨⟨some (.table entries), rfl⟩, ?_⟩
      rw [List.forall_mem_singleton]
      exact ⟨entries, rfl⟩
    · cases read
  · cases read
    exact ⟨⟨none, rfl⟩, nofun⟩

namespace Sources

variable {tree : FileTree} {environment : Environment} {explicit : Option String}
  {sources : Sources}

theorem AreFound.isTable_of_mem_layers (found : sources.AreFound tree environment explicit) :
    ∀ layer ∈ sources.layers, layer.IsTable := by
  have named : ∀ layer ∈ sources.named.toList, layer.IsTable := by
    have isNamed := found.named
    cases explicit with
    | none =>
        rw [isNamed]
        exact nofun
    | some path =>
        obtain ⟨_, _, read⟩ := isNamed
        exact (layers_of_fileLayer read).2
  unfold layers
  simp only [List.forall_mem_append, List.forall_mem_singleton]
  exact ⟨⟨⟨⟨(layers_of_fileLayer found.toml).2, (layers_of_fileLayer found.yaml).2⟩,
    (layers_of_fileLayer found.json).2⟩, named⟩, found.environment ▸ isTable_settings environment⟩

/-- The file that was named is read in the format of its extension. -/
theorem AreFound.exists_named (found : sources.AreFound tree environment explicit) :
    ∃ named files,
      (explicit.mapM fun path => do
        return (path, ← explicitFormat tree environment path)) = .ok named ∧
        (named.toList.mapM fun file => fileLayer tree environment file.1 file.2) = .ok files ∧
        files.flatten = sources.named.toList := by
  have isNamed := found.named
  cases explicit with
  | none =>
      exact ⟨none, [], rfl, rfl, isNamed ▸ rfl⟩
  | some path =>
      obtain ⟨format, isFormat, read⟩ := isNamed
      refine ⟨some (path, format), [sources.named.toList], ?_, ?_, List.append_nil _⟩
      · rw [Option.mapM_some, isFormat]
        rfl
      · exact list_mapM_eq_ok.2 (.cons read .nil)

/-- The configuration is made of the documents that are found. -/
theorem AreFound.load_eq (found : sources.AreFound tree environment explicit) :
    load tree environment explicit =
      ofLayers (default environment.dataDirectory) sources.layers := by
  obtain ⟨named, files, isNamed, filesRead, sameNamed⟩ := found.exists_named
  have standardRead : ((standardFiles.map fun file =>
      (joinPath environment.configurationDirectory file.1, file.2)).mapM
        fun file => fileLayer tree environment file.1 file.2) =
          .ok [sources.toml.toList, sources.yaml.toList, sources.json.toList] :=
    list_mapM_eq_ok.2 (.cons found.toml (.cons found.yaml (.cons found.json .nil)))
  have sameLayers : ([sources.toml.toList, sources.yaml.toList, sources.json.toList] ++
      files).flatten ++ [environment.settings] = sources.layers := by
    simp [layers, found.environment, sameNamed]
  rw [load, isNamed, ← sameLayers]
  change (List.mapM (fun file => fileLayer tree environment file.1 file.2)
    (_ ++ named.toList) : Except ConfigurationError _) >>= _ = _
  rw [List.mapM_append, standardRead, filesRead]
  rfl

/-- Whenever a configuration is loaded there are documents that it is made of. -/
theorem exists_areFound {configuration : Configuration}
    (loaded : load tree environment explicit = .ok configuration) :
    ∃ sources : Sources, sources.AreFound tree environment explicit := by
  rw [load, except_bind_eq_ok] at loaded
  obtain ⟨named, isNamed, loaded⟩ := loaded
  obtain ⟨files, filesRead, _⟩ := except_bind_eq_ok.1 loaded
  rcases list_mapM_eq_ok.1 filesRead with
    _ | ⟨tomlRead, _ | ⟨yamlRead, _ | ⟨jsonRead, namedRead⟩⟩⟩
  obtain ⟨⟨toml, rfl⟩, _⟩ := layers_of_fileLayer tomlRead
  obtain ⟨⟨yaml, rfl⟩, _⟩ := layers_of_fileLayer yamlRead
  obtain ⟨⟨json, rfl⟩, _⟩ := layers_of_fileLayer jsonRead
  rcases option_mapM_eq_ok.1 isNamed with ⟨rfl, rfl⟩ | ⟨path, file, rfl, isFile, rfl⟩
  · exact ⟨⟨toml, yaml, json, none, environment.settings⟩,
      tomlRead, yamlRead, jsonRead, rfl, rfl⟩
  · obtain ⟨format, isFormat, ⟨⟩⟩ := except_bind_eq_ok.1 isFile
    rcases namedRead with _ | ⟨read, _⟩
    obtain ⟨⟨other, rfl⟩, _⟩ := layers_of_fileLayer read
    exact ⟨⟨toml, yaml, json, other, environment.settings⟩,
      tomlRead, yamlRead, jsonRead, ⟨format, isFormat, read⟩, rfl⟩

end Sources

/-- The configuration directory of the processes below. -/
def directoryNames : List PathName := [Utf8.encode "etc", Utf8.encode "cairn"]

/-- A machine with nothing but some files in that directory. -/
def machineFiles (files : List (String × String)) : FileTree where
  entries := (directoryNames.take 1, .directory) :: (directoryNames, .directory) ::
    files.map fun (name, text) =>
      (directoryNames ++ [Utf8.encode name], .file (ByteArray.mk (Utf8.encode text).toArray))

/-- A process that runs there with some variables. -/
def processWith (given : List (String × String)) : Environment where
  bindings := given ++ [("XDG_CONFIG_HOME", "/etc")]
  accountHome := "/home/alice"
  workingDirectory := directoryNames

/-- Files that write to the same section, and one that is named. -/
def layeredFiles : FileTree :=
  machineFiles
    [("cairn.toml", "[database]\ndriver = \"postgres\"\ndsn = \"postgres://toml/cairn\"\n"),
      ("cairn.json", "\x7b\"database\": \x7b\"dsn\": \"postgres://json/cairn\", " ++
        "\"max_open_connections\": 4\x7d\x7d"),
      ("override.yaml", "engine:\n  operation_timeout_secs: 5\n")]

/-- Variables that write to it, too. -/
def layeredProcess : Environment :=
  processWith
    [("CAIRN_DATABASE__DSN", "postgres://environment/cairn"),
      ("CAIRN_LOG__FILTER", "cairn=debug")]

/-- What they hold. -/
def layeredSources : Sources where
  toml := some (.table [("database", .table
    [("driver", .text "postgres"), ("dsn", .text "postgres://toml/cairn")])])
  yaml := none
  json := some (.table [("database", .table
    [("dsn", .text "postgres://json/cairn"), ("max_open_connections", .integer 4)])])
  named := some (.table [("engine", .table [("operation_timeout_secs", .integer 5)])])
  environment := .table
    [("database", .table [("dsn", .text "postgres://environment/cairn")]),
      ("log", .table [("filter", .text "cairn=debug")])]

/-- What is loaded from them. -/
def layeredConfiguration : Configuration :=
  { default "/home/alice/.local/share/cairn" with
    database := {
      driver := .postgres
      dsn := "postgres://environment/cairn"
      maxOpenConnections := 4
      maxIdleConnections := 2
      maxLifetimeSeconds := 3600 }
    engine := { maxUploadSize := defaultUploadLimit, operationTimeoutSeconds := 5 }
    log := { filter := "cairn=debug" } }

theorem areFound_layeredSources :
    layeredSources.AreFound layeredFiles layeredProcess (some "override.yaml") where
  toml := by decide +kernel
  yaml := by decide +kernel
  json := by decide +kernel
  named := ⟨.yaml, by decide +kernel, by decide +kernel⟩
  environment := by
    rw [Environment.settings, List.mergeSort_of_pairwise (by decide +kernel)]
    decide +kernel

/-- The YAML file writes one kind of store as a table, the JSON file another one. -/
def kindFiles : FileTree :=
  machineFiles
    [("cairn.yaml", "storage:\n  kind:\n    local:\n"),
      ("cairn.json", "\x7b\"storage\": \x7b\"kind\": \x7b\"s3\": null\x7d\x7d\x7d")]

def kindSources : Sources where
  toml := none
  yaml := some (.table [("storage", .table [("kind", .table [("local", .absent)])])])
  json := some (.table [("storage", .table [("kind", .table [("s3", .absent)])])])
  named := none
  environment := .table []

theorem areFound_kindSources : kindSources.AreFound kindFiles (processWith []) none where
  toml := by decide +kernel
  yaml := by decide +kernel
  json := by decide +kernel
  named := rfl
  environment := by decide +kernel

end Configuration

end ContentVault
