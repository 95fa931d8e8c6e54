import ContentVault.CommandLine.Run
import ContentVault.Proofs.Blob.Bucket

/-!
# Settings that were validated

What can be told of a configuration that is accepted, and what is left to fail when its
stores are opened.

* a configuration is accepted exactly if its limits are not zero, its connection string is
  not blank, and it names an absolute root or what a bucket needs;
* then SQLite takes its connection string, while PostgreSQL may not;
* a prefix of keys is not looked at before the bucket is opened.
-/

namespace ContentVault

/-! ## Connection strings -/

/-- A connection string that is an address of PostgreSQL. -/
def Driver.IsPostgresAddress (dsn : String) : Prop :=
  (trim dsn).startsWith "postgres://" = true ∨ (trim dsn).startsWith "postgresql://" = true

theorem Driver.exists_address_sqlite_iff {dsn : String} :
    (∃ url, Driver.sqlite.address dsn = .ok url) ↔ trim dsn ≠ "" := by
  unfold Driver.address
  dsimp only
  by_cases isAddress : (trim dsn).startsWith "sqlite:" = true
  · have notEmpty : trim dsn ≠ "" := by
      intro empty
      rw [empty] at isAddress
      exact absurd isAddress (by decide +kernel)
    rw [if_pos isAddress]
    exact ⟨fun _ => notEmpty, fun _ => ⟨_, rfl⟩⟩
  · rw [if_neg isAddress]
    by_cases empty : trim dsn = ""
    · rw [if_pos empty]
      constructor
      · rintro ⟨_, refused⟩
        cases refused
      · exact fun notEmpty => absurd empty notEmpty
    · rw [if_neg empty]
      exact ⟨fun _ => empty, fun _ => ⟨_, rfl⟩⟩

/-- PostgreSQL takes its own addresses and refuses every other connection string. -/
theorem Driver.address_postgres (dsn : String) :
    (Driver.IsPostgresAddress dsn ∧ Driver.postgres.address dsn = .ok (trim dsn)) ∨
      (¬ Driver.IsPostgresAddress dsn ∧
        Driver.postgres.address dsn = .error (.invalidDsn "postgres")) := by
  unfold Driver.address Driver.IsPostgresAddress
  dsimp only
  split
  · rename_i isAddress
    exact Or.inl ⟨(Bool.or_eq_true _ _).mp isAddress, rfl⟩
  · rename_i isOther
    exact Or.inr ⟨fun isAddress => isOther ((Bool.or_eq_true _ _).mpr isAddress), rfl⟩

/-! ## Validation -/

namespace Configuration

variable {configuration : Configuration}

/-- What is asked of the settings of the blobs' store. -/
structure StorageValid (storage : StorageSettings) : Prop where
  root : storage.kind = .directory → isAbsolutePath (Utf8.encode storage.root) = true
  credentials : storage.kind = .bucket →
    isPresent storage.bucket = true ∧ isPresent storage.keyId = true ∧
      isPresent storage.keySecret = true

theorem storageObjection?_eq_none_iff {storage : StorageSettings} :
    storageObjection? storage = none ↔ StorageValid storage := by
  unfold storageObjection?
  rcases kind : storage.kind with _ | _
  · have onlyRoot : StorageValid storage ↔
        isAbsolutePath (Utf8.encode storage.root) = true := by
      refine ⟨fun valid => valid.root kind, fun isAbsolute => ⟨fun _ => isAbsolute, ?_⟩⟩
      rw [kind]
      rintro ⟨⟩
    rw [onlyRoot]
    simp
  · have onlyCredentials : StorageValid storage ↔
        isPresent storage.bucket = true ∧ isPresent storage.keyId = true ∧
          isPresent storage.keySecret = true := by
      refine ⟨fun valid => valid.credentials kind, fun present => ⟨?_, fun _ => present⟩⟩
      rw [kind]
      rintro ⟨⟩
    rw [onlyCredentials]
    simp [ite_eq_iff]

/-- A configuration is accepted exactly if none of its limits is zero, its connection string
is not blank and its blobs' store has what it needs. -/
theorem validate_eq_ok_iff :
    configuration.validate = .ok () ↔
      configuration.engine.maxUploadSize ≠ 0 ∧
        configuration.engine.operationTimeoutSeconds ≠ 0 ∧
          trim configuration.database.dsn ≠ "" ∧
            configuration.database.maxOpenConnections ≠ 0 ∧
              StorageValid configuration.storage := by
  have noObjection : configuration.validate = .ok () ↔ configuration.objection? = none := by
    unfold validate
    rcases configuration.objection? with _ | reason
    · simp
    · simp
  rw [noObjection, ← storageObjection?_eq_none_iff]
  unfold objection?
  simp only [ite_eq_iff, reduceCtorEq, and_false, false_or]

/-- Nothing that can be seen from a configuration alone keeps its stores from being opened:
the driver takes the connection string, a directory has an absolute root, and for a bucket
its name, both keys and a prefix that is accepted are there. -/
structure NamesStores (configuration : Configuration) : Prop where
  database : ∃ url, configuration.database.driver.address configuration.database.dsn = .ok url
  storage : StorageValid configuration.storage
  keyPrefix : configuration.storage.kind = .bucket →
    ∃ keyPrefix, BucketStore.normalPrefix? configuration.storage.keyPrefix = .ok keyPrefix

/-- The prefix of keys leads somewhere and has a normal form, or it leads nowhere. -/
def PrefixStaysInside (storage : StorageSettings) : Prop :=
  ∀ text ∈ storage.keyPrefix, (∃ character ∈ text.toList, character ≠ '/') →
    normalPath? (Utf8.encode text) ≠ none

/-- What validation does not look at: an accepted configuration names usable stores unless
PostgreSQL has no address or the prefix of a bucket's keys leads out of the bucket. -/
theorem namesStores_iff (accepted : configuration.validate = .ok ()) :
    configuration.NamesStores ↔
      (configuration.database.driver = .postgres →
          Driver.IsPostgresAddress configuration.database.dsn) ∧
        (configuration.storage.kind = .bucket → PrefixStaysInside configuration.storage) := by
  obtain ⟨_, _, notBlank, _, storage⟩ := validate_eq_ok_iff.1 accepted
  have database : (∃ url,
      configuration.database.driver.address configuration.database.dsn = .ok url) ↔
        (configuration.database.driver = .postgres →
          Driver.IsPostgresAddress configuration.database.dsn) := by
    rcases configuration.database.driver with _ | _
    · exact ⟨fun _ isPostgres => (nomatch isPostgres),
        fun _ => Driver.exists_address_sqlite_iff.2 notBlank⟩
    · rcases Driver.address_postgres configuration.database.dsn with
        ⟨isAddress, taken⟩ | ⟨isOther, refused⟩
      · exact ⟨fun _ _ => isAddress, fun _ => ⟨_, taken⟩⟩
      · rw [refused]
        exact ⟨fun ⟨_, isTaken⟩ => (nomatch isTaken),
          fun claimed => absurd (claimed rfl) isOther⟩
  have keyPrefix : (∃ keyPrefix,
      BucketStore.normalPrefix? configuration.storage.keyPrefix = .ok keyPrefix) ↔
        PrefixStaysInside configuration.storage :=
    BucketStore.exists_normalPrefix_iff
  rw [← database, ← keyPrefix]
  exact ⟨fun names => ⟨names.database, names.keyPrefix⟩,
    fun ⟨address, stays⟩ => ⟨address, storage, stays⟩⟩

end Configuration

/-! ## Opening the stores -/

namespace CommandLine

variable {configuration : Configuration}

theorem bind_apply {α β : Type} {first : CommandAction α} {next : α → CommandAction β}
    {machine : Machine} :
    (first >>= next) machine =
      match first machine with
      | (.ok value, between) => next value between
      | (.error failure, between) => (.error failure, between) := by
  have unfolded : (first >>= next) machine =
      ExceptT.bindCont (fun value => next value) (first machine).1 (first machine).2 :=
    rfl
  rw [unfolded]
  rcases first machine with ⟨failure | value, between⟩ <;> rfl

/-- The first error ends a command. -/
theorem bind_fst_of_error {α β : Type} {first : CommandAction α} {next : α → CommandAction β}
    {machine : Machine} {failure : CommandError} (failed : (first machine).1 = .error failure) :
    ((first >>= next) machine).1 = .error failure := by
  rw [bind_apply]
  rcases outcome : first machine with ⟨reason | value, between⟩
  · rw [outcome] at failed
    cases failed
    rfl
  · rw [outcome] at failed
    cases failed

/-- A connection string that PostgreSQL refuses is noticed when the catalog is opened. -/
theorem openCatalog_of_refused {database : DatabaseSettings}
    (isPostgres : database.driver = .postgres)
    (isOther : ¬ Driver.IsPostgresAddress database.dsn) (machine : Machine) :
    (openCatalog database machine).1 = .error (.catalogOpening (.invalidDsn "postgres")) := by
  have refused : Driver.postgres.address database.dsn = .error (.invalidDsn "postgres") := by
    rcases Driver.address_postgres database.dsn with ⟨isAddress, _⟩ | ⟨_, refused⟩
    · exact absurd isAddress isOther
    · exact refused
  have prepared : prepareDirectory database = pure () := by
    rw [prepareDirectory, if_neg]
    rw [isPostgres]
    rintro ⟨⟨⟩, _⟩
  rw [openCatalog, prepared, pure_bind, isPostgres]
  simp only [onFiles, Connection.establish, refused]
  rfl

/-- A prefix that is refused is noticed when the bucket is opened. -/
theorem openBlobs_of_refused {storage : StorageSettings} (isBucket : storage.kind = .bucket)
    (leaves : ¬ Configuration.PrefixStaysInside storage) (machine : Machine) :
    ∃ failure, (openBlobs storage machine).1 = .error (.blobOpening failure) := by
  have refused : ¬ ∃ keyPrefix, BucketStore.normalPrefix? storage.keyPrefix = .ok keyPrefix :=
    fun accepted => leaves (BucketStore.exists_normalPrefix_iff.1 accepted)
  rw [openBlobs, isBucket]
  dsimp only
  unfold openBucket
  rcases normal : BucketStore.normalPrefix? storage.keyPrefix with failure | keyPrefix
  · exact ⟨failure, rfl⟩
  · exact absurd ⟨keyPrefix, normal⟩ refused

theorem openStores_of_catalog_error {failure : CommandError} {machine : Machine}
    (failed : (openCatalog configuration.database machine).1 = .error failure) :
    (openStores configuration machine).1 = .error failure :=
  bind_fst_of_error failed

/-- No stores are opened where the blobs' store cannot be. -/
theorem openStores_of_blobs_error {machine : Machine}
    (failed : ∀ between, ∃ failure,
      (openBlobs configuration.storage between).1 = .error failure) :
    ∃ failure, (openStores configuration machine).1 = .error failure := by
  rcases opened : openCatalog configuration.database machine with ⟨failure | connection, between⟩
  · exact ⟨failure, openStores_of_catalog_error (congrArg Prod.fst opened)⟩
  · obtain ⟨failure, refused⟩ := failed between
    refine ⟨failure, ?_⟩
    rw [openStores, bind_apply, opened]
    exact bind_fst_of_error refused

end CommandLine

namespace Configuration

variable {configuration : Configuration}

/-- With a configuration that does not name usable stores no command is carried out. -/
theorem run_fails_of_not_namesStores (accepted : configuration.validate = .ok ())
    (unusable : ¬ configuration.NamesStores) (invocation : Invocation) (machine : Machine) :
    ∃ failure, (invocation.run configuration machine).1 = .error failure := by
  have notOpened : ∃ failure,
      (CommandLine.openStores configuration machine).1 = .error failure := by
    rw [namesStores_iff accepted, Classical.not_and_iff_not_or_not, Classical.not_imp,
      Classical.not_imp] at unusable
    rcases unusable with ⟨isPostgres, isOther⟩ | ⟨isBucket, leaves⟩
    · exact ⟨_, CommandLine.openStores_of_catalog_error
        (CommandLine.openCatalog_of_refused isPostgres isOther machine)⟩
    · refine CommandLine.openStores_of_blobs_error fun between => ?_
      obtain ⟨failure, refused⟩ := CommandLine.openBlobs_of_refused isBucket leaves between
      exact ⟨_, refused⟩
  obtain ⟨failure, failed⟩ := notOpened
  exact ⟨failure, CommandLine.bind_fst_of_error failed⟩

/-- What an accepted configuration promises: SQLite takes its connection string, the root of a
directory is absolute, and the name and both keys of a bucket are there. The stores can be used
exactly if, moreover, PostgreSQL has an address and the prefix of a bucket's keys stays inside;
if not, every command fails when it opens them. -/
theorem validated_configuration_names_stores (configuration : Configuration)
    (accepted : configuration.validate = .ok ()) :
    (configuration.database.driver = .sqlite →
        ∃ url, Driver.sqlite.address configuration.database.dsn = .ok url) ∧
      (configuration.storage.kind = .directory →
        isAbsolutePath (Utf8.encode configuration.storage.root) = true) ∧
      (configuration.storage.kind = .bucket →
        isPresent configuration.storage.bucket = true ∧
          isPresent configuration.storage.keyId = true ∧
            isPresent configuration.storage.keySecret = true) ∧
      (configuration.NamesStores ↔
        (configuration.database.driver = .postgres →
            Driver.IsPostgresAddress configuration.database.dsn) ∧
          (configuration.storage.kind = .bucket → PrefixStaysInside configuration.storage)) ∧
      (¬ configuration.NamesStores → ∀ (invocation : Invocation) (machine : Machine),
        ∃ failure, (invocation.run configuration machine).1 = .error failure) := by
  obtain ⟨_, _, notBlank, _, storage⟩ := validate_eq_ok_iff.1 accepted
  exact ⟨fun _ => Driver.exists_address_sqlite_iff.2 notBlank, storage.root,
    storage.credentials, namesStores_iff accepted, run_fails_of_not_namesStores accepted⟩

/-- The settings of a bucket without those of anything else. -/
def bucketSettings (keyPrefix : Option String) : StorageSettings where
  kind := .bucket
  root := ""
  bucket := some "vault"
  region := "us-east-1"
  endpoint := none
  keyId := some "k"
  keySecret := some "s"
  keyPrefix
  createBucket := true

/-- A bucket with a prefix that goes up and comes back is accepted and names usable stores. -/
theorem bucket_with_prefix_names_stores :
    ({ default "/data" with storage := bucketSettings (some "/team/../blobs") }).validate =
        .ok () ∧
      ({ default "/data" with
        storage := bucketSettings (some "/team/../blobs") } : Configuration).NamesStores := by
  have accepted : ({ default "/data" with
      storage := bucketSettings (some "/team/../blobs") } : Configuration).validate = .ok () := by
    decide +kernel
  have stays : PrefixStaysInside (bucketSettings (some "/team/../blobs")) := by
    rintro text ⟨⟩ _
    decide +kernel
  refine ⟨accepted, ?_⟩
  refine (validated_configuration_names_stores _ accepted).2.2.2.1.2 ⟨?_, fun _ => stays⟩
  rintro ⟨⟩

/-- Configurations are accepted that do not name usable stores: one with PostgreSQL and the
path of a file, and one with a prefix of keys that leads out of the bucket. -/
theorem accepted_configurations_without_stores :
    (∃ configuration : Configuration, configuration.validate = .ok () ∧
        configuration.database.driver = .postgres ∧
          configuration.database.driver.address configuration.database.dsn =
            .error (.invalidDsn "postgres")) ∧
      ∃ configuration : Configuration, configuration.validate = .ok () ∧
        configuration.storage.kind = .bucket ∧
          ¬ ∃ keyPrefix,
            BucketStore.normalPrefix? configuration.storage.keyPrefix = .ok keyPrefix := by
  constructor
  · refine ⟨{ default "/data" with
      database := { (default "/data").database with driver := .postgres } }, ?_, rfl, ?_⟩
    · decide +kernel
    · decide +kernel
  · refine ⟨{ default "/data" with storage := bucketSettings (some "../blobs") }, ?_, rfl, ?_⟩
    · decide +kernel
    · rintro ⟨keyPrefix, taken⟩
      have refused : BucketStore.normalPrefix? (some "../blobs") =
          .error (.ofBadPath (Utf8.encode "../blobs")) := by
        decide +kernel
      exact nomatch refused.symm.trans taken

end Configuration

end ContentVault
