import CmdletForge.Proofs.Settings.Keys

/-!
# What the settings of a project come to

Every setting is read from a key of its own. It is what the key holds or, where the key is not set or what it
holds is malformed, a default that follows from other settings. These may have been given themselves, or may
be defaults in turn: `rows` takes each default from the settings as they come out, and the settings that are
loaded agree with every row.
-/

namespace CmdletForge

namespace Config

/-- What a key holds, if it is set and not malformed. -/
def decoded? {α : Type} [Setting α] (config : Config) (key : String) : Option α :=
  (config.value? key).bind fun value => (Setting.ofValue value).toOption

/-- A configuration in which a key is not set. -/
def without (config : Config) (key : String) : Config :=
  ⟨config.entries.filter fun entry => !isKey key entry.1⟩

end Config

namespace ProjectSettings

/-! ## The settings and their defaults -/

/-- A setting: the key that it is read from, and its default as it follows from the settings. -/
structure Row where
  {type : Type}
  [typed : Setting type]
  key : String
  required : Bool := false
  value : ProjectSettings → type
  default : ProjectSettings → type

namespace Row

/-- What is asked of the key of a setting. -/
def settingKey (row : Row) : SettingKey :=
  ⟨row.key, row.required, @SettingKey.objectionOf row.type row.typed⟩

/-- The setting is what its key holds, or else its default. -/
def Settled (row : Row) (config : Config) (settings : ProjectSettings) : Prop :=
  row.value settings = (@Config.decoded? row.type row.typed config row.key).getD (row.default settings)

end Row

/-- The names, switches and profiles of a project. Nothing stands in for a name that is required. -/
def nameRows (title : String) : List Row :=
  [{ key := "module-version", required := true, value := (·.moduleVersion), default _ := "" },
    { key := "help-link-prefix", value := (·.helpLink), default _ := "" },
    { key := "profiles", value := (·.profiles), default _ := [] },
    { key := "skip-model-cmdlets", value := (·.skipModelCmdlets), default _ := true },
    { key := "azure", value := (·.azure), default _ := false },
    { key := "module-name", required := true, value := (·.moduleName), default _ := "" },
    { key := "dll-name", required := true, value := (·.dllName), default _ := "" },
    { key := "namespace", value := (·.space), default := (·.moduleName) },
    { key := "service-name", value := (·.serviceName)
      default settings :=
        if Naming.toPascalCase title = "" then settings.moduleName else Naming.toPascalCase title }]

/-- The folders of a project. -/
def folderRows : List Row :=
  [{ key := "current-folder", value := (·.folders.base), default _ := "." },
    { key := "module-folder", value := (·.folders.module), default := (·.folders.base ++ "/generated") },
    { key := "cmdlet-folder", value := (·.folders.cmdlet), default := (·.folders.module ++ "/cmdlets") },
    { key := "model-cmdlet-folder", value := (·.folders.modelCmdlet)
      default := (·.folders.module ++ "/model-cmdlets") },
    { key := "custom-cmdlet-folder", value := (·.folders.custom), default := (·.folders.base ++ "/custom") },
    { key := "internal-cmdlet-folder", value := (·.folders.internal)
      default := (·.folders.base ++ "/internal") },
    { key := "test-folder", value := (·.folders.test), default := (·.folders.base ++ "/test") },
    { key := "runtime-folder", value := (·.folders.runtime), default := (·.folders.module ++ "/runtime") },
    { key := "api-folder", value := (·.folders.api), default := (·.folders.module ++ "/api") },
    { key := "bin-folder", value := (·.folders.bin), default := (·.folders.base ++ "/bin") },
    { key := "obj-folder", value := (·.folders.obj), default := (·.folders.base ++ "/obj") },
    { key := "exports-folder", value := (·.folders.exports), default := (·.folders.base ++ "/exports") },
    { key := "docs-folder", value := (·.folders.docs), default := (·.folders.base ++ "/docs") },
    { key := "dependency-module-folder", value := (·.folders.dependencyModule)
      default := (·.folders.module ++ "/modules") },
    { key := "examples-folder", value := (·.folders.examples), default := (·.folders.base ++ "/examples") },
    { key := "resources-folder", value := (·.folders.resources)
      default := (·.folders.base ++ "/resources") }]

/-- The path of a file that is named after the module. -/
def moduleFile (folder : Folders → String) (ending : String) (settings : ProjectSettings) : String :=
  folder settings.folders ++ "/" ++ settings.moduleName ++ ending

/-- The files of a project. -/
def fileRows : List Row :=
  [{ key := "csproj", value := (·.files.csproj), default := moduleFile (·.base) ".csproj" },
    { key := "dll", value := (·.files.dll)
      default settings := settings.folders.bin ++ "/" ++ settings.dllName },
    { key := "psd1", value := (·.files.psd1), default := moduleFile (·.base) ".psd1" },
    { key := "psm1", value := (·.files.psm1), default := moduleFile (·.base) ".psm1" },
    { key := "psm1-custom", value := (·.files.psm1Custom), default := moduleFile (·.custom) ".custom.psm1" },
    { key := "psm1-internal", value := (·.files.psm1Internal)
      default := moduleFile (·.internal) ".internal.psm1" },
    { key := "format-ps1xml", value := (·.files.formatPs1xml)
      default := moduleFile (·.base) ".format.ps1xml" },
    { key := "nuspec", value := (·.files.nuspec), default := moduleFile (·.base) ".nuspec" }]

/-- All settings that have a key, in the order in which they are read. -/
def rows (title : String) : List Row :=
  nameRows title ++ folderRows ++ fileRows ++
    [{ key := "metadata", value := (·.metadata), default _ := {} }]

/-- The files of the repository lie where they always do. -/
structure Repository (files : ProjectFiles) (base : String) : Prop where
  gitIgnore : files.gitIgnore = base ++ "/.gitignore"
  gitAttributes : files.gitAttributes = base ++ "/.gitattributes"
  readme : files.readme = base ++ "/readme.md"

/-- What loading the settings comes to, for an API with this title. -/
structure Loads (config : Config) (title : String) (before : Report) (settings : ProjectSettings)
    (after : Report) : Prop where
  settled : ∀ row ∈ rows title, row.Settled config settings
  repository : Repository settings.files settings.folders.base
  accounts : settings.accountsVersionMinimum = leastAccountsVersion
  /-- One failure for each key that is at fault, unless it was recorded before, and nothing else. -/
  recorded : after.checkpoint.failures = before.checkpoint.failures ++
    ((rows title).filterMap fun row => row.settingKey.fault? config).filter
      (· ∉ before.checkpoint.failures)
  /-- No key is asked for twice. -/
  distinct : ((rows title).map (·.key)).Nodup

/-! ## Values of readings -/

section Values

variable {α β : Type} {config : Config} {post : β → Prop}

/-- Whatever was reported before, the reading gives a value of which this holds. -/
def Gives (reading : Reporting α) (post : α → Prop) : Prop :=
  ∀ report : Report, post (reading.run report).1

theorem Gives.pure {x : β} (holds : post x) : Gives (Pure.pure x : Reporting β) post := fun _ => holds

theorem Gives.bind {reading : Reporting α} {next : α → Reporting β} {middle : α → Prop}
    (first : Gives reading middle) (rest : ∀ x, middle x → Gives (next x) post) :
    Gives (reading >>= next) post := by
  intro report
  have split : ((reading >>= next).run report).1 =
      ((next (reading.run report).1).run (reading.run report).2).1 := rfl
  rw [split]
  exact rest _ (first report) _

theorem gives_note (line : LogLine) : Gives (note line) fun _ => True := fun _ => trivial

theorem gives_reported (key : String) (fallback : α) (answer : Except Failure α) :
    Gives (Config.reported key fallback answer) (· = answer.toOption.getD fallback) := by
  intro report
  cases answer <;> rfl

variable [Setting α]

theorem toOption_typed (key : String) (value : Value) :
    (Config.typed key value : Except Failure α).toOption = (Setting.ofValue value).toOption := by
  unfold Config.typed
  cases (Setting.ofValue value : Except Mismatch α) <;> rfl

theorem gives_required (key : String) :
    Gives (config.required key : Reporting α) (· = (config.decoded? key).getD Setting.neutral) := by
  have read : (config.get key : Except Failure α).toOption = config.decoded? key := by
    unfold Config.get Config.decoded?
    cases config.value? key with
    | none => rfl
    | some value => exact toOption_typed key value
  rw [← read]
  exact gives_reported _ _ _

theorem gives_valueOr (key : String) (default : α) :
    Gives (config.valueOr key default) (· = (config.decoded? key).getD default) := by
  have read : (config.getOr key default).toOption.getD default = (config.decoded? key).getD default := by
    unfold Config.getOr Config.decoded?
    cases config.value? key with
    | none => rfl
    | some value => rw [Option.bind_some, ← toOption_typed key value]
  rw [← read]
  exact gives_reported _ _ _

/-- A reading that begins with a key. -/
theorem Gives.required {key : String} {next : α → Reporting β}
    (rest : Gives (next ((config.decoded? key).getD Setting.neutral)) post) :
    Gives (config.required key >>= next) post := by
  refine (gives_required key).bind ?_
  rintro _ rfl
  exact rest

theorem Gives.valueOr {key : String} {default : α} {next : α → Reporting β}
    (rest : Gives (next ((config.decoded? key).getD default)) post) :
    Gives (config.valueOr key default >>= next) post := by
  refine (gives_valueOr key default).bind ?_
  rintro _ rfl
  exact rest

end Values

variable {config : Config}

/-- The folders are settled, whatever else is. -/
theorem gives_loadFolders : Gives (loadFolders config) fun folders =>
    ∀ settings : ProjectSettings, settings.folders = folders →
      ∀ row ∈ folderRows, row.Settled config settings := by
  iterate 16 refine .valueOr ?_
  refine .pure ?_
  rintro ⟨⟩ rfl
  iterate 16 refine List.forall_mem_cons.2 ⟨rfl, ?_⟩
  exact List.forall_mem_nil _

/-- The files are settled where the folders and the names are those that they were derived from. -/
theorem gives_loadFiles (folders : Folders) (moduleName dllName : String) :
    Gives (loadFiles config folders moduleName dllName) fun files =>
      Repository files folders.base ∧
        ∀ settings : ProjectSettings, settings.files = files → settings.folders = folders →
          settings.moduleName = moduleName → settings.dllName = dllName →
            ∀ row ∈ fileRows, row.Settled config settings := by
  iterate 8 refine .valueOr ?_
  refine .pure ⟨⟨rfl, rfl, rfl⟩, ?_⟩
  rintro ⟨⟩ rfl same name library
  dsimp only at same name library
  subst same name library
  iterate 8 refine List.forall_mem_cons.2 ⟨rfl, ?_⟩
  exact List.forall_mem_nil _

theorem pascalOr_eq (fallback identifier : String) : Naming.pascalOr fallback identifier =
    if Naming.toPascalCase identifier = "" then fallback else Naming.toPascalCase identifier := by
  unfold Naming.pascalOr
  simp

/-- All settings that have a key are settled. -/
theorem gives_load (title : String) : Gives (load config title) fun settings =>
    (∀ row ∈ rows title, row.Settled config settings) ∧
      Repository settings.files settings.folders.base ∧
      settings.accountsVersionMinimum = leastAccountsVersion := by
  refine .required ?_
  iterate 4 refine .valueOr ?_
  iterate 2 refine .required ?_
  iterate 2 refine .valueOr ?_
  refine gives_loadFolders.bind fun folders inFolders => ?_
  refine (gives_loadFiles _ _ _).bind fun files ⟨repository, inFiles⟩ => ?_
  refine .valueOr ?_
  refine (gives_note _).bind fun _ _ => .pure ⟨?_, repository, rfl⟩
  simp only [rows, List.forall_mem_append]
  refine ⟨⟨⟨?_, inFolders _ rfl⟩, inFiles _ rfl rfl rfl rfl⟩, ?_⟩
  · rw [pascalOr_eq]
    iterate 9 refine List.forall_mem_cons.2 ⟨rfl, ?_⟩
    exact List.forall_mem_nil _
  · exact List.forall_mem_cons.2 ⟨rfl, List.forall_mem_nil _⟩

/-! ## Faults of keys -/

theorem settingKeys_eq (title : String) : (rows title).map Row.settingKey = keys := rfl

/-- No key is asked for twice. -/
theorem nodup_keys (title : String) : ((rows title).map (·.key)).Nodup := by
  have same : (rows title).map (·.key) = (rows "").map (·.key) := rfl
  rw [same]
  decide

/-- A fault names the key that it is at. -/
theorem key_of_fault? {key : SettingKey} {failure : Failure} (fault : key.fault? config = some failure) :
    failure = .missingConfiguration key.name ∨ ∃ reason, failure = .invalidConfiguration key.name reason := by
  unfold SettingKey.fault? at fault
  split at fault
  · split at fault
    · exact .inl (Option.some.inj fault).symm
    · contradiction
  · obtain ⟨m, -, rfl⟩ := Option.map_eq_some_iff.1 fault
    exact .inr ⟨_, rfl⟩

/-- The faults of different keys are different. -/
theorem nodup_faults (config : Config) {keys : List SettingKey} (distinct : (keys.map (·.name)).Nodup) :
    (keys.filterMap (·.fault? config)).Nodup := by
  have apart : keys.Pairwise fun key other => key.name ≠ other.name := List.pairwise_map.1 distinct
  refine apart.filterMap _ fun key other differ failure fault failure' fault' same => differ ?_
  subst same
  rcases key_of_fault? fault with rfl | ⟨_, rfl⟩ <;>
    rcases key_of_fault? fault' with h | ⟨_, h⟩ <;> simp_all

/-! ## Keys set to null -/

theorem isKey_iff {key : String} {value : Value} :
    Config.isKey key value = true ↔ value = .str key := by
  cases value <;> simp [Config.isKey]

theorem stored?_without (config : Config) (key other : String) : (config.without key).stored? other =
    if other = key then none else config.stored? other := by
  have stored : (config.without key).stored? other = (config.entries.find? fun entry =>
      !Config.isKey key entry.1 && Config.isKey other entry.1).map Prod.snd := by
    simp [Config.stored?, Config.without, List.find?_filter]
  rw [stored]
  split
  next same => simp [same]
  next differ =>
    have test : ∀ entry : Value × Value, (!Config.isKey key entry.1 && Config.isKey other entry.1) =
        Config.isKey other entry.1 := by
      intro entry
      cases found : Config.isKey other entry.1 with
      | false => simp
      | true => simp [isKey_iff.1 found, Config.isKey, differ]
    simp only [test, Config.stored?]

/-- A key that is set to null might as well not be set. -/
theorem value?_without {key : String} {value : Value} (stored : config.stored? key = some value)
    (null : value.isNull = true) : (config.without key).value? = config.value? := by
  funext other
  rw [Config.value?, Config.value?, stored?_without]
  split
  next same =>
    simp [same, stored, Option.filter, null]
  next => rfl

/-- Settings depend on what keys are set to, null apart. -/
theorem load_congr {config' : Config} (same : config.value? = config'.value?) (title : String) :
    load config title = load config' title := by
  have required : ∀ {α : Type} [Setting α] (key : String),
      (config.required key : Reporting α) = config'.required key := by
    intro α _ key
    unfold Config.required Config.get
    rw [same]
  have valueOr : ∀ {α : Type} [Setting α] (key : String) (default : α),
      config.valueOr key default = config'.valueOr key default := by
    intro α _ key default
    unfold Config.valueOr Config.getOr
    rw [same]
  unfold load loadFolders loadFiles
  simp only [required, valueOr]

/-! ## Loading -/

/-- **The settings of a project.** Every setting is what its key holds or else its default, each key at fault
is recorded once, in the order of reading, and a key that is set to null is as good as absent. -/
theorem load_settled (config : Config) (title : String) (before : Report) :
    Loads config title before ((load config title).run before).1 ((load config title).run before).2 ∧
      ∀ key value, config.stored? key = some value → value.isNull = true →
        load config title = load (config.without key) title := by
  obtain ⟨settled, repository, accounts⟩ := gives_load title before
  refine ⟨⟨settled, repository, accounts, ?_, nodup_keys title⟩, ?_⟩
  · have faults : (rows title).filterMap (fun row => row.settingKey.fault? config) =
        keys.filterMap (·.fault? config) := by
      rw [← settingKeys_eq title, List.filterMap_map]
      rfl
    have distinct : (keys.map (·.name)).Nodup := nodup_keys title
    rw [faults, reads_load title before]
    exact Checkpoint.failures_recordAll_of_nodup _ (nodup_faults config distinct)
  · intro key value stored null
    exact (load_congr (value?_without stored null) title).symm

/-- A configuration without the names that are required, with two malformed values and a null. -/
def kennel : Config :=
  ⟨[(.str "dll-name", .str "Kennel"), (.str "azure", .str "yes"), (.str "namespace", .null),
    (.str "current-folder", .str "out"), (.str "bin-folder", .int 5)]⟩

theorem kennel_settled :
    (kennel.stored? "namespace" = some .null ∧ Value.isNull .null = true) ∧
      ∃ settings after, (load kennel "").run {} = (settings, after) ∧ Loads kennel "" {} settings after ∧
        load kennel "" = load (kennel.without "namespace") "" ∧
        settings.files.dll = "out/bin/Kennel" ∧ settings.files.psm1 = "out/.psm1" ∧
        after.checkpoint.failures = [.missingConfiguration "module-version",
          .invalidConfiguration "azure" "invalid type: string \"yes\", expected a boolean",
          .missingConfiguration "module-name",
          .invalidConfiguration "bin-folder" "invalid type: integer `5`, expected a string"] := by
  obtain ⟨loads, absent⟩ := load_settled kennel "" {}
  exact ⟨⟨rfl, rfl⟩, _, _, rfl, loads, absent _ _ rfl rfl, by decide, by decide, by decide +kernel⟩

end ProjectSettings
end CmdletForge
