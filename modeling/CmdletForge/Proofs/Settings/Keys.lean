import CmdletForge.Proofs.Generation.Checkpoint
import CmdletForge.Settings.Project

/-!
# The keys of a project's settings

The keys that are read for a project, in order, with what is asked of their values. Reading goes on
after a fault, so that what a configuration gets wrong is recorded as a whole: `Reads` says of a
reading that it records the faults of these keys and nothing else.
-/

namespace CmdletForge

/-- A key of a configuration: whether it must be set, and what is wrong with a value of it. -/
structure SettingKey where
  name : String
  required : Bool
  objection? : Value → Option Mismatch

namespace SettingKey

/-- What is wrong with a value that should be of a type. -/
def objectionOf (α : Type) [Setting α] (value : Value) : Option Mismatch :=
  match (Setting.ofValue value : Except Mismatch α) with
  | .ok _ => none
  | .error m => some m

/-- A key that must be set to a value of a type. -/
def needed (α : Type) [Setting α] (name : String) : SettingKey := ⟨name, true, objectionOf α⟩

/-- A key that may be set to a value of a type. -/
def optional (α : Type) [Setting α] (name : String) : SettingKey := ⟨name, false, objectionOf α⟩

/-- The fault of a configuration at a key: a value that is needed is absent, or one that is there is
malformed. -/
def fault? (key : SettingKey) (config : Config) : Option Failure :=
  match config.value? key.name with
  | none => if key.required then some (.missingConfiguration key.name) else none
  | some value =>
    (key.objection? value).map fun m => .invalidConfiguration key.name (m.message Yaml.wording)

end SettingKey

/-- The keys of the folders. -/
def ProjectSettings.folderKeys : List SettingKey :=
  ["current-folder", "module-folder", "cmdlet-folder", "model-cmdlet-folder", "custom-cmdlet-folder",
    "internal-cmdlet-folder", "test-folder", "runtime-folder", "api-folder", "bin-folder",
    "obj-folder", "exports-folder", "docs-folder", "dependency-module-folder", "examples-folder",
    "resources-folder"].map (.optional String)

/-- The keys of the files. -/
def ProjectSettings.fileKeys : List SettingKey :=
  ["csproj", "dll", "psd1", "psm1", "psm1-custom", "psm1-internal", "format-ps1xml",
    "nuspec"].map (.optional String)

/-- The keys of a project, in the order in which they are read. -/
def ProjectSettings.keys : List SettingKey :=
  [.needed String "module-version", .optional String "help-link-prefix",
    .optional (List String) "profiles", .optional Bool "skip-model-cmdlets", .optional Bool "azure",
    .needed String "module-name", .needed String "dll-name", .optional String "namespace",
    .optional String "service-name"] ++
  folderKeys ++ fileKeys ++ [.optional Metadata "metadata"]

/-! ## Readings -/

section Readings

variable {α β : Type} {config : Config} {keys more : List SettingKey}

/-- The reading records the faults of the keys, in order, and nothing else. -/
def Reads (config : Config) (keys : List SettingKey) (reading : Reporting α) : Prop :=
  ∀ report : Report, (reading.run report).2.checkpoint =
    report.checkpoint.recordAll (keys.filterMap (·.fault? config))

theorem Reads.pure (x : α) : Reads config [] (Pure.pure x : Reporting α) := fun _ => rfl

theorem Reads.note (line : LogLine) : Reads config [] (CmdletForge.note line) := fun _ => rfl

theorem Reads.bind {reading : Reporting α} {next : α → Reporting β} (first : Reads config keys reading)
    (rest : ∀ x, Reads config more (next x)) : Reads config (keys ++ more) (reading >>= next) := by
  intro report
  have split : ((reading >>= next).run report).2 =
      ((next (reading.run report).1).run (reading.run report).2).2 := rfl
  rw [split, rest, first, List.filterMap_append, Checkpoint.recordAll_append]

/-- The failure that an answer is. -/
def failureOf : Except Failure α → Option Failure
  | .ok _ => none
  | .error failure => some failure

theorem reads_reported (name : String) (fallback : α) {answer : Except Failure α} {key : SettingKey}
    (same : key.fault? config = failureOf answer) :
    Reads config [key] (Config.reported name fallback answer) := by
  intro report
  simp only [List.filterMap_cons, List.filterMap_nil, same]
  cases answer <;> rfl

variable [Setting α]

theorem failureOf_typed (name : String) (value : Value) :
    failureOf (Config.typed name value : Except Failure α) =
      (SettingKey.objectionOf α value).map fun m =>
        .invalidConfiguration name (m.message Yaml.wording) := by
  unfold Config.typed SettingKey.objectionOf
  cases read : (Setting.ofValue value : Except Mismatch α) <;> rfl

theorem reads_required (name : String) :
    Reads config [.needed α name] (config.required name : Reporting α) := by
  refine reads_reported name _ ?_
  unfold SettingKey.fault? Config.get
  simp only [SettingKey.needed]
  cases config.value? name with
  | none => rfl
  | some value => exact (failureOf_typed name value).symm

theorem reads_valueOr (name : String) (default : α) :
    Reads config [.optional α name] (config.valueOr name default) := by
  refine reads_reported name _ ?_
  unfold SettingKey.fault? Config.getOr
  simp only [SettingKey.optional]
  cases config.value? name with
  | none => rfl
  | some value => exact (failureOf_typed name value).symm

/-- A reading that begins with a key. -/
theorem Reads.required {name : String} {next : α → Reporting β}
    (rest : ∀ x, Reads config more (next x)) :
    Reads config (.needed α name :: more) (config.required name >>= next) :=
  (reads_required name).bind rest

theorem Reads.valueOr {name : String} {default : α} {next : α → Reporting β}
    (rest : ∀ x, Reads config more (next x)) :
    Reads config (.optional α name :: more) (config.valueOr name default >>= next) :=
  (reads_valueOr name default).bind rest

end Readings

namespace ProjectSettings

variable {config : Config}

theorem reads_loadFolders : Reads config folderKeys (loadFolders config) := by
  iterate 16 refine .valueOr fun _ => ?_
  exact .pure _

theorem reads_loadFiles (folders : Folders) (moduleName dllName : String) :
    Reads config fileKeys (loadFiles config folders moduleName dllName) := by
  iterate 8 refine .valueOr fun _ => ?_
  exact .pure _

/-- **The faults of a configuration.** Loading the settings records those of their keys. -/
theorem reads_load (title : String) : Reads config keys (load config title) := by
  refine .required fun _ => ?_
  iterate 4 refine .valueOr fun _ => ?_
  iterate 2 refine .required fun _ => ?_
  iterate 2 refine .valueOr fun _ => ?_
  refine reads_loadFolders.bind fun _ => ?_
  refine (reads_loadFiles _ _ _).bind fun _ => ?_
  refine .valueOr fun _ => ?_
  exact (Reads.note _).bind fun _ => .pure _

end ProjectSettings
end CmdletForge
