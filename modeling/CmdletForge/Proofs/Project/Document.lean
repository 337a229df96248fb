import CmdletForge.Project.Document
import CmdletForge.Proofs.Json.Reader

/-!
# The project model reads back

A document of a project nests ten levels deep at most, and its numbers are positions: of schemas, and of
parameters. So it is printed as a text that reads back, as long as positions are machine words.
-/

namespace CmdletForge

namespace Json

variable {depth : Nat}

@[simp] theorem readable_null : Readable depth .null := .null

@[simp] theorem readable_bool (b : Bool) : Readable depth (.bool b) := .bool b

@[simp] theorem readable_str (s : String) : Readable depth (.str s) := .str s

@[simp] theorem readable_ofText? (text : Option String) : Readable depth (ofText? text) := by
  cases text <;> simp [ofText?]

theorem readable_ofNat {n : Nat} (word : n < 2 ^ 64) : Readable depth (ofNat n) :=
  .num ⟨by omega, by exact_mod_cast word⟩

theorem readable_arr_map {α : Type} {f : α → Json} {xs : List α}
    (its : ∀ x ∈ xs, Readable depth (f x)) : Readable (depth + 1) (.arr (xs.map f)) :=
  .arr (List.forall_mem_map.2 its)

@[simp] theorem readable_ofTexts (texts : List String) : Readable (depth + 1) (ofTexts texts) :=
  readable_arr_map fun _ _ => .str _

/-- An object is readable one level up if its values are. -/
theorem readable_obj {entries : List (String × Json)}
    (its : entries.Forall fun entry => Readable depth entry.2) : Readable (depth + 1) (.obj entries) :=
  .obj (List.forall_iff_forall_mem.1 its)

/-- Changing the strings of a value keeps it readable. -/
theorem Readable.mapTexts {value : Json} (readable : Readable depth value) (f : String → String) :
    Readable depth (value.mapTexts f) := by
  induction readable with
  | null => exact .null
  | bool b => exact .bool b
  | num fits => exact .num fits
  | str s => exact .str _
  | arr _ ih =>
    rw [mapTexts_arr]
    exact readable_arr_map ih
  | obj _ ih =>
    rw [mapTexts_obj]
    exact .obj (List.forall_mem_map.2 ih)

end Json

/-! ## Positions -/

/-- The positions that a declaration mentions. -/
def Declaration.positions (declaration : Declaration) : List Nat :=
  declaration.generated.toList.map (·.schema)

/-- The positions that a generated type mentions. -/
def ModelDefinition.positions (definition : ModelDefinition) : List Nat :=
  definition.schema :: definition.properties.flatMap (·.declaration.positions)

/-- The positions that a parameter mentions. -/
def ParameterDefinition.positions (parameter : ParameterDefinition) : List Nat :=
  parameter.declaration.positions ++ parameter.position.toList

/-- The positions that a variant mentions. -/
def CommandVariant.positions (variant : CommandVariant) : List Nat :=
  variant.parameters.flatMap (·.positions) ++ variant.output.toList.flatMap (·.positions)

/-- The positions that a command mentions. -/
def CommandDefinition.positions (command : CommandDefinition) : List Nat :=
  command.variants.flatMap (·.positions)

/-- The positions that a project mentions. -/
def Project.positions (project : Project) : List Nat :=
  (project.models.definitions ++ project.commands.models.definitions).flatMap (·.positions) ++
    (project.commands.commands.definitions ++ project.modelCommands.definitions).flatMap (·.positions)

namespace Project.Document

open Json

variable {depth : Nat}

theorem readable_settings (s : ProjectSettings) : Readable (depth + 2) (settings s) := by
  have folders : Readable (depth + 1) (folders s.folders) := readable_obj (by simp)
  have files : Readable (depth + 1) (files s.files) := readable_obj (by simp)
  have metadata : Readable (depth + 1) (metadata s.metadata) := readable_obj (by simp)
  exact readable_obj (by simp [folders, files, metadata])

theorem readable_declaration {d : Declaration} (words : ∀ n ∈ d.positions, n < 2 ^ 64) :
    Readable (depth + 2) (declaration d) := by
  have type : Readable (depth + 1) (typeRef? d.generated) := by
    cases same : d.generated with
    | none => exact .null
    | some type =>
      have word : type.schema < 2 ^ 64 := words _ (by simp [Declaration.positions, same])
      exact readable_obj (by simp [readable_ofNat word])
  exact readable_obj (by simp [type])

theorem readable_property {p : PropertyDefinition} (words : ∀ n ∈ p.declaration.positions, n < 2 ^ 64) :
    Readable (depth + 3) (property p) :=
  readable_obj (by simp [readable_declaration words])

theorem readable_model {d : ModelDefinition} (words : ∀ n ∈ d.positions, n < 2 ^ 64) :
    Readable (depth + 5) (model d) := by
  obtain ⟨own, inside⟩ := List.forall_mem_cons.1 words
  have properties : Readable (depth + 4) (.arr (d.properties.map property)) :=
    readable_arr_map fun p mem => readable_property fun n its =>
      inside n (List.mem_flatMap.2 ⟨p, mem, its⟩)
  exact readable_obj (by simp [properties, readable_ofNat own])

theorem readable_parameter {p : ParameterDefinition} (words : ∀ n ∈ p.positions, n < 2 ^ 64) :
    Readable (depth + 3) (parameter p) := by
  obtain ⟨inside, own⟩ := List.forall_mem_append.1 words
  have position : Readable (depth + 2) (ofNat? p.position) := by
    cases same : p.position with
    | none => exact .null
    | some n => exact readable_ofNat (own n (by simp [same]))
  exact readable_obj (by simp [position, readable_declaration inside])

theorem readable_variant {v : CommandVariant} (words : ∀ n ∈ v.positions, n < 2 ^ 64) :
    Readable (depth + 5) (variant v) := by
  obtain ⟨inside, answer⟩ := List.forall_mem_append.1 words
  have parameters : Readable (depth + 4) (.arr (v.parameters.map parameter)) :=
    readable_arr_map fun p mem => readable_parameter fun n its =>
      inside n (List.mem_flatMap.2 ⟨p, mem, its⟩)
  have output : Readable (depth + 4) (declaration? v.output) := by
    cases same : v.output with
    | none => exact .null
    | some d => exact readable_declaration fun n its => answer n (by simp [same, its])
  exact readable_obj (by simp [parameters, output])

theorem readable_command {d : CommandDefinition} (words : ∀ n ∈ d.positions, n < 2 ^ 64) :
    Readable (depth + 7) (command d) := by
  have variants : Readable (depth + 6) (.arr (d.variants.map variant)) :=
    readable_arr_map fun v mem => readable_variant fun n its =>
      words n (List.mem_flatMap.2 ⟨v, mem, its⟩)
  exact readable_obj (by simp [variants])

theorem readable_space {δ : Type} {definition : δ → Json} {s : Namespace δ}
    (its : ∀ d ∈ s.definitions, Readable depth (definition d)) :
    Readable (depth + 2) (space definition s) :=
  readable_obj (by simp [readable_arr_map its])

/-- **The document of a project is readable** if its positions are machine words. -/
theorem readable_document {project : Project} (words : ∀ n ∈ project.positions, n < 2 ^ 64) :
    Readable maxDepth project.document := by
  obtain ⟨types, commands⟩ := List.forall_mem_append.1 words
  have model : ∀ d ∈ project.models.definitions ++ project.commands.models.definitions,
      Readable 124 (model d) :=
    fun d mem => readable_model fun n its => types n (List.mem_flatMap.2 ⟨d, mem, its⟩)
  have command : ∀ d ∈ project.commands.commands.definitions ++ project.modelCommands.definitions,
      Readable 124 (command d) :=
    fun d mem => readable_command fun n its => commands n (List.mem_flatMap.2 ⟨d, mem, its⟩)
  obtain ⟨models, commandModels⟩ := List.forall_mem_append.1 model
  obtain ⟨commands, modelCommands⟩ := List.forall_mem_append.1 command
  have support : ∀ d ∈ project.support.definitions, Readable 124 (support d) :=
    fun d _ => readable_obj (by simp)
  have settings : Readable 126 (settings project.settings) := readable_settings _
  have service : Readable 126 (service project.service) := readable_obj (by simp)
  change Readable 127 project.document
  exact readable_obj (by simp [settings, service, readable_space support, readable_space models,
    readable_space commands, readable_space commandModels, readable_space modelCommands])

end Project.Document
end CmdletForge
