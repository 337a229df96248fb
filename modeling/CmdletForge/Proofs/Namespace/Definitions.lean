import CmdletForge.Namespace.Models
import CmdletForge.Proofs.Generation.Steps

/-!
# How a model type is defined

Defining a type declares its members, one by one and in order, and nothing else. The definition bears
the name of the type, and what it declares is registered if it is generated.
-/

namespace CmdletForge

/-- The type that a definition in a namespace defines. -/
def ModelDefinition.reference (space : String) (definition : ModelDefinition) : TypeRef :=
  ⟨definition.schema, space, definition.name⟩

/-- The declarations of the properties of a type. -/
def ModelDefinition.declarations (definition : ModelDefinition) : List Declaration :=
  definition.properties.map (·.declaration)

/-- The definition is that of a type. -/
structure ModelDefinition.Defines (definition : ModelDefinition) (type : TypeRef) : Prop where
  name : definition.name = type.name
  fullName : definition.fullName = type.fullName
  schema : definition.schema = type.schema

namespace Models

open Synthesis

variable {source : Source} {run : Run}

theorem ends_visit (closed : source.model.Closed) {entries : List (String × SchemaId)}
    (bound : ∀ entry ∈ entries, entry.2 < source.model.size) :
    Ends source run (visit entries) fun _ after =>
      Declared source (entries.map Prod.snd) run after := by
  induction entries generalizing run with
  | nil => exact .pure (.refl run)
  | cons entry rest ih =>
    refine (ends_note _).bind fun _ noted first => ?_
    refine (ends_declare? closed (bound entry (by simp)) true).discard.bind ?_
    rintro _ declared ⟨_, second, -⟩
    refine (ih fun entry mem => bound entry (by simp [mem])).mono fun _ after third => ?_
    exact first.nil_trans (second.trans third)

theorem ends_defineProperties (closed : source.model.Closed) {schema : Schema} {typeName : String}
    {taken : List String} {properties : List Property}
    (bound : ∀ property ∈ properties, property.schema < source.model.size) :
    Ends source run (defineProperties schema typeName taken properties) fun defined after =>
      Declared source (properties.map (·.schema)) run after ∧
      (source.resolver.Foreign → ∀ property ∈ defined,
        property.declaration.Grounded after.registry) := by
  induction properties generalizing run taken with
  | nil => exact .pure ⟨.refl run, by simp⟩
  | cons property rest ih =>
    have later : ∀ property ∈ rest, property.schema < source.model.size :=
      fun property mem => bound property (by simp [mem])
    have here := bound property (by simp)
    refine (ends_declare? closed here _).bind ?_
    rintro declaration declared ⟨first, -, grounded⟩
    cases declaration with
    | none =>
      refine (ih later).mono ?_
      rintro defined after ⟨second, rest⟩
      exact ⟨first.trans second, rest⟩
    | some declaration =>
      refine .noteIf fun noted second => ?_
      obtain ⟨described, found⟩ := Model.exists_schema here
      refine .schema found ((ih later).bind ?_)
      rintro defined after ⟨third, known⟩
      have all := second.nil_trans third
      refine .pure ⟨first.trans all, fun foreign property mem => ?_⟩
      rcases List.mem_cons.1 mem with rfl | mem
      · exact (grounded foreign declaration rfl).mono all.grew.kept
      · exact known foreign property mem

theorem ends_declareVariants (closed : source.model.Closed) {variants : List SchemaId}
    (bound : ∀ id ∈ variants, id < source.model.size) :
    Ends source run (declareVariants variants) fun _ after => Declared source variants run after := by
  induction variants generalizing run with
  | nil => exact .pure (.refl run)
  | cons id rest ih =>
    have later : ∀ id ∈ rest, id < source.model.size := fun id mem => bound id (by simp [mem])
    refine (ends_declare? closed (bound id (by simp)) true).bind ?_
    rintro declaration declared ⟨first, -⟩
    cases declaration with
    | none => exact (ih later).mono fun _ _ second => first.trans second
    | some declaration =>
      refine (ih later).bind fun _ _ second => ?_
      exact .pure (first.trans second)

/-- **A definition.** It is that of the type, and all that is done for it is to declare the members of
the schema. -/
theorem ends_define (closed : source.model.Closed) {type : TypeRef} {schema : Schema}
    (found : source.model.schema? type.schema = some schema) :
    Ends source run (define type schema) fun definition after =>
      Declared source schema.members run after ∧ definition.Defines type ∧
      (source.resolver.Foreign → ∀ declaration ∈ definition.declarations,
        declaration.Grounded after.registry) := by
  have bound : ∀ id ∈ schema.members, id < source.model.size := fun id mem =>
    closed.members (Model.mem_of_schema? found) mem
  unfold define
  unfold Schema.members at bound ⊢
  cases kind : schema.kind with
  | enumeration => exact .pure ⟨.refl run, ⟨rfl, rfl, rfl⟩, by simp [ModelDefinition.declarations]⟩
  | union =>
    rw [kind] at bound
    refine (ends_declareVariants closed bound).bind fun _ _ declared => ?_
    exact .pure ⟨declared, ⟨rfl, rfl, rfl⟩, by simp [ModelDefinition.declarations]⟩
  | _ =>
    rw [kind] at bound
    have inside : ∀ property ∈ schema.properties, property.schema < source.model.size :=
      fun property mem => bound property.schema (List.mem_map_of_mem mem)
    refine (ends_defineProperties closed inside).bind ?_
    rintro defined after ⟨declared, grounded⟩
    refine .pure ⟨declared, ⟨rfl, rfl, rfl⟩, fun foreign declaration mem => ?_⟩
    obtain ⟨property, its, rfl⟩ := List.mem_map.1 mem
    exact grounded foreign property its

end Models
end CmdletForge
