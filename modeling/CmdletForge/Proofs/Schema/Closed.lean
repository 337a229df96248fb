import CmdletForge.Schema.Model
import Mathlib.Data.List.Nodup
import Mathlib.Data.List.Perm.Subperm

/-!
# Closed models

A model is closed when every position that it mentions is the position of one of its schemas. Models
that are grown step by step are closed, and all that is said of a generation is said of closed models.
-/

namespace CmdletForge

namespace Model

/-- Every schema that a model mentions is there. -/
structure Closed (model : Model) : Prop where
  table : ∀ entry ∈ model.table, entry.2 < model.size
  properties : ∀ schema ∈ model.schemas, ∀ property ∈ schema.properties, property.schema < model.size
  items : ∀ schema ∈ model.schemas, ∀ id ∈ schema.items, id < model.size
  variants : ∀ schema ∈ model.schemas, ∀ id ∈ schema.variants, id < model.size
  parameters : ∀ operation ∈ model.operations, ∀ parameter ∈ operation.parameters,
    parameter.schema < model.size
  response : ∀ operation ∈ model.operations, ∀ id ∈ operation.response, id < model.size

instance (model : Model) : Decidable model.Closed :=
  decidable_of_iff
    ((∀ entry ∈ model.table, entry.2 < model.size) ∧
      (∀ schema ∈ model.schemas, ∀ property ∈ schema.properties, property.schema < model.size) ∧
      (∀ schema ∈ model.schemas, ∀ id ∈ schema.items, id < model.size) ∧
      (∀ schema ∈ model.schemas, ∀ id ∈ schema.variants, id < model.size) ∧
      (∀ operation ∈ model.operations, ∀ parameter ∈ operation.parameters,
        parameter.schema < model.size) ∧
      ∀ operation ∈ model.operations, ∀ id ∈ operation.response, id < model.size)
    ⟨fun ⟨t, p, i, v, a, r⟩ => ⟨t, p, i, v, a, r⟩,
      fun h => ⟨h.table, h.properties, h.items, h.variants, h.parameters, h.response⟩⟩

/-- Every list and every map says what it holds. -/
def Filled (model : Model) : Prop :=
  ∀ schema ∈ model.schemas, schema.kind = .array ∨ schema.kind = .map → schema.items.isSome

variable {model : Model} {id : SchemaId} {schema : Schema}

theorem exists_schema (bound : id < model.size) : ∃ schema, model.schema? id = some schema :=
  ⟨_, List.getElem?_eq_getElem bound⟩

theorem lt_size_of_schema? (found : model.schema? id = some schema) : id < model.size :=
  (List.getElem?_eq_some_iff.1 found).1

theorem mem_of_schema? (found : model.schema? id = some schema) : schema ∈ model.schemas :=
  List.mem_of_getElem? found

/-- Different schemas of a model are no more than it has. -/
theorem length_le_size {ids : List SchemaId} (distinct : ids.Nodup)
    (inRange : ∀ id ∈ ids, id < model.size) : ids.length ≤ model.size := by
  have covered : ids ⊆ List.range model.size := fun id mem => List.mem_range.2 (inRange id mem)
  have length := (List.subperm_of_subset distinct covered).length_le
  rwa [List.length_range] at length

end Model

/-- The schemas that the definition of a type declares: the variants of a union, the properties of all
else but an enumeration. -/
def Schema.members (schema : Schema) : List SchemaId :=
  match schema.kind with
  | .enumeration => []
  | .union => schema.variants
  | _ => schema.properties.map (·.schema)

namespace Model

variable {model : Model}

/-- The members of the schema at a position. -/
def members (model : Model) (id : SchemaId) : List SchemaId :=
  ((model.schema? id).map Schema.members).getD []

theorem members_eq {id : SchemaId} {schema : Schema} (found : model.schema? id = some schema) :
    model.members id = schema.members := by
  simp [members, found]

theorem Closed.members (closed : model.Closed) {schema : Schema} (mem : schema ∈ model.schemas)
    {id : SchemaId} (member : id ∈ schema.members) : id < model.size := by
  unfold Schema.members at member
  split at member
  next => simp at member
  next => exact closed.variants schema mem id member
  next =>
    obtain ⟨property, inside, rfl⟩ := List.mem_map.1 member
    exact closed.properties schema mem property inside

end Model

/-- The schemas that an operation mentions. -/
def Operation.mentions (operation : Operation) : List SchemaId :=
  operation.parameters.map (·.schema) ++ operation.response.toList

/-- The schemas that the operations of a model mention. -/
def Model.mentions (model : Model) : List SchemaId := model.operations.flatMap Operation.mentions

theorem Model.Closed.mentions {model : Model} (closed : model.Closed) {operation : Operation}
    (mem : operation ∈ model.operations) {id : SchemaId} (its : id ∈ operation.mentions) :
    id < model.size := by
  rcases List.mem_append.1 its with its | its
  · obtain ⟨parameter, inside, rfl⟩ := List.mem_map.1 its
    exact closed.parameters operation mem parameter inside
  · exact closed.response operation mem id (Option.mem_toList.1 its)

/-- A closed model where a type holds itself, directly and through a list, where a list holds nothing
but itself, and where some types are met in operations only. -/
def petStore : Model where
  schemas :=
    [{ kind := .object, path := "/schemas/Pet", name := some "Pet",
       properties := [⟨"friend", 0⟩, ⟨"tags", 1⟩, ⟨"mood", 2⟩, ⟨"photo", 3⟩], required := ["tags"] },
      { kind := .array, path := "/schemas/Pet/properties/tags", items := some 4 },
      { kind := .enumeration, path := "/schemas/Mood", name := some "Mood", values := ["calm", "wild"] },
      { kind := .unsupported "file", path := "/schemas/Pet/properties/photo" },
      { kind := .object, path := "/schemas/Pet/properties/tags/items", properties := [⟨"inner", 1⟩] },
      { kind := .union, path := "/schemas/Animal", name := some "Animal", variants := [0, 6],
        discriminator := some "kind" },
      { kind := .array, path := "/schemas/Nest", name := some "Nest", items := some 6 },
      { kind := .boolean, path := "/operations/pets_feed/parameters/force" },
      { kind := .object, path := "/operations/pets_feed/parameters/meal",
        properties := [⟨"amount", 9⟩, ⟨"eater", 0⟩] },
      { kind := .primitive .int32, path := "/operations/pets_feed/parameters/meal/properties/amount" }]
  table := [("Animal", 5), ("Pet", 0)]
  operations :=
    [{ id := "pets_feed",
       parameters := [{ name := "meal", location := .body, required := true, schema := 8 },
        { name := "force", schema := 7 }],
       response := some 1 }]

example : petStore.Closed := by decide

end CmdletForge
