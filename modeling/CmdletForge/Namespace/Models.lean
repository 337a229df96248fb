import CmdletForge.Generation.Synthesis
import CmdletForge.Namespace.Service

/-!
# The namespace of model types

Every generated type that is reached from the named schemas, in the order in which it was first met.
Defining a type declares its members, which may bring further types into the queue; the queue is
drained until it is empty.
-/

namespace CmdletForge

/-- The form of a model type. -/
inductive ModelForm where
  | record
  | enumeration
  | union
deriving DecidableEq

/-- A property of a generated class. -/
structure PropertyDefinition where
  name : String
  wireName : String
  required : Bool
  declaration : Declaration
  description : Option String
deriving DecidableEq

/-- A generated type. -/
structure ModelDefinition where
  name : String
  fullName : String
  form : ModelForm
  schema : SchemaId
  description : Option String
  properties : List PropertyDefinition := []
  values : List String := []
  variants : List String := []
  discriminator : Option String := none
  converter : Option String := none
deriving DecidableEq

instance : Named ModelDefinition := ⟨ModelDefinition.name⟩

namespace Models

/-! ## Properties -/

/-- The name that a property would like to have: not that of its type. -/
def propertyCandidate (wireName typeName : String) : String :=
  let name := Naming.pascalOr "Property" wireName
  if name = typeName then name ++ "Property" else name

/-- The properties of a class. One that cannot be declared is left out. -/
def defineProperties (schema : Schema) (typeName : String) :
    (taken : List String) → List Property → Synthesis (List PropertyDefinition)
  | _, [] => pure []
  | taken, property :: rest => do
    let required := schema.requires property.name
    match ← Synthesis.declare? property.schema required with
    | none => defineProperties schema typeName taken rest
    | some declaration =>
      let candidate := propertyCandidate property.name typeName
      let name := Naming.uniqueName taken candidate
      if name ≠ candidate then
        Synthesis.note (.warning "property name collision resolved by suffix"
          [("property", .text property.name), ("name", .text name)])
      let description := (← Synthesis.schema property.schema).description
      let definition := ⟨name, property.name, required, declaration, description⟩
      return definition :: (← defineProperties schema typeName (name :: taken) rest)

/-- The declarations of a union's variants. One that cannot be declared is left out. -/
def declareVariants : List SchemaId → Synthesis (List String)
  | [] => pure []
  | id :: rest => do
    match ← Synthesis.declare? id true with
    | none => declareVariants rest
    | some declaration => return declaration.text :: (← declareVariants rest)

/-! ## Types -/

/-- The definition of a type. -/
def define (type : TypeRef) (schema : Schema) : Synthesis ModelDefinition := do
  let definition : ModelDefinition :=
    { name := type.name, fullName := type.fullName, form := .record, schema := type.schema,
      description := schema.description }
  match schema.kind with
  | .enumeration => return { definition with form := .enumeration, values := schema.values }
  | .union =>
    let variants ← declareVariants schema.variants
    return { definition with form := .union, variants, discriminator := schema.discriminator }
  | _ =>
    let properties ← defineProperties schema type.name [] schema.properties
    return { definition with properties, converter := some (type.name ++ "TypeConverter") }

/-- Defines the waiting types until none is left. Each step takes one, so as many steps as types may
be registered are enough. -/
def drain : (steps : Nat) → Namespace ModelDefinition → Synthesis (Namespace ModelDefinition)
  | 0, space => pure space
  | steps + 1, space => do
    match ← Synthesis.nextPending with
    | none => pure space
    | some id =>
      match (← get).registry.lookup id with
      | none => drain steps space
      | some type =>
        let schema ← Synthesis.schema id
        Synthesis.note (.debug "materializing type"
          [("type", .text type.fullName), ("path", .text schema.path)])
        let definition ← define type schema
        let space ← Synthesis.orFail (space.insert definition)
        drain steps space

/-- Defines all waiting types. -/
def drainAll (space : Namespace ModelDefinition) : Synthesis (Namespace ModelDefinition) := do
  drain ((← read).model.size + 1) space

/-- Declares the named schemas. -/
def visit : List (String × SchemaId) → Synthesis Unit
  | [] => pure ()
  | (name, id) :: rest => do
    Synthesis.note (.debug "visiting schema" [("schema", .text name)])
    discard (Synthesis.declare? id true)
    visit rest

/-- Builds the namespace. -/
def build (service : Service) : Synthesis (Namespace ModelDefinition) := do
  let space ← Synthesis.begin { fullName := service.child "Models" }
  Synthesis.setOwner space.fullName
  visit (← read).model.table
  let space ← drainAll space
  Synthesis.finalize space

end Models
end CmdletForge
