import CmdletForge.Description.Document
import CmdletForge.Json.Printer

/-!
# From descriptions to models

Every named schema of a description gets its place in the model before any of them is defined, so
references may point forward and at themselves. Where a schema is written out it becomes a schema of
its own, after those inside it; where a reference stands, it is the schema that the last part of the
reference names. A schema says where it stands by the path of names that lead to it.
-/

namespace CmdletForge

/-- Why a description has no model. -/
inductive DescriptionError where
  | unresolvedReference (path reference : String)
  | invalidSchema (path reason : String)
deriving DecidableEq

/-- The wording of an error. -/
def DescriptionError.message : DescriptionError → String
  | .unresolvedReference path reference =>
    "unresolved reference '" ++ reference ++ "' at " ++ path
  | .invalidSchema path reason => "invalid schema at " ++ path ++ ": " ++ reason

namespace Description

/-! ## The kind of a schema -/

/-- The primitive of a string format. -/
def stringPrimitive : Option String → Primitive
  | some "date-time" => .dateTime
  | some "date" => .date
  | some "duration" => .duration
  | some "uuid" => .uuid
  | some "byte" => .byteArray
  | some "binary" => .binary
  | _ => .string

/-- The kind that a schema without alternatives and enumerated values has by its type. -/
def SchemaDoc.kindOfType (doc : SchemaDoc) : Kind :=
  let structured : Kind :=
    match doc.additional with
    | .schema _ => if doc.properties.isEmpty then .map else .object
    | _ => .object
  match doc.type with
  | none => structured
  | some "object" => structured
  | some "array" => .array
  | some "boolean" => .boolean
  | some "string" => .primitive (stringPrimitive doc.format)
  | some "integer" => .primitive (if doc.format = some "int64" then .int64 else .int32)
  | some "number" => .primitive (if doc.format = some "float" then .float else .number)
  | some other => .unsupported other

/-- The kind of a schema: alternatives come before enumerated values, and these before the type. -/
def SchemaDoc.kind (doc : SchemaDoc) : Kind :=
  if !doc.variants.isEmpty then .union
  else if doc.values.isSome then .enumeration
  else doc.kindOfType

/-- The kind of a schema; an array must say what its items are. -/
def classify (doc : SchemaDoc) (path : String) : Except DescriptionError Kind :=
  if doc.kind = .array && doc.items.isNone then
    .error (.invalidSchema path "array schema requires items")
  else .ok doc.kind

/-- An enumerated value as a text: a string as it is, any other value as compact JSON. -/
def valueText : Json → String
  | .str s => s
  | value => value.compact

/-! ## Adding schemas to a model -/

/-- Steps that add to a model and may fail. -/
abbrev Lowering := StateT Model (Except DescriptionError)

/-- The name at the end of a reference. -/
def referenceName (reference : String) : String :=
  String.ofList (reference.toList.reverse.takeWhile (· ≠ '/')).reverse

/-- The schema that a reference names. -/
def resolveReference (path reference : String) : Lowering SchemaId := do
  match (← get).lookup (referenceName reference) with
  | some id => pure id
  | none => throw (.unresolvedReference path reference)

/-- The schema that a reference names or, without one, a new schema. -/
def place (reference : Option String) (path : String) (shape : Lowering Schema) : Lowering SchemaId := do
  match reference with
  | some reference => resolveReference path reference
  | none =>
    let schema ← shape
    let id := (← get).size
    modify (·.add schema)
    pure id

/-- A schema without what it holds. -/
def outline (doc : SchemaDoc) (kind : Kind) (path : String) : Schema :=
  { kind, path, name := doc.title, description := doc.description, default := doc.default }

mutual

/-- The schema that a written one describes, when what it holds has been added. -/
def shape (doc : SchemaDoc) (path : String) : Lowering Schema := do
  let kind ← classify doc path
  let schema := outline doc kind path
  match doc with
  | .mk _ _ _ _ _ _ values properties required items additional variants discriminator =>
    match kind with
    | .object =>
      return { schema with properties := ← shapeProperties properties path, required }
    | .enumeration => return { schema with values := (values.getD []).map valueText }
    | .array => return { schema with items := ← shapeItems items (path ++ "/items") }
    | .map =>
      return { schema with items := ← shapeAdditional additional (path ++ "/additionalProperties") }
    | .union =>
      return { schema with variants := ← shapeVariants variants path 0, discriminator }
    | _ => return schema

/-- The properties of an object. -/
def shapeProperties (properties : List (String × SchemaDoc)) (path : String) :
    Lowering (List Property) := do
  match properties with
  | [] => return []
  | (name, doc) :: rest =>
    let inner := path ++ "/properties/" ++ name
    let id ← place doc.reference inner (shape doc inner)
    return ⟨name, id⟩ :: (← shapeProperties rest path)

/-- What an array holds. -/
def shapeItems (items : Option SchemaDoc) (path : String) : Lowering (Option SchemaId) := do
  match items with
  | none => return none
  | some doc => return some (← place doc.reference path (shape doc path))

/-- What a map holds. -/
def shapeAdditional (additional : Additional SchemaDoc) (path : String) : Lowering (Option SchemaId) := do
  match additional with
  | .unsaid => return none
  | .flag => return none
  | .schema doc => return some (← place doc.reference path (shape doc path))

/-- The alternatives of a union; `index` is the number of the first. -/
def shapeVariants (variants : List SchemaDoc) (path : String) (index : Nat) :
    Lowering (List SchemaId) := do
  match variants with
  | [] => return []
  | doc :: rest =>
    let inner := path ++ "/oneOf/" ++ toString index
    let id ← place doc.reference inner (shape doc inner)
    return id :: (← shapeVariants rest path (index + 1))

end

/-- The schema at a place of an operation. -/
def placeDoc (doc : SchemaDoc) (path : String) : Lowering SchemaId :=
  place doc.reference path (shape doc path)

/-! ## Whole descriptions -/

/-- The path of a named schema. -/
def schemaPath (name : String) : String := "schemas/" ++ name

/-- Defines the named schemas, of which the first has the position `id`. -/
def defineAll : (id : SchemaId) → List (String × SchemaDoc) → Lowering Unit
  | _, [] => pure ()
  | id, (name, doc) :: rest => do
    if doc.reference.isSome then
      throw (.invalidSchema (schemaPath name) "a named schema cannot be a bare reference")
    let schema ← shape doc (schemaPath name)
    modify fun model => (model.define id schema).getD model
    defineAll (id + 1) rest

/-- The parameters of an operation. -/
def lowerParameters (base : String) : List ParameterDoc → Lowering (List Parameter)
  | [] => pure []
  | doc :: rest => do
    let schema ← placeDoc doc.schema (base ++ "/parameters/" ++ doc.name)
    let parameter : Parameter :=
      { name := doc.name, location := doc.location, required := doc.required,
        aliases := doc.aliases, schema, description := doc.description }
    return parameter :: (← lowerParameters base rest)

/-- What an operation answers. -/
def lowerResponse (base : String) : Option SchemaDoc → Lowering (Option SchemaId)
  | none => pure none
  | some doc => some <$> placeDoc doc (base ++ "/response")

/-- Adds the operations. -/
def lowerOperations : List OperationDoc → Lowering Unit
  | [] => pure ()
  | doc :: rest => do
    let base := "operations/" ++ doc.id
    let parameters ← lowerParameters base doc.parameters
    let response ← lowerResponse base doc.response
    modify (·.addOperation { id := doc.id, description := doc.description, parameters, response })
    lowerOperations rest

/-- The model with a place for every named schema. -/
def reserved (document : Document) : Model :=
  document.schemas.foldl (fun model (name, _) => model.reserve name (schemaPath name))
    { title := document.info.title, version := document.info.version }

/-- The model of a description. -/
def Document.lower (document : Document) : Except DescriptionError Model := do
  let steps : Lowering Unit := do
    defineAll 0 document.schemas
    lowerOperations document.operations
  let (_, model) ← steps.run (reserved document)
  .ok model

end Description
end CmdletForge
