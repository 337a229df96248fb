import CmdletForge.Data.Format
import CmdletForge.Schema.Model

/-!
# API descriptions

A description as it is written: a title and a version, named schemas in order, and operations.
`documentReader` reads one in any format. A schema is a record of optional fields; what stands
under `additionalProperties` is kept untyped at first, and counts as a schema if it can be read as
one and as a mere flag if not.
-/

namespace CmdletForge.Description

/-- The title and version of the API. -/
structure Info where
  title : String := ""
  version : String := ""

/-- What is said of the properties that an object does not name. -/
inductive Additional (α : Type) where
  | unsaid
  | flag
  | schema (items : α)

/-- A schema as it is written. -/
structure SchemaDoc where
  reference : Option String := none
  type : Option String := none
  format : Option String := none
  title : Option String := none
  description : Option String := none
  default : Option Json := none
  values : Option (List Json) := none
  properties : List (String × SchemaDoc) := []
  required : List String := []
  items : Option SchemaDoc := none
  additional : Additional SchemaDoc := .unsaid
  variants : List SchemaDoc := []
  discriminator : Option String := none

/-- An input of an operation as it is written. -/
structure ParameterDoc where
  name : String := ""
  location : Location := .query
  required : Bool := false
  aliases : List String := []
  description : Option String := none
  schema : SchemaDoc := {}

/-- An operation as it is written. -/
structure OperationDoc where
  id : String := ""
  description : Option String := none
  parameters : List ParameterDoc := []
  response : Option SchemaDoc := none

/-- A description. -/
structure Document where
  info : Info := {}
  schemas : List (String × SchemaDoc) := []
  operations : List OperationDoc := []

/-! ## The shapes of the records -/

/-- The fields of a description. -/
def documentShape : RecordShape :=
  ⟨"Document", [("info", .defaulted), ("schemas", .defaulted), ("operations", .defaulted)]⟩

/-- The fields of the information on the API. -/
def infoShape : RecordShape := ⟨"InfoDoc", [("title", .defaulted), ("version", .defaulted)]⟩

/-- The fields of a schema. -/
def schemaShape : RecordShape :=
  ⟨"SchemaDoc",
    [("$ref", .optional), ("type", .optional), ("format", .optional), ("title", .optional),
      ("description", .optional), ("default", .optional), ("enum", .optional),
      ("properties", .defaulted), ("required", .defaulted), ("items", .optional),
      ("additionalProperties", .optional), ("oneOf", .defaulted), ("discriminator", .optional)]⟩

/-- The field of a discriminator. -/
def discriminatorShape : RecordShape := ⟨"DiscriminatorDoc", [("propertyName", .required)]⟩

/-- The fields of an operation. -/
def operationShape : RecordShape :=
  ⟨"OperationDoc",
    [("operationId", .required), ("description", .optional), ("parameters", .defaulted),
      ("response", .optional)]⟩

/-- The fields of a parameter. -/
def parameterShape : RecordShape :=
  ⟨"ParameterDoc",
    [("name", .required), ("in", .defaulted), ("required", .defaulted), ("aliases", .defaulted),
      ("description", .optional), ("schema", .required)]⟩

/-! ## Readers -/

variable {m : Type → Type} [Monad m]

/-- A discriminator: the property that it names. -/
def discriminatorReader (f : Format m) (depth : Nat) : m String :=
  f.record depth discriminatorShape "" fun _ _ => f.text

/-- A field of a schema, by its place. `inner` reads a schema inside the schema, and `member` one in
a list or mapping of it; `attempt` tries an untyped value as a schema. -/
def schemaField (f : Format m) (attempt : Value → Option SchemaDoc) (depth : Nat)
    (inner member : Unit → m SchemaDoc) (index : Nat) (schema : SchemaDoc) : m SchemaDoc := do
  match index with
  | 0 => return { schema with reference := ← f.optional f.text }
  | 1 => return { schema with type := ← f.optional f.text }
  | 2 => return { schema with format := ← f.optional f.text }
  | 3 => return { schema with title := ← f.optional f.text }
  | 4 => return { schema with description := ← f.optional f.text }
  | 5 => return { schema with default := ← f.optional (f.json depth) }
  | 6 => return { schema with values := ← f.optional (f.listOf depth (f.json (depth - 1))) }
  | 7 => return { schema with properties := ← f.entriesOf depth (member ()) }
  | 8 => return { schema with required := ← f.listOf depth f.text }
  | 9 => return { schema with items := ← f.optional (inner ()) }
  | 10 =>
    let value ← f.optional (f.untyped depth)
    let additional := match value with
      | none => .unsaid
      | some value =>
        match attempt value with
        | some items => .schema items
        | none => .flag
    return { schema with additional }
  | 11 => return { schema with variants := ← f.listOf depth (member ()) }
  | _ => return { schema with discriminator := ← f.optional (discriminatorReader f depth) }

/-- A schema. Its fields stand one container deeper, and what their lists hold one more. -/
def schemaReader (f : Format m) (attempt : Value → Option SchemaDoc) : (depth : Nat) → m SchemaDoc
  | 0 => f.record 0 schemaShape {} fun _ schema => pure schema
  | 1 =>
    let innermost (_ : Unit) := schemaReader f attempt 0
    f.record 1 schemaShape {} (schemaField f attempt 0 innermost innermost)
  | depth + 2 =>
    let inner (_ : Unit) := schemaReader f attempt (depth + 1)
    let member (_ : Unit) := schemaReader f attempt depth
    f.record (depth + 2) schemaShape {} (schemaField f attempt (depth + 1) inner member)

/-- A parameter. -/
def parameterReader (f : Format m) (attempt : Value → Option SchemaDoc) (depth : Nat) :
    m ParameterDoc :=
  f.record depth parameterShape {} fun index parameter => do
    match index with
    | 0 => return { parameter with name := ← f.text }
    | 1 =>
      let place ← f.choice (Location.all.map Location.name)
      return { parameter with location := Location.all.getD place .query }
    | 2 => return { parameter with required := ← f.flag }
    | 3 => return { parameter with aliases := ← f.listOf (depth - 1) f.text }
    | 4 => return { parameter with description := ← f.optional f.text }
    | _ => return { parameter with schema := ← schemaReader f attempt (depth - 1) }

/-- An operation. -/
def operationReader (f : Format m) (attempt : Value → Option SchemaDoc) (depth : Nat) :
    m OperationDoc :=
  f.record depth operationShape {} fun index operation => do
    match index with
    | 0 => return { operation with id := ← f.text }
    | 1 => return { operation with description := ← f.optional f.text }
    | 2 =>
      let parameters ← f.listOf (depth - 1) (parameterReader f attempt (depth - 2))
      return { operation with parameters }
    | _ => return { operation with response := ← f.optional (schemaReader f attempt (depth - 1)) }

/-- The title and version of the API. -/
def infoReader (f : Format m) (depth : Nat) : m Info :=
  f.record depth infoShape {} fun index info => do
    match index with
    | 0 => return { info with title := ← f.text }
    | _ => return { info with version := ← f.text }

/-- A description. -/
def documentReader (f : Format m) (attempt : Value → Option SchemaDoc) (depth : Nat) : m Document :=
  f.record depth documentShape {} fun index document => do
    match index with
    | 0 => return { document with info := ← infoReader f (depth - 1) }
    | 1 =>
      let schemas ← f.entriesOf (depth - 1) (schemaReader f attempt (depth - 2))
      return { document with schemas }
    | _ =>
      let operations ← f.listOf (depth - 1) (operationReader f attempt (depth - 2))
      return { document with operations }

end CmdletForge.Description
