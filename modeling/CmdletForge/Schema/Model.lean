import CmdletForge.Json.Value

/-!
# Models of an API

A model is a graph of schemas and a list of operations. The schemas stand in one list and refer to
each other by position, so a schema may be shared and may lie on a cycle; two schemas of the same
shape at different positions are two schemas. Some schemas are declared under a name in the model's
table.
-/

namespace CmdletForge

/-- The position of a schema in its model. -/
abbrev SchemaId := Nat

/-- What a primitive value is on the wire. -/
inductive Primitive where
  | string
  | int32
  | int64
  | number
  | float
  | dateTime
  | date
  | duration
  | uuid
  | byteArray
  | binary
deriving DecidableEq, Repr

namespace Primitive

/-- All primitives, with their names. -/
def named : List (String × Primitive) :=
  [("String", .string), ("Int32", .int32), ("Int64", .int64), ("Number", .number), ("Float", .float),
    ("DateTime", .dateTime), ("Date", .date), ("Duration", .duration), ("Uuid", .uuid),
    ("ByteArray", .byteArray), ("Binary", .binary)]

/-- The name of a primitive. -/
def name : Primitive → String
  | .string => "String"
  | .int32 => "Int32"
  | .int64 => "Int64"
  | .number => "Number"
  | .float => "Float"
  | .dateTime => "DateTime"
  | .date => "Date"
  | .duration => "Duration"
  | .uuid => "Uuid"
  | .byteArray => "ByteArray"
  | .binary => "Binary"

/-- Primitives whose declaration has no null of its own. -/
def isValueType : Primitive → Bool
  | .int32 | .int64 | .number | .float | .dateTime | .date | .duration => true
  | .string | .uuid | .byteArray | .binary => false

end Primitive

/-- The kind of a schema. -/
inductive Kind where
  | object
  | enumeration
  | primitive (p : Primitive)
  | boolean
  | array
  | map
  | union
  | unsupported (name : String)
deriving DecidableEq

/-- The word for a kind in messages. -/
def Kind.label : Kind → String
  | .object => "object"
  | .enumeration => "enum"
  | .primitive _ => "primitive"
  | .boolean => "boolean"
  | .array => "array"
  | .map => "map"
  | .union => "polymorphic-union"
  | .unsupported name => name

/-- A named property of an object. -/
structure Property where
  name : String
  schema : SchemaId
deriving DecidableEq

/-- A schema: its kind, where it stands in the description, and what its kind calls for. -/
structure Schema where
  kind : Kind
  path : String
  name : Option String := none
  description : Option String := none
  properties : List Property := []
  required : List String := []
  items : Option SchemaId := none
  values : List String := []
  variants : List SchemaId := []
  discriminator : Option String := none
  default : Option Json := none

namespace Schema

/-- The property is listed as required. -/
def requires (schema : Schema) (property : String) : Bool := schema.required.contains property

/-- Adds a property, and lists it as required if it is. -/
def withProperty (schema : Schema) (name : String) (id : SchemaId) (required : Bool) : Schema :=
  { schema with
    properties := schema.properties ++ [⟨name, id⟩]
    required := if required then schema.required ++ [name] else schema.required }

end Schema

/-- Where a parameter travels. -/
inductive Location where
  | path
  | query
  | header
  | body
deriving DecidableEq

namespace Location

/-- All locations, in order. -/
def all : List Location := [.path, .query, .header, .body]

/-- The word for a location. -/
def name : Location → String
  | .path => "path"
  | .query => "query"
  | .header => "header"
  | .body => "body"

end Location

/-- An input of an operation. -/
structure Parameter where
  name : String
  location : Location := .query
  required : Bool := false
  aliases : List String := []
  schema : SchemaId
  description : Option String := none

/-- An operation of the API. -/
structure Operation where
  id : String
  description : Option String := none
  parameters : List Parameter := []
  response : Option SchemaId := none

/-- A model: its title and version, all schemas, the named ones in order of declaration, and the
operations. -/
structure Model where
  title : String := ""
  version : String := ""
  schemas : List Schema := []
  table : List (String × SchemaId) := []
  operations : List Operation := []

namespace Model

/-- The schema at a position. -/
def schema? (model : Model) (id : SchemaId) : Option Schema := model.schemas[id]?

/-- The first schema declared under a name. -/
def lookup (model : Model) (name : String) : Option SchemaId := model.table.lookup name

/-- How many schemas there are. -/
def size (model : Model) : Nat := model.schemas.length

/-! ## Growing a model -/

/-- Adds a schema at the end; its position is the size before. -/
def add (model : Model) (schema : Schema) : Model := { model with schemas := model.schemas ++ [schema] }

/-- Adds a schema and declares it under a name. -/
def declare (model : Model) (name : String) (schema : Schema) : Model :=
  { model.add { schema with name := some name } with table := model.table ++ [(name, model.size)] }

/-- The stand-in for a schema that is defined later. -/
def placeholder (path : String) : Schema := { kind := .unsupported "unresolved", path }

/-- Declares a name for a schema that is defined later. -/
def reserve (model : Model) (name path : String) : Model := model.declare name (placeholder path)

/-- Puts a schema at a position; a name given there before is kept. There must be such a position. -/
def define (model : Model) (id : SchemaId) (schema : Schema) : Option Model := do
  let old ← model.schema? id
  some { model with schemas := model.schemas.set id { schema with name := old.name <|> schema.name } }

/-- Adds an operation at the end. -/
def addOperation (model : Model) (operation : Operation) : Model :=
  { model with operations := model.operations ++ [operation] }

end Model
end CmdletForge
