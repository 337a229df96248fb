import CmdletForge.Schema.Model

/-!
# Declarations of types

How a value is declared in generated code, whether it may be null, what stands for it when none is
given, and what it is in JSON. A type of value kind has no null of its own and takes a mark when it
is optional; a type of reference kind is always nullable.
-/

namespace CmdletForge

/-- What a value is in JSON. -/
inductive JsonType where
  | string
  | number
  | boolean
  | object
  | array
  | dictionary
  | binary
deriving DecidableEq

namespace JsonType

/-- All of them, in order. -/
def all : List JsonType := [.string, .number, .boolean, .object, .array, .dictionary, .binary]

/-- The word for one. -/
def name : JsonType → String
  | .string => "string"
  | .number => "number"
  | .boolean => "boolean"
  | .object => "object"
  | .array => "array"
  | .dictionary => "dictionary"
  | .binary => "binary"

end JsonType

/-- A generated type: the schema that it comes from, and where it lives. -/
structure TypeRef where
  schema : SchemaId
  space : String
  name : String
deriving DecidableEq

/-- The name with the namespace before it. -/
def TypeRef.fullName (type : TypeRef) : String := type.space ++ "." ++ type.name

/-- How a value is declared. `generated` is set for types that are generated. -/
structure Declaration where
  text : String
  required : Bool
  nullable : Bool
  default : String
  jsonType : JsonType
  generated : Option TypeRef
deriving DecidableEq

namespace Declaration

/-- A declaration of value kind. -/
def value (base : String) (required : Bool) (jsonType : JsonType) (default : Option String)
    (generated : Option TypeRef) : Declaration :=
  { text := if required then base else base ++ "?"
    required
    nullable := !required
    default := default.getD (if required then "default(" ++ base ++ ")" else "null")
    jsonType
    generated }

/-- A declaration of reference kind. -/
def reference (base : String) (required : Bool) (jsonType : JsonType) (default : Option String)
    (generated : Option TypeRef) : Declaration :=
  { text := base
    required
    nullable := true
    default := default.getD "null"
    jsonType
    generated }

end Declaration
end CmdletForge
