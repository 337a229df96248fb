import CmdletForge.Types.Override
import CmdletForge.Types.Registry

/-!
# How a schema is declared

Lists and maps are declared by what they hold, so a schema is followed through them down to its
core: the first schema that is no collection or that an override applies to. The core decides the
declaration, and each collection on the way wraps it. A collection that holds itself, with nothing
else between, has no core.

An override comes before the declaration by kind; the first that applies wins. Objects, enumerations
and unions are types of their own and are registered when they are first declared.
-/

namespace CmdletForge

/-- What stops a step: a failure, or a schema that the model does not have. -/
inductive Stop where
  | failure (f : Failure)
  | noSchema (id : SchemaId)

/-- A schema in no declarable shape. -/
def Schema.unsupported (schema : Schema) (kind : String) : Stop :=
  .failure (.unsupportedSchema schema.path kind)

/-- The overrides, first the one that counts first. -/
structure Resolver where
  overrides : List TypeOverride := []

/-! ## The core of a schema -/

/-- A collection around a core. -/
inductive Wrapper where
  | list
  | dictionary
deriving DecidableEq

/-- A declaration inside a collection. Collections are of reference kind. -/
def Wrapper.wrap (wrapper : Wrapper) (required : Bool) (element : Declaration) : Declaration :=
  match wrapper with
  | .list => .reference (element.text ++ "[]") required .array none none
  | .dictionary =>
    .reference ("global::System.Collections.Generic.IDictionary<string, " ++ element.text ++ ">")
      required .dictionary none none

/-- The schema that decides a declaration, with the collections around it, outermost first. -/
structure Core where
  wrappers : List Wrapper
  id : SchemaId
  schema : Schema

namespace Resolver

/-- The override that applies to a schema. -/
def override? (resolver : Resolver) (schema : Schema) : Option TypeOverride :=
  resolver.overrides.find? fun override => override.applies schema

/-- The collection that a schema is, unless an override applies to it. -/
def wrapper? (resolver : Resolver) (schema : Schema) : Option Wrapper :=
  if (resolver.override? schema).isSome then none
  else
    match schema.kind with
    | .array => some .list
    | .map => some .dictionary
    | _ => none

/-- What is said of a collection that does not say what it holds. -/
def withoutItems : Wrapper → String
  | .list => "array without items"
  | .dictionary => "map without items"

/-- Follows a schema to its core. `inside` are the collections that it was found in; as none of them
may come twice, no more steps are needed than the model has schemas, and one. -/
def coreFrom (resolver : Resolver) (model : Model) :
    (steps : Nat) → (inside : List SchemaId) → SchemaId → Except Stop Core
  | 0, _, id => .error (.noSchema id)
  | steps + 1, inside, id =>
    match model.schema? id with
    | none => .error (.noSchema id)
    | some schema =>
      match resolver.wrapper? schema with
      | none => .ok ⟨[], id, schema⟩
      | some wrapper =>
        match schema.items with
        | none => .error (schema.unsupported (withoutItems wrapper))
        | some items =>
          if id ∈ inside then .error (schema.unsupported "recursive collection")
          else
            match resolver.coreFrom model steps (id :: inside) items with
            | .error stop => .error stop
            | .ok core => .ok { core with wrappers := wrapper :: core.wrappers }

/-- The core of a schema. -/
def core (resolver : Resolver) (model : Model) (id : SchemaId) : Except Stop Core :=
  resolver.coreFrom model (model.size + 2) [] id

/-! ## Declarations -/

/-- How a primitive is declared, and what it is in JSON. -/
def primitiveBase : Primitive → String × JsonType
  | .string => ("string", .string)
  | .uuid => ("string", .string)
  | .int32 => ("int", .number)
  | .int64 => ("long", .number)
  | .number => ("double", .number)
  | .float => ("float", .number)
  | .dateTime => ("global::System.DateTime", .string)
  | .date => ("global::System.DateTime", .string)
  | .duration => ("global::System.TimeSpan", .string)
  | .byteArray => ("byte[]", .string)
  | .binary => ("global::System.IO.Stream", .binary)

/-- The declaration of a primitive. -/
def primitive (p : Primitive) (default : Option Json) (required : Bool) : Declaration :=
  let (base, jsonType) := primitiveBase p
  let literal := default.bind Literal.scalar?
  if p.isValueType then .value base required jsonType literal none
  else .reference base required jsonType literal none

/-- The member of an enumeration that a default names. -/
def memberText (type : TypeRef) : Json → Option String
  | .str member => some (type.fullName ++ "." ++ Naming.toPascalCase member)
  | _ => none

/-- Steps that may register types. A step that stops registers none. -/
abbrev Registering := StateT Registry (Except Stop)

/-- Registers the type of a schema. -/
def registered (id : SchemaId) (schema : Schema) : Registering TypeRef :=
  modifyGet fun registry => registry.register id schema

/-- The declaration of an object or a union: its own type. -/
def structureType (id : SchemaId) (schema : Schema) (required : Bool) : Registering Declaration := do
  let type ← registered id schema
  return .reference type.fullName required .object none (some type)

/-- The declaration of a schema by its kind. Collections are declared by their core. -/
def byKind (id : SchemaId) (schema : Schema) (required : Bool) : Registering Declaration :=
  match schema.kind with
  | .primitive p => pure (primitive p schema.default required)
  | .boolean => pure (.value "bool" required .boolean (schema.default.bind Literal.flag?) none)
  | .enumeration => do
    let type ← registered id schema
    return .value type.fullName required .string (schema.default.bind (memberText type)) (some type)
  | .object => structureType id schema required
  | .union =>
    if schema.discriminator.isNone then
      throw (schema.unsupported "polymorphic-union without discriminator")
    else structureType id schema required
  | .array => throw (schema.unsupported (withoutItems .list))
  | .map => throw (schema.unsupported (withoutItems .dictionary))
  | .unsupported kind => throw (schema.unsupported kind)

/-- The declaration of a core. -/
def declareCore (resolver : Resolver) (core : Core) (required : Bool) : Registering Declaration :=
  match resolver.override? core.schema with
  | some override => pure (override.declare core.schema required)
  | none => byKind core.id core.schema required

/-- A declaration inside collections. Only the outermost is as required as was asked for: what a
collection holds is always there. -/
def wrapAll (required : Bool) (element : Declaration) : List Wrapper → Declaration
  | [] => element
  | wrapper :: rest => wrapper.wrap required (wrapAll true element rest)

/-- The declaration of a schema, for a value that is required or not. -/
def resolve (resolver : Resolver) (model : Model) (id : SchemaId) (required : Bool) :
    Registering Declaration := do
  let core ← resolver.core model id
  let element ← resolver.declareCore core (required || !core.wrappers.isEmpty)
  return wrapAll required element core.wrappers

end Resolver

/-- What the log says when an override is registered. -/
def TypeOverride.registrationLine (override : TypeOverride) : LogLine :=
  .debug "type override registered" [("name", .text override.name)]

end CmdletForge
