import CmdletForge.Generation.Report
import CmdletForge.Naming.Casing
import CmdletForge.Naming.Unique
import CmdletForge.Types.Declaration

/-!
# The registry of generated types

Every schema that needs a type of its own is registered once, under the namespace that owns new
types at the time. A type is named as its schema is declared or, without a name, after the words of
its path; a number keeps it apart from earlier types of its namespace. New types wait in a queue to
be defined.
-/

namespace CmdletForge

/-- The types in order of registration, those that still wait to be defined, and the namespace that
owns new types. -/
structure Registry where
  types : List TypeRef := []
  pending : List SchemaId := []
  owner : String := ""

/-! ## Names of types -/

/-- Parts of a path that say how a description is built and not what it is about. -/
def structuralSegments : List String :=
  ["schemas", "properties", "operations", "parameters", "items", "additionalProperties", "oneOf"]

/-- The parts of a path between slashes. -/
def segments (path : String) : List String := (split path.toList).map String.ofList
where
  /-- The parts of a list of characters. -/
  split : List Char → List (List Char)
    | [] => [[]]
    | '/' :: rest => [] :: split rest
    | c :: rest =>
      match split rest with
      | [] => [[c]]
      | part :: parts => (c :: part) :: parts

/-- The words of a path. -/
def pathWords (path : String) : List String :=
  ((segments path).filter fun segment => segment ∉ structuralSegments).flatMap Naming.words

/-- The name that a schema's type would like to have. -/
def Schema.typeName (schema : Schema) : String :=
  let declared := (schema.name.map Naming.toPascalCase).getD ""
  if !declared.isEmpty then declared
  else
    let synthesized := Naming.pascalCase (pathWords schema.path)
    if synthesized.isEmpty then "AnonymousType" else synthesized

namespace Registry

/-- The type of a schema, if it is registered. -/
def lookup (registry : Registry) (id : SchemaId) : Option TypeRef :=
  registry.types.find? (·.schema = id)

/-- How many types are registered. -/
def size (registry : Registry) : Nat := registry.types.length

/-- The names of the types in a namespace. -/
def namesIn (registry : Registry) (space : String) : List String :=
  (registry.types.filter (·.space = space)).map (·.name)

/-- Makes a namespace the owner of new types. -/
def setOwner (registry : Registry) (space : String) : Registry := { registry with owner := space }

/-- The type that waits longest, and the registry without it in the queue. -/
def nextPending (registry : Registry) : Option SchemaId × Registry :=
  match registry.pending with
  | [] => (none, registry)
  | id :: rest => (some id, { registry with pending := rest })

/-- A new type for a schema that is not registered. -/
def newType (registry : Registry) (id : SchemaId) (schema : Schema) : TypeRef :=
  ⟨id, registry.owner, Naming.uniqueName (registry.namesIn registry.owner) schema.typeName⟩

/-- The type of a schema, which is registered if it was not. -/
def register (registry : Registry) (id : SchemaId) (schema : Schema) : TypeRef × Registry :=
  match registry.lookup id with
  | some type => (type, registry)
  | none =>
    let type := registry.newType id schema
    (type, { registry with types := registry.types ++ [type], pending := registry.pending ++ [id] })

/-! ## What the log says -/

/-- A new owner. -/
def ownerLine (space : String) : LogLine := .debug "type ownership moved" [("namespace", .text space)]

/-- A new type, with a warning before it if its name was taken. -/
def typeLines (schema : Schema) (type : TypeRef) : List LogLine :=
  let clash : List LogLine :=
    if type.name ≠ schema.typeName then
      [.warning "generated type name collision resolved by suffix"
        [("path", .text schema.path), ("candidate", .text schema.typeName), ("name", .text type.name)]]
    else []
  clash ++
    [.debug "generated type registered" [("path", .text schema.path), ("type", .text type.fullName)]]

/-- The types that were registered after an earlier state. -/
def newSince (registry before : Registry) : List TypeRef := registry.types.drop before.size

end Registry
end CmdletForge
