import CmdletForge.Schema.Model
import CmdletForge.Text.Blank

/-!
# Faults of a model

Blank and repeated names, and required properties that an object does not have. Every fault is
reported, in the order of the table, the schemas and the operations.
-/

namespace CmdletForge

/-- A fault of a model. -/
inductive ModelIssue where
  | emptySchemaName
  | duplicateSchemaName (name : String)
  | emptyOperationId
  | duplicateOperationId (id : String)
  | duplicateParameter (operation parameter : String)
  | requiredPropertyMissing (path property : String)
deriving DecidableEq

/-- The wording of a fault. -/
def ModelIssue.message : ModelIssue → String
  | .emptySchemaName => "schema name cannot be empty"
  | .duplicateSchemaName name => "duplicate schema name: " ++ name
  | .emptyOperationId => "operation id cannot be empty"
  | .duplicateOperationId id => "duplicate operation id: " ++ id
  | .duplicateParameter operation parameter =>
    "duplicate parameter '" ++ parameter ++ "' in operation " ++ operation
  | .requiredPropertyMissing path property =>
    "required property '" ++ property ++ "' is not declared at " ++ path

/-- The texts that repeat one that was seen or that stands earlier, in order. -/
def repeated (seen : List String) : List String → List String
  | [] => []
  | text :: rest =>
    if text ∈ seen then text :: repeated seen rest else repeated (text :: seen) rest

namespace Model

/-- Faults of the names in the table. -/
def nameIssues (seen : List String) : List String → List ModelIssue
  | [] => []
  | name :: rest =>
    if Text.isBlankText name then .emptySchemaName :: nameIssues seen rest
    else if name ∈ seen then .duplicateSchemaName name :: nameIssues seen rest
    else nameIssues (name :: seen) rest

/-- The required properties that an object does not have. -/
def objectIssues (schema : Schema) : List ModelIssue :=
  if schema.kind = .object then
    (schema.required.filter fun name => !(schema.properties.any (·.name = name))).map
      (.requiredPropertyMissing schema.path)
  else []

/-- The parameters that an operation has more than once; blank operations are passed over. -/
def parameterIssues (id : String) (parameters : List Parameter) : List ModelIssue :=
  (repeated [] (parameters.map (·.name))).map (.duplicateParameter id)

/-- Faults of the operations. Their identifiers count without white space around them. -/
def operationIssues (seen : List String) : List Operation → List ModelIssue
  | [] => []
  | operation :: rest =>
    let id := Text.trim operation.id
    if id.isEmpty then .emptyOperationId :: operationIssues seen rest
    else
      let own := if id ∈ seen then [.duplicateOperationId id] else []
      own ++ parameterIssues id operation.parameters ++ operationIssues (id :: seen) rest

/-- All faults of a model. -/
def issues (model : Model) : List ModelIssue :=
  nameIssues [] (model.table.map Prod.fst) ++ model.schemas.flatMap objectIssues ++
    operationIssues [] model.operations

end Model
end CmdletForge
