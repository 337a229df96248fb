import CmdletForge.Schema.Validation

/-!
# What can go wrong in a generation

Failures of configuration, schemas and the model are collected while the generation goes on. A
namespace that is changed in the wrong phase, or that gets a name twice, stops it.
-/

namespace CmdletForge

/-- The phases of a namespace, which it goes through in this order. -/
inductive Phase where
  | constructed
  | initializing
  | finalized
deriving DecidableEq

/-- The word for a phase. -/
def Phase.name : Phase → String
  | .constructed => "constructed"
  | .initializing => "initializing"
  | .finalized => "finalized"

/-- A failure of a generation. -/
inductive Failure where
  | missingConfiguration (key : String)
  | invalidConfiguration (key reason : String)
  | unsupportedSchema (path kind : String)
  | wrongPhase (space : String) (phase : Phase)
  | duplicateDefinition (space name : String)
  | invalidModel (issue : ModelIssue)
deriving DecidableEq

namespace Failure

/-- The failure stops a generation instead of being collected. -/
def isFatal : Failure → Bool
  | .wrongPhase _ _ => true
  | .duplicateDefinition _ _ => true
  | _ => false

/-- The wording of a failure. -/
def message : Failure → String
  | .missingConfiguration key => "missing configuration value '" ++ key ++ "'"
  | .invalidConfiguration key reason => "invalid configuration value '" ++ key ++ "': " ++ reason
  | .unsupportedSchema path kind => "unsupported schema kind '" ++ kind ++ "' at " ++ path
  | .wrongPhase space phase =>
    "namespace " ++ space ++ " is " ++ phase.name ++ " and cannot be modified"
  | .duplicateDefinition space name => "namespace " ++ space ++ " already defines " ++ name
  | .invalidModel issue => "invalid model: " ++ issue.message

/-- The failures of a generation that gave up, in one text. -/
def summary (failures : List Failure) : String :=
  "generation aborted with " ++ toString failures.length ++ " error(s)" ++
    String.join (failures.map fun failure => "\n  - " ++ failure.message)

end Failure
end CmdletForge
