import CmdletForge.Types.Declaration
import CmdletForge.Types.Literal

/-!
# Overrides of the declaration of types

An override declares the schemas that it matches in its own way. It may bring a type of the runtime
with it, on which generated code then relies.
-/

namespace CmdletForge

/-- A type of the runtime, and the kind of schema that it stands for. -/
structure SupportType where
  name : String
  declaration : String
  replaces : String
deriving DecidableEq

/-- An override. -/
structure TypeOverride where
  name : String
  applies : Schema → Bool
  declare : Schema → Bool → Declaration
  support : Option SupportType := none

namespace TypeOverride

/-- The runtime type of a switch. -/
def switchType : String := "global::System.Management.Automation.SwitchParameter"

/-- Truth values as switches. -/
def switch : TypeOverride where
  name := "switch-parameter"
  applies schema := schema.kind = .boolean
  declare schema required :=
    .value switchType required .boolean (schema.default.bind Literal.flag?) none
  support := some ⟨"SwitchParameter", switchType, Kind.boolean.label⟩

end TypeOverride
end CmdletForge
