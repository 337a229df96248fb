import CmdletForge.Generation.Synthesis
import CmdletForge.Namespace.Service

/-!
# The namespace of runtime types

One definition for every runtime type that an override brings with it.
-/

namespace CmdletForge

/-- A runtime type that generated code relies on. -/
structure SupportDefinition where
  name : String
  fullName : String
  declaration : String
  replaces : String
deriving DecidableEq

instance : Named SupportDefinition := ⟨SupportDefinition.name⟩

namespace Support

/-- The definition of a runtime type. -/
def define (space : String) (type : SupportType) : SupportDefinition :=
  ⟨type.name, space ++ "." ++ type.name, type.declaration, type.replaces⟩

/-- Adds the definitions of runtime types. -/
def addAll (space : Namespace SupportDefinition) : List SupportType →
    Synthesis (Namespace SupportDefinition)
  | [] => pure space
  | type :: rest => do
    Synthesis.note (.debug "support type defined" [("name", .text type.name)])
    let space ← Synthesis.orFail (space.insert (define space.fullName type))
    addAll space rest

/-- Builds the namespace. -/
def build (service : Service) : Synthesis (Namespace SupportDefinition) := do
  let space ← Synthesis.begin { fullName := service.child "Support" }
  let types := (← read).resolver.overrides.filterMap (·.support)
  let space ← addAll space types
  Synthesis.finalize space

end Support
end CmdletForge
