/-!
# The service

The root of the namespaces: the namespace of the project, and the name of the service.
-/

namespace CmdletForge

/-- The namespace of the project and the name of the service. -/
structure Service where
  space : String
  name : String

/-- The full name of a namespace in that of the project. -/
def Service.child (service : Service) (segment : String) : String := service.space ++ "." ++ segment

end CmdletForge
