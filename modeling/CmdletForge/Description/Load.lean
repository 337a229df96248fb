import CmdletForge.Description.Buffered
import CmdletForge.Description.Lowering
import CmdletForge.Json.Reader
import CmdletForge.Yaml.Reader

/-!
# Models from texts

A description in JSON or YAML, read and turned into a model.
-/

namespace CmdletForge

/-- Why a text gives no model. -/
inductive LoadError where
  | json (e : Json.ReadError)
  | yaml (e : Yaml.ReadError)
  | description (e : DescriptionError)

namespace Description

/-- The description that a JSON text spells. -/
def ofJson (text : String) : Except Json.ReadError Document :=
  Json.readWhole (documentReader Json.format attempt Json.maxDepth) text

/-- The description that a YAML text spells. -/
def ofYaml (text : String) : Except Yaml.ReadError Document :=
  Yaml.readWhole (documentReader Yaml.format attempt Yaml.maxDepth) text

end Description

/-- The model of a JSON text. -/
def Model.ofJson (text : String) : Except LoadError Model := do
  let document ← (Description.ofJson text).mapError .json
  document.lower.mapError .description

/-- The model of a YAML text. -/
def Model.ofYaml (text : String) : Except LoadError Model := do
  let document ← (Description.ofYaml text).mapError .yaml
  document.lower.mapError .description

end CmdletForge
