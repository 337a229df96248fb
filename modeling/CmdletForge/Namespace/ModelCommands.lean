import CmdletForge.Namespace.Commands

/-!
# The namespace of model commands

One command for every generated class, which makes an object of it: its parameters are the
properties of the class. A project may do without them; then the namespace is sealed empty.
-/

namespace CmdletForge.ModelCommands

/-- The namespace before anything is in it. -/
def start (service : Service) : Namespace CommandDefinition :=
  { fullName := service.child "ModelCmdlets" }

/-- The parameter of a property. -/
def parameterOf (property : PropertyDefinition) : ParameterDefinition :=
  { name := property.name, wireName := property.wireName, location := .body,
    declaration := property.declaration, required := property.required, position := none,
    aliases := [], description := property.description }

/-- The name of the command of a class. -/
def nameOf (spaces : Commands.CommandSpaces) (model : ModelDefinition) : CommandName :=
  { verb := "New"
    noun := Naming.toPascalCase spaces.namePrefix ++ Naming.toPascalCase spaces.subjectPrefix ++
      model.name ++ "Object" }

/-- The command of a class. -/
def define (spaces : Commands.CommandSpaces) (model : ModelDefinition) : CommandDefinition :=
  let name := nameOf spaces model
  ({ name } : CommandDefinition).addVariant
    { name := "Default", operation := none, className := name.className "Default"
      parameters := model.properties.map parameterOf
      output := some (.reference model.fullName true .object none none)
      description := model.description }

/-- Adds the commands of classes. -/
def addAll (spaces : Commands.CommandSpaces) : List ModelDefinition → Namespace CommandDefinition →
    Synthesis (Namespace CommandDefinition)
  | [], space => pure space
  | model :: rest, space => do
    Synthesis.note (.debug "model cmdlet synthesized"
      [("cmdlet", .text (nameOf spaces model).text), ("model", .text model.fullName)])
    let space ← Synthesis.orFail (space.insert (define spaces model))
    addAll spaces rest space

/-- Fills the namespace with the commands of the classes among the models. -/
def build (space : Namespace CommandDefinition) (models : Namespace ModelDefinition)
    (spaces : Commands.CommandSpaces) : Synthesis (Namespace CommandDefinition) := do
  let space ← Synthesis.begin space
  let space ← addAll spaces (models.definitions.filter fun model => model.form = .record) space
  Synthesis.finalize space

/-- Seals the namespace without commands. -/
def skip (space : Namespace CommandDefinition) : Synthesis (Namespace CommandDefinition) := do
  Synthesis.note (.debug "model cmdlets skipped" [("namespace", .text space.fullName)])
  Synthesis.finalize space

end CmdletForge.ModelCommands
