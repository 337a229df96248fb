import CmdletForge.Namespace.Models
import CmdletForge.Settings.Reading

/-!
# The namespace of commands

A command is named by a verb and a noun, which come from the identifier of an operation. Operations
of the same verb and noun are variants of one command, told apart by their parameters. The types that
only operations mention live in a namespace of their own beside the commands.
-/

namespace CmdletForge

/-! ## Names -/

/-- The name of a command. -/
structure CommandName where
  verb : String
  noun : String
deriving DecidableEq

namespace CommandName

/-- The verb and the noun with a dash between. -/
def text (name : CommandName) : String := name.verb ++ "-" ++ name.noun

/-- The parts of an identifier before and after its first underscore. -/
def splitGroup? (id : String) : Option (String × String) :=
  match id.toList.dropWhile (· ≠ '_') with
  | [] => none
  | _ :: action => some (String.ofList (id.toList.takeWhile (· ≠ '_')), String.ofList action)

/-- The words of an operation's group and of its action. Without an action after the underscore the
whole identifier is the action. -/
def groupAndAction (id : String) : List String × List String :=
  let whole := ([], Naming.words id)
  match splitGroup? id with
  | none => whole
  | some (group, action) =>
    if (Naming.words action).isEmpty then whole else (Naming.words group, Naming.words action)

/-- The words of what a command acts on: the group or, without one, what follows the verb. The
service stands in where there is neither. -/
def subject (group rest : List String) (service : String) : List String :=
  let own := if group.isEmpty then rest else group
  if own.isEmpty then Naming.words service else own

/-- The name of the command of an operation. The verb is the first word of the action; the noun is
what it acts on, after the two configured beginnings. -/
def ofOperation (id namePrefix subjectPrefix service : String) : CommandName :=
  let (group, action) := groupAndAction id
  let (verb, rest) := match action with
    | [] => ("Invoke", [])
    | verb :: rest => (Naming.pascalCase [verb], rest)
  { verb
    noun := Naming.toPascalCase namePrefix ++ Naming.toPascalCase subjectPrefix ++
      Naming.pascalCase (subject group rest service) }

/-- The name of the class of a variant. -/
def className (name : CommandName) (variant : String) : String :=
  name.verb ++ name.noun ++ "_" ++ variant

end CommandName

/-! ## Definitions -/

/-- A parameter of a command. -/
structure ParameterDefinition where
  name : String
  wireName : String
  location : Location
  declaration : Declaration
  required : Bool
  position : Option Nat
  aliases : List String
  description : Option String
deriving DecidableEq

/-- A variant of a command: one set of parameters. -/
structure CommandVariant where
  name : String
  operation : Option String
  className : String
  parameters : List ParameterDefinition
  output : Option Declaration
  description : Option String
deriving DecidableEq

/-- A command. -/
structure CommandDefinition where
  name : CommandName
  variants : List CommandVariant := []
deriving DecidableEq

instance : Named CommandDefinition := ⟨fun command => command.name.text⟩

namespace CommandDefinition

/-- The name that a new variant gets. -/
def variantName (command : CommandDefinition) (name : String) : String :=
  Naming.uniqueName (command.variants.map (·.name)) name

/-- Adds a variant. If its name is taken it gets a number, and its class is named anew. -/
def addVariant (command : CommandDefinition) (variant : CommandVariant) : CommandDefinition :=
  let name := command.variantName variant.name
  let variant :=
    if name = variant.name then variant
    else { variant with name, className := command.name.className name }
  { command with variants := command.variants ++ [variant] }

/-- What the log says when a variant is added whose name is taken. -/
def clashLines (command : CommandDefinition) (variant : CommandVariant) : List LogLine :=
  let name := command.variantName variant.name
  if name = variant.name then []
  else
    [.warning "variant name collision resolved by suffix"
      [("cmdlet", .text command.name.text), ("variant", .text variant.name), ("name", .text name)]]

end CommandDefinition

namespace Commands

/-! ## Variants -/

/-- The texts are the same but for the case of ASCII letters. -/
def sameName (a b : String) : Bool := a.toList.map Char.toLower == b.toList.map Char.toLower

/-- Texts added to a list, each once and none that is the name itself. -/
def addAliases (name : String) (aliases : List String) : List String → List String
  | [] => aliases
  | text :: rest =>
    if sameName text name || aliases.contains text then addAliases name aliases rest
    else addAliases name (aliases ++ [text]) rest

/-- The aliases of a parameter: those declared, then the name on the wire. -/
def aliasesOf (name : String) (parameter : Parameter) : List String :=
  addAliases name [] (parameter.aliases ++ [parameter.name])

/-- The parameters of a variant. One that cannot be declared is left out. Required parameters of the
path are numbered from `position` on. -/
def defineParameters (operation : String) :
    (taken : List String) → (position : Nat) → List Parameter → Synthesis (List ParameterDefinition)
  | _, _, [] => pure []
  | taken, position, parameter :: rest => do
    match ← Synthesis.declare? parameter.schema parameter.required with
    | none => defineParameters operation taken position rest
    | some declaration =>
      let candidate := Naming.pascalOr "Parameter" parameter.name
      let name := Naming.uniqueName taken candidate
      if name ≠ candidate then
        Synthesis.note (.warning "parameter name collision resolved by suffix"
          [("operation", .text operation), ("parameter", .text parameter.name), ("name", .text name)])
      let positional := parameter.required && parameter.location = .path
      let definition : ParameterDefinition :=
        { name, wireName := parameter.name, location := parameter.location, declaration,
          required := parameter.required, position := if positional then some position else none,
          aliases := aliasesOf name parameter, description := parameter.description }
      let next := if positional then position + 1 else position
      return definition :: (← defineParameters operation (name :: taken) next rest)

/-- The declaration of what an operation answers. -/
def declareOutput : Option SchemaId → Synthesis (Option Declaration)
  | none => pure none
  | some id => Synthesis.declare? id true

/-- The variant of an operation. -/
def defineVariant (operation : Operation) (name : CommandName) : Synthesis CommandVariant := do
  let parameters ← defineParameters operation.id [] 0 operation.parameters
  let output ← declareOutput operation.response
  let variant := Naming.pascalOr "Default" operation.id
  return { name := variant, operation := some operation.id, className := name.className variant,
           parameters, output, description := operation.description }

/-! ## Commands -/

/-- Adds a variant to the command with a name, which is added if there is none yet. -/
def addVariant (commands : Namespace CommandDefinition) (name : CommandName)
    (variant : CommandVariant) : Synthesis (Namespace CommandDefinition) := do
  match ← Synthesis.orFail (commands.update name.text (·.addVariant variant)) with
  | some updated =>
    match commands.get? name.text with
    | some command => Synthesis.noteAll (command.clashLines variant)
    | none => pure ()
    pure updated
  | none => Synthesis.orFail (commands.insert (({ name } : CommandDefinition).addVariant variant))

/-- The two configured beginnings of nouns, the commands, and the types of their own. -/
structure CommandSpaces where
  namePrefix : String
  subjectPrefix : String
  commands : Namespace CommandDefinition
  models : Namespace ModelDefinition

/-- Adds the commands of operations, and after each the types that it brought. -/
def addAll (service : Service) : List Operation → CommandSpaces → Synthesis CommandSpaces
  | [], spaces => pure spaces
  | operation :: rest, spaces => do
    let name :=
      CommandName.ofOperation operation.id spaces.namePrefix spaces.subjectPrefix service.name
    let variant ← defineVariant operation name
    Synthesis.note (.debug "command synthesized"
      [("cmdlet", .text name.text), ("variant", .text variant.name)])
    let commands ← addVariant spaces.commands name variant
    let models ← Models.drainAll spaces.models
    addAll service rest { spaces with commands, models }

/-- Builds the namespaces of the commands and their types. -/
def build (service : Service) (config : Config) : Synthesis CommandSpaces := do
  let namePrefix ← Synthesis.report (config.valueOr "prefix" "")
  let subjectPrefix ← Synthesis.report (config.valueOr "subject-prefix" "")
  let commands ← Synthesis.begin { fullName := service.child "Cmdlets" }
  let models ← Synthesis.begin { fullName := service.child "Cmdlets.Models" }
  Synthesis.setOwner models.fullName
  let spaces ← addAll service (← read).model.operations { namePrefix, subjectPrefix, commands, models }
  let commands ← Synthesis.finalize spaces.commands
  let models ← Synthesis.finalize spaces.models
  return { spaces with commands, models }

end Commands
end CmdletForge
