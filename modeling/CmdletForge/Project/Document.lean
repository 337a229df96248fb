import CmdletForge.Json.Value
import CmdletForge.Namespace.ModelCommands
import CmdletForge.Namespace.Support
import CmdletForge.Settings.Project

/-!
# The project model

A project as a JSON document: its settings and all its namespaces. The fields of every object stand
in a fixed order.
-/

namespace CmdletForge

/-- A project: its settings and its namespaces, all sealed. -/
structure Project where
  settings : ProjectSettings
  service : Service
  support : Namespace SupportDefinition
  models : Namespace ModelDefinition
  commands : Commands.CommandSpaces
  modelCommands : Namespace CommandDefinition

namespace Project.Document

/-- A number or null. -/
def ofNat? : Option Nat → Json
  | none => .null
  | some n => Json.ofNat n

/-! ## Settings -/

/-- The folders. -/
def folders (f : Folders) : Json :=
  .obj
    [("base", .str f.base), ("module", .str f.module), ("cmdlet", .str f.cmdlet),
      ("modelCmdlet", .str f.modelCmdlet), ("custom", .str f.custom), ("internal", .str f.internal),
      ("test", .str f.test), ("runtime", .str f.runtime), ("api", .str f.api), ("bin", .str f.bin),
      ("obj", .str f.obj), ("exports", .str f.exports), ("docs", .str f.docs),
      ("dependencyModule", .str f.dependencyModule), ("examples", .str f.examples),
      ("resources", .str f.resources)]

/-- The files. -/
def files (f : ProjectFiles) : Json :=
  .obj
    [("csproj", .str f.csproj), ("dll", .str f.dll), ("psd1", .str f.psd1), ("psm1", .str f.psm1),
      ("psm1Custom", .str f.psm1Custom), ("psm1Internal", .str f.psm1Internal),
      ("formatPs1xml", .str f.formatPs1xml), ("nuspec", .str f.nuspec),
      ("gitIgnore", .str f.gitIgnore), ("gitAttributes", .str f.gitAttributes),
      ("readme", .str f.readme)]

/-- The metadata. -/
def metadata (m : Metadata) : Json :=
  .obj
    [("authors", .str m.authors), ("owners", .str m.owners),
      ("requireLicenseAcceptance", .bool m.requireLicenseAcceptance),
      ("description", .str m.description), ("copyright", .str m.copyright), ("tags", .str m.tags),
      ("companyName", .str m.companyName), ("licenseUrl", .str m.licenseUrl),
      ("projectUrl", .str m.projectUrl)]

/-- The settings. -/
def settings (s : ProjectSettings) : Json :=
  .obj
    [("moduleName", .str s.moduleName), ("moduleVersion", .str s.moduleVersion),
      ("dllName", .str s.dllName), ("projectNamespace", .str s.space),
      ("serviceName", .str s.serviceName), ("helpLinkPrefix", .str s.helpLink),
      ("azure", .bool s.azure), ("skipModelCmdlets", .bool s.skipModelCmdlets),
      ("profiles", Json.ofTexts s.profiles),
      ("accountsVersionMinimum", .str s.accountsVersionMinimum), ("folders", folders s.folders),
      ("files", files s.files), ("metadata", metadata s.metadata)]

/-! ## Definitions -/

/-- A generated type, or null. -/
def typeRef? : Option TypeRef → Json
  | none => .null
  | some type =>
    .obj [("schema", Json.ofNat type.schema), ("namespace", .str type.space), ("name", .str type.name)]

/-- A declaration. -/
def declaration (d : Declaration) : Json :=
  .obj
    [("declaration", .str d.text), ("is_required", .bool d.required), ("is_nullable", .bool d.nullable),
      ("default_value", .str d.default), ("json_type", .str d.jsonType.name),
      ("generated", typeRef? d.generated)]

/-- A declaration, or null. -/
def declaration? : Option Declaration → Json
  | none => .null
  | some d => declaration d

/-- A runtime type. -/
def support (d : SupportDefinition) : Json :=
  .obj
    [("name", .str d.name), ("full_name", .str d.fullName), ("declaration", .str d.declaration),
      ("replaces", .str d.replaces)]

/-- The word for the form of a type. -/
def formName : ModelForm → String
  | .record => "class"
  | .enumeration => "enum"
  | .union => "union"

/-- A property. -/
def property (p : PropertyDefinition) : Json :=
  .obj
    [("name", .str p.name), ("serialized_name", .str p.wireName), ("required", .bool p.required),
      ("type_declaration", declaration p.declaration), ("description", Json.ofText? p.description)]

/-- A generated type. -/
def model (d : ModelDefinition) : Json :=
  .obj
    [("name", .str d.name), ("full_name", .str d.fullName), ("kind", .str (formName d.form)),
      ("schema", Json.ofNat d.schema), ("description", Json.ofText? d.description),
      ("properties", .arr (d.properties.map property)), ("enum_values", Json.ofTexts d.values),
      ("variants", Json.ofTexts d.variants), ("discriminator", Json.ofText? d.discriminator),
      ("type_converter", Json.ofText? d.converter)]

/-- A parameter. -/
def parameter (p : ParameterDefinition) : Json :=
  .obj
    [("name", .str p.name), ("serialized_name", .str p.wireName), ("location", .str p.location.name),
      ("type_declaration", declaration p.declaration), ("required", .bool p.required),
      ("position", ofNat? p.position), ("aliases", Json.ofTexts p.aliases),
      ("description", Json.ofText? p.description)]

/-- A variant. -/
def variant (v : CommandVariant) : Json :=
  .obj
    [("name", .str v.name), ("operation_id", Json.ofText? v.operation),
      ("class_name", .str v.className), ("parameters", .arr (v.parameters.map parameter)),
      ("output_type", declaration? v.output), ("description", Json.ofText? v.description)]

/-- A command. -/
def command (d : CommandDefinition) : Json :=
  .obj
    [("name", .str d.name.text), ("verb", .str d.name.verb), ("noun", .str d.name.noun),
      ("variants", .arr (d.variants.map variant))]

/-- A namespace. -/
def space {δ : Type} (definition : δ → Json) (s : Namespace δ) : Json :=
  .obj [("name", .str s.fullName), ("definitions", .arr (s.definitions.map definition))]

/-- The service. -/
def service (s : Service) : Json := .obj [("name", .str s.space), ("service_name", .str s.name)]

end Document

/-- The project as a JSON document. -/
def document (project : Project) : Json :=
  .obj
    [("settings", Document.settings project.settings), ("service", Document.service project.service),
      ("support", Document.space Document.support project.support),
      ("models", Document.space Document.model project.models),
      ("cmdlets", Document.space Document.command project.commands.commands),
      ("cmdletModels", Document.space Document.model project.commands.models),
      ("modelCmdlets", Document.space Document.command project.modelCommands)]

end Project
end CmdletForge
