import CmdletForge.Namespace.ModelCommands
import CmdletForge.Namespace.Support
import CmdletForge.Project.Document
import CmdletForge.Schema.Validation

/-!
# Assembling a project

The faults of the model, the settings, and the namespaces in order, each on what those before it
found. Failures are collected on the way; there is a project only if there are none.
-/

namespace CmdletForge

/-- What assembling comes to. -/
inductive Outcome where
  | assembled (project : Project)
  | aborted (failures : List Failure)
  | noSchema (id : SchemaId)

namespace Assembly

/-- The overrides of a project: the switch comes first. -/
def resolver (overrides : List TypeOverride) : Resolver := ⟨.switch :: overrides⟩

/-- Records failures. -/
def recordAll (failures : List Failure) : Reporting Unit := failures.forM record

/-- Fills the namespace of the model commands, or seals it empty. -/
def modelCommands (settings : ProjectSettings) (service : Service) (models : Namespace ModelDefinition)
    (commands : Commands.CommandSpaces) : Synthesis (Namespace CommandDefinition) :=
  let space := ModelCommands.start service
  if settings.skipModelCmdlets then ModelCommands.skip space
  else ModelCommands.build space models commands

/-- The steps of assembling. -/
def steps (config : Config) : Synthesis Project := do
  let source ← read
  let model := source.model
  Synthesis.note (.info "assembling project" [("api", .text model.title)])
  Synthesis.report (recordAll (model.issues.map .invalidModel))
  let settings ← Synthesis.report (ProjectSettings.load config model.title)
  source.resolver.overrides.forM fun override => Synthesis.note override.registrationLine
  let service : Service := ⟨settings.space, settings.serviceName⟩
  let support ← Support.build service
  let models ← Models.build service
  let commands ← Commands.build service config
  let modelCommands ← modelCommands settings service models commands
  return { settings, service, support, models, commands, modelCommands }

/-- What the log says of a project that was assembled. -/
def assembledLine (project : Project) : LogLine :=
  .info "project assembled"
    [("module", .text project.settings.moduleName), ("models", .count project.models.size),
      ("cmdlets", .count project.commands.commands.size)]

/-- Assembles a project and reports on it. A fatal failure is the last one recorded. -/
def run (config : Config) (model : Model) (overrides : List TypeOverride) : Outcome × Report :=
  let (result, state) := ((steps config).run ⟨model, resolver overrides⟩).run.run {}
  match result with
  | .ok project =>
    let checked := state.report.note state.report.checkpoint.checkLine
    if checked.checkpoint.isClean then (.assembled project, checked.note (assembledLine project))
    else (.aborted checked.checkpoint.failures, checked)
  | .error (.failure failure) =>
    let recorded := state.report.record failure
    (.aborted recorded.checkpoint.failures, recorded.note recorded.checkpoint.abortLine)
  | .error (.noSchema id) => (.noSchema id, state.report)

end Assembly
end CmdletForge
