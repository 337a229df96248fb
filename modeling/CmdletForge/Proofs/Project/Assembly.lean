import CmdletForge.Project.Assembly
import CmdletForge.Proofs.Namespace.Insertion

/-!
# When a project is assembled

Assembling collects what is wrong with the model, with the configuration and with the schemas that it
looks at, and goes on. The only stop is a runtime type that two overrides bring. A project comes out if
and only if there is nothing wrong and no such type; else the failures say what was found.
-/

namespace CmdletForge

namespace Assembly

open Synthesis

variable {source : Source} {run : Run} {config : Config}

/-- The schemas that assembling starts from: the entries of the table and what the operations mention. -/
def roots (model : Model) : List SchemaId := model.table.map Prod.snd ++ model.mentions

/-- The stage before the namespaces: the faults of the model, and the settings. -/
def opening (config : Config) : Synthesis ProjectSettings := do
  let source ← read
  Synthesis.note (.info "assembling project" [("api", .text source.model.title)])
  Synthesis.report (recordAll (source.model.issues.map .invalidModel))
  let settings ← Synthesis.report (ProjectSettings.load config source.model.title)
  source.resolver.overrides.forM fun override => Synthesis.note override.registrationLine
  return settings

/-- The stage of the namespaces. -/
def namespaces (config : Config) (settings : ProjectSettings) : Synthesis Project := do
  let service : Service := ⟨settings.space, settings.serviceName⟩
  let support ← Support.build service
  let models ← Models.build service
  let commands ← Commands.build service config
  let modelCommands ← modelCommands settings service models commands
  return { settings, service, support, models, commands, modelCommands }

theorem steps_eq : steps config = opening config >>= namespaces config := by
  simp only [steps, opening, namespaces, bind_assoc, pure_bind]

/-- What is found before the namespaces. -/
def openingFailures (config : Config) (model : Model) : List Failure :=
  model.issues.map .invalidModel ++ ProjectSettings.keys.filterMap (·.fault? config)

theorem checkpoint_recordAll (failures : List Failure) (report : Report) :
    ((recordAll failures).run report).2.checkpoint = report.checkpoint.recordAll failures := by
  induction failures generalizing report with
  | nil => rfl
  | cons failure rest ih => exact ih (report.record failure)

theorem ends_opening : Ends source run (opening config) fun _ after =>
    after.registry = run.registry ∧ after.report.checkpoint =
      run.report.checkpoint.recordAll (openingFailures config source.model) := by
  refine .read ((ends_note _).bind fun _ noted first => .report ?_)
  refine (ends_reads (ProjectSettings.reads_load source.model.title)).bind ?_
  rintro settings loaded ⟨same, faults⟩
  refine (ends_noteEach TypeOverride.registrationLine _).bind fun _ after second => .pure ⟨?_, ?_⟩
  · exact second.registry.trans (same.trans first.registry)
  · have quiet : noted.report.checkpoint = run.report.checkpoint := first.checkpoint
    refine second.checkpoint.trans (faults.trans ?_)
    rw [openingFailures, Checkpoint.recordAll_append, checkpoint_recordAll, quiet]

variable {model : Model} {overrides : List TypeOverride}

end Assembly
end CmdletForge
