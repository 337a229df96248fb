import CmdletForge.Json.Printer
import CmdletForge.Output.Descriptor
import CmdletForge.Output.Substitution
import CmdletForge.Project.Document

/-!
# Emitting a project

The descriptor and the model of a project are staged, in this order, with the legacy names in both
replaced. Nothing is staged if the two have one path.
-/

namespace CmdletForge

/-- Steps that stage files. What was staged before a step fails stays staged. -/
abbrev Emitting := ExceptT PathTaken (StateM Staging)

/-- Stages a file. -/
def stage (file : StagedFile) : Emitting Unit := do
  match (← get).stage file with
  | .ok staging => set staging
  | .error e => throw e

namespace Project

/-- The path of the project model. -/
def modelPath (project : Project) : String :=
  project.settings.folders.module ++ "/" ++ project.settings.moduleName ++ ".model.json"

/-- The legacy names, and what they become in this project. -/
def substitutions (project : Project) : SubstitutionTable :=
  SubstitutionTable.legacyRuntime project.settings.space

/-- The file of the descriptor. -/
def descriptorFile (project : Project) (descriptor : Descriptor) : StagedFile where
  path := descriptor.path project.settings
  content := project.substitutions.apply (descriptor.render project.settings)
  sourceMap := none
  contentType := descriptor.contentType

/-- The file of the project model. -/
def modelFile (project : Project) : StagedFile where
  path := project.modelPath
  content := project.substitutions.apply project.document.pretty
  sourceMap := none
  contentType := .json

/-- Stages the descriptor and the project model. -/
def emit (project : Project) (descriptor : Descriptor) : Emitting Unit := do
  let descriptorFile := project.descriptorFile descriptor
  let modelFile := project.modelFile
  if descriptorFile.path = modelFile.path then throw ⟨modelFile.path⟩
  stage descriptorFile
  stage modelFile

/-- What the log says when a project is emitted. -/
def emissionLines (project : Project) (descriptor : Descriptor) (succeeded : Bool) : List LogLine :=
  project.substitutions.applyLines (descriptor.render project.settings) ++
    project.substitutions.applyLines project.document.pretty ++
    if succeeded then
      [.info "project emitted"
        [("descriptor", .text (descriptor.path project.settings)), ("model", .text project.modelPath)]]
    else []

end Project
end CmdletForge
