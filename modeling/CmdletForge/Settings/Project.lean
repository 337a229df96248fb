import CmdletForge.Naming.Casing
import CmdletForge.Settings.Layout
import CmdletForge.Settings.Reading

/-!
# The settings of a project

Names, folders, files, switches and metadata of a project. Every setting is read from a key of its
own, in a fixed order; one that is not set follows from those read before it.
-/

namespace CmdletForge

/-- The settings of a project. -/
structure ProjectSettings where
  moduleName : String
  moduleVersion : String
  dllName : String
  space : String
  serviceName : String
  helpLink : String := ""
  azure : Bool := false
  skipModelCmdlets : Bool := true
  profiles : List String := []
  accountsVersionMinimum : String
  folders : Folders
  files : ProjectFiles
  metadata : Metadata := {}
deriving DecidableEq

namespace ProjectSettings

/-- The least version of the accounts module that generated modules depend on. -/
def leastAccountsVersion : String := "1.6.0"

/-- Settings with all that may be left out left out. -/
def withDefaults (moduleName moduleVersion dllName space : String) : ProjectSettings :=
  let folders := Folders.derive "." "./generated"
  { moduleName, moduleVersion, dllName, space
    serviceName := Naming.toPascalCase moduleName
    accountsVersionMinimum := leastAccountsVersion
    folders
    files := ProjectFiles.derive folders moduleName dllName }

/-- The text without an ending, if it has it. -/
def dropEnding (ending text : String) : String :=
  let cut := text.toList.length - ending.toList.length
  if text.toList.drop cut = ending.toList && ending.toList.length ≤ text.toList.length then
    String.ofList (text.toList.take cut)
  else text

/-- The name of the library without its ending. -/
def assemblyName (settings : ProjectSettings) : String := dropEnding ".dll" settings.dllName

/-- Reads the folders. -/
def loadFolders (config : Config) : Reporting Folders := do
  let base ← config.valueOr "current-folder" "."
  let module ← config.valueOr "module-folder" (base ++ "/generated")
  let derived := Folders.derive base module
  let cmdlet ← config.valueOr "cmdlet-folder" derived.cmdlet
  let modelCmdlet ← config.valueOr "model-cmdlet-folder" derived.modelCmdlet
  let custom ← config.valueOr "custom-cmdlet-folder" derived.custom
  let internal ← config.valueOr "internal-cmdlet-folder" derived.internal
  let test ← config.valueOr "test-folder" derived.test
  let runtime ← config.valueOr "runtime-folder" derived.runtime
  let api ← config.valueOr "api-folder" derived.api
  let bin ← config.valueOr "bin-folder" derived.bin
  let obj ← config.valueOr "obj-folder" derived.obj
  let exports ← config.valueOr "exports-folder" derived.exports
  let docs ← config.valueOr "docs-folder" derived.docs
  let dependencyModule ← config.valueOr "dependency-module-folder" derived.dependencyModule
  let examples ← config.valueOr "examples-folder" derived.examples
  let resources ← config.valueOr "resources-folder" derived.resources
  return { base, module, cmdlet, modelCmdlet, custom, internal, test, runtime, api, bin, obj, exports,
           docs, dependencyModule, examples, resources }

/-- Reads the files. Those of the repository lie where they always do. -/
def loadFiles (config : Config) (folders : Folders) (moduleName dllName : String) :
    Reporting ProjectFiles := do
  let derived := ProjectFiles.derive folders moduleName dllName
  let csproj ← config.valueOr "csproj" derived.csproj
  let dll ← config.valueOr "dll" derived.dll
  let psd1 ← config.valueOr "psd1" derived.psd1
  let psm1 ← config.valueOr "psm1" derived.psm1
  let psm1Custom ← config.valueOr "psm1-custom" derived.psm1Custom
  let psm1Internal ← config.valueOr "psm1-internal" derived.psm1Internal
  let formatPs1xml ← config.valueOr "format-ps1xml" derived.formatPs1xml
  let nuspec ← config.valueOr "nuspec" derived.nuspec
  return { derived with csproj, dll, psd1, psm1, psm1Custom, psm1Internal, formatPs1xml, nuspec }

/-- Reads all settings. The service is named after the title of the API or, without one, after the
module. -/
def load (config : Config) (title : String) : Reporting ProjectSettings := do
  let moduleVersion ← config.required "module-version"
  let helpLink ← config.valueOr "help-link-prefix" ""
  let profiles ← config.valueOr "profiles" []
  let skipModelCmdlets ← config.valueOr "skip-model-cmdlets" true
  let azure ← config.valueOr "azure" false
  let moduleName ← config.required "module-name"
  let dllName ← config.required "dll-name"
  let space ← config.valueOr "namespace" moduleName
  let serviceName ← config.valueOr "service-name" (Naming.pascalOr moduleName title)
  let folders ← loadFolders config
  let files ← loadFiles config folders moduleName dllName
  let metadata ← config.valueOr "metadata" {}
  note (.debug "project settings loaded" [("module", .text moduleName), ("namespace", .text space)])
  return { moduleName, moduleVersion, dllName, space, serviceName, helpLink, azure, skipModelCmdlets,
           profiles, accountsVersionMinimum := leastAccountsVersion, folders, files, metadata }

end ProjectSettings
end CmdletForge
