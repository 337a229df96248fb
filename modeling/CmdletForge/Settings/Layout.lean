/-!
# The layout of a generated project

Where the folders and files of a project lie, as they follow from its base folder, the folder of the
generated module, and the names of the module and its library.
-/

namespace CmdletForge

/-- The folders of a project. -/
structure Folders where
  base : String
  module : String
  cmdlet : String
  modelCmdlet : String
  custom : String
  internal : String
  test : String
  runtime : String
  api : String
  bin : String
  obj : String
  exports : String
  docs : String
  dependencyModule : String
  examples : String
  resources : String
deriving DecidableEq

/-- The folders under a base folder and the folder of the module. -/
def Folders.derive (base module : String) : Folders where
  base := base
  module := module
  cmdlet := module ++ "/cmdlets"
  modelCmdlet := module ++ "/model-cmdlets"
  custom := base ++ "/custom"
  internal := base ++ "/internal"
  test := base ++ "/test"
  runtime := module ++ "/runtime"
  api := module ++ "/api"
  bin := base ++ "/bin"
  obj := base ++ "/obj"
  exports := base ++ "/exports"
  docs := base ++ "/docs"
  dependencyModule := module ++ "/modules"
  examples := base ++ "/examples"
  resources := base ++ "/resources"

/-- The files of a project that are known by their role. -/
structure ProjectFiles where
  csproj : String
  dll : String
  psd1 : String
  psm1 : String
  psm1Custom : String
  psm1Internal : String
  formatPs1xml : String
  nuspec : String
  gitIgnore : String
  gitAttributes : String
  readme : String
deriving DecidableEq

/-- The files of a module in its folders. -/
def ProjectFiles.derive (folders : Folders) (moduleName dllName : String) : ProjectFiles where
  csproj := folders.base ++ "/" ++ moduleName ++ ".csproj"
  dll := folders.bin ++ "/" ++ dllName
  psd1 := folders.base ++ "/" ++ moduleName ++ ".psd1"
  psm1 := folders.base ++ "/" ++ moduleName ++ ".psm1"
  psm1Custom := folders.custom ++ "/" ++ moduleName ++ ".custom.psm1"
  psm1Internal := folders.internal ++ "/" ++ moduleName ++ ".internal.psm1"
  formatPs1xml := folders.base ++ "/" ++ moduleName ++ ".format.ps1xml"
  nuspec := folders.base ++ "/" ++ moduleName ++ ".nuspec"
  gitIgnore := folders.base ++ "/.gitignore"
  gitAttributes := folders.base ++ "/.gitattributes"
  readme := folders.base ++ "/readme.md"

end CmdletForge
