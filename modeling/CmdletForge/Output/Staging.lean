/-!
# Staged files

Finished texts are staged under their paths, each path once. They stand in the order of their paths.
-/

namespace CmdletForge

/-- What a staged text is. -/
inductive ContentType where
  | csharp
  | json
deriving DecidableEq

/-- The word for a content type. -/
def ContentType.name : ContentType → String
  | .csharp => "source-file-csharp"
  | .json => "source-file-json"

/-- A staged text. -/
structure StagedFile where
  path : String
  content : String
  sourceMap : Option String
  contentType : ContentType
deriving DecidableEq

/-- A text cannot be staged: its path is taken. -/
structure PathTaken where
  path : String
deriving DecidableEq

/-- The wording of the error. -/
def PathTaken.message (e : PathTaken) : String := "file already staged: " ++ e.path

/-- The files staged so far, in the order of their paths. -/
structure Staging where
  files : List StagedFile := []
deriving DecidableEq

namespace Staging

/-- The file under a path. -/
def get? (staging : Staging) (path : String) : Option StagedFile :=
  staging.files.find? (·.path = path)

/-- The paths in order. -/
def paths (staging : Staging) : List String := staging.files.map (·.path)

/-- A file put in its place among files in order. -/
def place (file : StagedFile) : List StagedFile → List StagedFile
  | [] => [file]
  | next :: rest => if file.path < next.path then file :: next :: rest else next :: place file rest

/-- Stages a file, if its path is free. -/
def stage (staging : Staging) (file : StagedFile) : Except PathTaken Staging :=
  if (staging.get? file.path).isSome then .error ⟨file.path⟩
  else .ok ⟨place file staging.files⟩

end Staging
end CmdletForge
