import CmdletForge.Data.Format
import CmdletForge.Data.Mismatch
import CmdletForge.Generation.Report
import CmdletForge.Settings.Config

/-!
# Reading a configuration

Typed reads of single keys. A value must have the type that is asked for; tags on it do not count.
The reads of a generation never fail: a key that is absent where it is required, or that has the
wrong type, is recorded and gives a neutral value.
-/

namespace CmdletForge

/-- Packaging metadata. What is not given is empty or false. -/
structure Metadata where
  authors : String := ""
  owners : String := ""
  requireLicenseAcceptance : Bool := false
  description : String := ""
  copyright : String := ""
  tags : String := ""
  companyName : String := ""
  licenseUrl : String := ""
  projectUrl : String := ""
deriving DecidableEq

/-- A type that a configuration may be asked for, with its neutral value. -/
class Setting (α : Type) where
  neutral : α
  ofValue : Value → Except Mismatch α

namespace Setting

/-- A value of another type than was asked for. -/
def mismatch {α : Type} (expected : String) (value : Value) : Except Mismatch α :=
  .error (.invalidType (Found.ofValue value) expected)

/-- A text. -/
def text (expected : String) (value : Value) : Except Mismatch String :=
  match value.untagged with
  | .str s => .ok s
  | other => mismatch expected other

/-- True or false. -/
def flag (value : Value) : Except Mismatch Bool :=
  match value.untagged with
  | .bool b => .ok b
  | other => mismatch "a boolean" other

/-- A list of texts. -/
def texts (value : Value) : Except Mismatch (List String) :=
  match value.untagged with
  | .seq items => items.mapM (text "a string")
  | .null => .ok []
  | other => mismatch "a sequence" other

/-- The fields of the metadata. -/
def metadataShape : RecordShape :=
  ⟨"Metadata",
    ["authors", "owners", "requireLicenseAcceptance", "description", "copyright", "tags",
      "companyName", "licenseUrl", "projectUrl"].map fun field => (field, .defaulted)⟩

/-- Sets a field of the metadata, by its place. -/
def metadataField (index : Nat) (metadata : Metadata) (value : Value) : Except Mismatch Metadata := do
  match index with
  | 0 => return { metadata with authors := ← text "a string" value }
  | 1 => return { metadata with owners := ← text "a string" value }
  | 2 => return { metadata with requireLicenseAcceptance := ← flag value }
  | 3 => return { metadata with description := ← text "a string" value }
  | 4 => return { metadata with copyright := ← text "a string" value }
  | 5 => return { metadata with tags := ← text "a string" value }
  | 6 => return { metadata with companyName := ← text "a string" value }
  | 7 => return { metadata with licenseUrl := ← text "a string" value }
  | _ => return { metadata with projectUrl := ← text "a string" value }

/-- The metadata from the entries of a mapping; other fields are passed over. -/
def metadataFields : (seen : List Nat) → List (Value × Value) → Metadata → Except Mismatch Metadata
  | _, [], metadata => .ok metadata
  | seen, (key, value) :: rest, metadata => do
    match metadataShape.index? (← text "field identifier" key) with
    | none => metadataFields seen rest metadata
    | some index =>
      if index ∈ seen then .error (.duplicateField (metadataShape.nameAt index))
      else metadataFields (index :: seen) rest (← metadataField index metadata value)

/-- Packaging metadata. -/
def metadata (value : Value) : Except Mismatch Metadata :=
  match value.untagged with
  | .map entries => metadataFields [] entries {}
  | .null => .ok {}
  | other => mismatch metadataShape.title other

instance : Setting String := ⟨"", text "a string"⟩
instance : Setting Bool := ⟨false, flag⟩
instance : Setting (List String) := ⟨[], texts⟩
instance : Setting Metadata := ⟨{}, metadata⟩

end Setting

namespace Config

variable {α : Type} [Setting α]

/-- A value as the type that is asked for. -/
def typed (key : String) (value : Value) : Except Failure α :=
  (Setting.ofValue value).mapError fun m => .invalidConfiguration key (m.message Yaml.wording)

/-- The value of a key that must be set. -/
def get (config : Config) (key : String) : Except Failure α :=
  match config.value? key with
  | some value => typed key value
  | none => .error (.missingConfiguration key)

/-- The value of a key, or a default where it is not set. -/
def getOr (config : Config) (key : String) (default : α) : Except Failure α :=
  match config.value? key with
  | some value => typed key value
  | none => .ok default

/-- The result of a read: a failure is recorded, and gives the fallback. -/
def reported (key : String) (fallback : α) : Except Failure α → Reporting α
  | .ok value => do
    note (.debug "configuration value loaded" [("key", .text key)])
    pure value
  | .error failure => do
    record failure
    pure fallback

/-- Reads a key that must be set; the neutral value stands in for it. -/
def required (config : Config) (key : String) : Reporting α :=
  reported key Setting.neutral (config.get key)

/-- Reads a key that may be set. -/
def valueOr (config : Config) (key : String) (default : α) : Reporting α :=
  reported key default (config.getOr key default)

end Config
end CmdletForge
