import CmdletForge.Data.Value
import CmdletForge.Yaml.Reader

/-!
# Configurations

A configuration maps keys to untyped values. A key that is set to null counts as absent. It is read
from a YAML text whose root is a mapping, or that is empty.
-/

namespace CmdletForge

/-- A configuration: its entries in order, each key once. -/
structure Config where
  entries : List (Value × Value) := []

/-- Why a text is no configuration. -/
inductive ConfigError where
  | yaml (e : Yaml.ReadError)
  | notAMapping

/-- The wording of the error about a text that is no mapping. -/
def ConfigError.notAMappingMessage : String := "configuration root must be a mapping"

namespace Config

/-- The value is the text `key`. -/
def isKey (key : String) : Value → Bool
  | .str s => s = key
  | _ => false

/-- What is set for a key, null included. -/
def stored? (config : Config) (key : String) : Option Value :=
  (config.entries.find? fun entry => isKey key entry.1).map Prod.snd

/-- What is set for a key, unless it is null. -/
def value? (config : Config) (key : String) : Option Value :=
  (config.stored? key).filter fun value => !value.isNull

/-- Entries with a key set to a value. -/
def setEntry (key : String) (value : Value) : List (Value × Value) → List (Value × Value)
  | [] => [(.str key, value)]
  | entry :: rest =>
    if isKey key entry.1 then (entry.1, value) :: rest else entry :: setEntry key value rest

/-- Sets a key, in place of what was set before. -/
def set (config : Config) (key : String) (value : Value) : Config :=
  ⟨setEntry key value config.entries⟩

/-- How many keys are set. -/
def size (config : Config) : Nat := config.entries.length

/-- The configuration that a YAML text spells. -/
def ofYaml (text : String) : Except ConfigError Config := do
  match ← (Yaml.valueOf text).mapError .yaml with
  | .map entries => .ok ⟨entries⟩
  | .null => .ok {}
  | _ => .error .notAMapping

end Config
end CmdletForge
