import CmdletForge.Data.Value
import CmdletForge.Decimal.Notation
import CmdletForge.Text.Quoted

/-!
# What was found where something else was expected

The wording of the messages about data of the wrong shape.
-/

namespace CmdletForge

/-- The words in which formats differ: their name of nothing, and how they write a double. -/
structure Wording where
  unit : String
  float : Float → String

/-- What stands where something else was expected. -/
inductive Found where
  | unit
  | bool (b : Bool)
  | int (n : Int)
  | minusZero
  | wide (n : Int)
  | float (x : Float)
  | text (s : String)
  | sequence
  | map
  | tagged

namespace Found

/-- The kind of an untyped value. -/
def ofValue : Value → Found
  | .null => .unit
  | .bool b => .bool b
  | .int n => .int n
  | .minusZero => .minusZero
  | .float x => .float x
  | .str s => .text s
  | .seq _ => .sequence
  | .map _ => .map
  | .tagged _ _ => .tagged

/-- The wording in a format. -/
def describe (wording : Wording) : Found → String
  | .unit => wording.unit
  | .bool b => "boolean `" ++ toString b ++ "`"
  | .int n => "integer `" ++ toString n ++ "`"
  | .minusZero => "integer `0`"
  | .wide n => "integer `" ++ toString n ++ (if n < 0 then "` as i128" else "` as u128")
  | .float x => "floating point `" ++ wording.float x ++ "`"
  | .text s => "string " ++ Text.quotedText s
  | .sequence => "sequence"
  | .map => "map"
  | .tagged => "enum"

end Found

/-- The messages about data of the wrong shape. -/
inductive Mismatch where
  | invalidType (found : Found) (expected : String)
  | invalidValue (found : Found) (expected : String)
  | invalidLength (length : Nat) (expected : String)
  | unknownVariant (name : String) (known : List String)
  | missingField (name : String)
  | duplicateField (name : String)
  | numberOutOfRange
  | tagInUntagged
  | duplicateKey (key : Value)

namespace Mismatch

/-- Names between back quotes, commas between them. -/
def listed (names : List String) : String := ", ".intercalate (names.map fun n => "`" ++ n ++ "`")

/-- How a repeated key is named. -/
def keyText : Value → String
  | .null => "with null key"
  | .bool b => "with key `" ++ toString b ++ "`"
  | .int n => "with key " ++ toString n
  | .minusZero => "with key 0"
  | .float x => "with key " ++ Decimal.keyText x
  | .str s => "with key " ++ Text.quotedText s
  | _ => "in YAML map"

/-- The wording in a format. -/
def message (wording : Wording) : Mismatch → String
  | .invalidType found expected =>
    "invalid type: " ++ found.describe wording ++ ", expected " ++ expected
  | .invalidValue found expected =>
    "invalid value: " ++ found.describe wording ++ ", expected " ++ expected
  | .invalidLength length expected =>
    "invalid length " ++ toString length ++ ", expected " ++ expected
  | .unknownVariant name known =>
    "unknown variant `" ++ name ++ "`, expected one of " ++ listed known
  | .missingField name => "missing field `" ++ name ++ "`"
  | .duplicateField name => "duplicate field `" ++ name ++ "`"
  | .numberOutOfRange => "JSON number out of range"
  | .tagInUntagged => "untagged and internally tagged enums do not support enum input"
  | .duplicateKey key => "duplicate entry " ++ keyText key

end Mismatch
end CmdletForge
