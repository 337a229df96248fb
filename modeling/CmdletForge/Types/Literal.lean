import CmdletForge.Json.Printer

/-!
# Literals of generated code

The text of a default value in generated code. A string is quoted, with the quote, the backslash,
line breaks and tabs escaped.
-/

namespace CmdletForge.Literal

/-- A character between quotes. -/
def escape : Char → List Char
  | '"' => ['\\', '"']
  | '\\' => ['\\', '\\']
  | '\n' => ['\\', 'n']
  | '\r' => ['\\', 'r']
  | '\t' => ['\\', 't']
  | c => [c]

/-- A text between quotes. -/
def quote (text : String) : String :=
  String.ofList ('"' :: text.toList.flatMap escape ++ ['"'])

/-- A truth value. -/
def ofBool (b : Bool) : String := if b then "true" else "false"

/-- The literal of a truth value; no other value has one. -/
def flag? : Json → Option String
  | .bool b => some (ofBool b)
  | _ => none

/-- The literal of a text, a number or a truth value; no other value has one. -/
def scalar? : Json → Option String
  | .str s => some (quote s)
  | .num n => some (Json.numberText n)
  | .bool b => some (ofBool b)
  | _ => none

end CmdletForge.Literal
