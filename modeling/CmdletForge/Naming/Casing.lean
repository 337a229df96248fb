import CmdletForge.Naming.Words

/-!
# Words joined in four letter cases

`PascalCase`, `camelCase`, `snake_case` and `kebab-case`. The words may come from anywhere: each is
put into the case that its place asks for, whatever its letters were.
-/

namespace CmdletForge.Naming
open CmdletForge.Text

/-- A word with its first character in uppercase and the others in lowercase. -/
def capitalize (word : String) : String :=
  match word.toList with
  | [] => ""
  | c :: cs => String.ofList (toUpper c ++ cs.flatMap toLower)

/-- `ListWidgets`. -/
def pascalCase (words : List String) : String := String.join (words.map capitalize)

/-- `listWidgets`. -/
def camelCase : List String → String
  | [] => ""
  | word :: rest => lowercase word ++ pascalCase rest

/-- `list_widgets`. -/
def snakeCase (words : List String) : String := "_".intercalate (words.map lowercase)

/-- `list-widgets`. -/
def kebabCase (words : List String) : String := "-".intercalate (words.map lowercase)

/-- The words of an identifier, joined in `PascalCase`. -/
def toPascalCase (identifier : String) : String := pascalCase (words identifier)

/-- The `PascalCase` form of `identifier`, or `fallback` when it has no words. -/
def pascalOr (fallback identifier : String) : String :=
  let pascal := toPascalCase identifier
  if pascal.isEmpty then fallback else pascal

end CmdletForge.Naming
