import CmdletForge.Decimal.Notation
import CmdletForge.Json.Value

/-!
# Writing JSON

Compact and indented text of a JSON value. A string escapes the double quote, the backslash and
the control characters below U+0020, of which five have a short escape; everything else stands as
it is. Entries are written in the order of the value.
-/

namespace CmdletForge.Json

/-- The digit of a value below sixteen. -/
def hexDigit (n : Nat) : Char := "0123456789abcdef".toList.getD n '0'

/-- A character inside a JSON string. -/
def escapeChar (c : Char) : List Char :=
  if c = '"' then ['\\', '"']
  else if c = '\\' then ['\\', '\\']
  else if c = '\x08' then ['\\', 'b']
  else if c = '\t' then ['\\', 't']
  else if c = '\n' then ['\\', 'n']
  else if c = '\x0c' then ['\\', 'f']
  else if c = '\r' then ['\\', 'r']
  else if c.toNat < 0x20 then
    ['\\', 'u', '0', '0', hexDigit (c.toNat / 16), hexDigit (c.toNat % 16)]
  else [c]

/-- A string between double quotes. -/
def quoted (s : String) : List Char := '"' :: s.toList.flatMap escapeChar ++ ['"']

/-- The text of a number. -/
def numberText : Number → String
  | .int n => toString n
  | .float x => Decimal.dataText x

/-- The text of a value that holds no others. -/
def scalarText : Json → List Char
  | .bool true => "true".toList
  | .bool false => "false".toList
  | .num n => (numberText n).toList
  | .str s => quoted s
  | _ => "null".toList

mutual

/-- A value without white space. -/
def compactChars : Json → List Char
  | .arr items => '[' :: compactItems items ++ [']']
  | .obj entries => '{' :: compactEntries entries ++ ['}']
  | value => scalarText value

/-- The items of an array, commas between them. -/
def compactItems : List Json → List Char
  | [] => []
  | [item] => compactChars item
  | item :: rest => compactChars item ++ ',' :: compactItems rest

/-- The entries of an object, commas between them. -/
def compactEntries : List (String × Json) → List Char
  | [] => []
  | [(key, value)] => quoted key ++ ':' :: compactChars value
  | (key, value) :: rest => quoted key ++ ':' :: compactChars value ++ ',' :: compactEntries rest

end

/-- The value on one line, without white space. -/
def compact (value : Json) : String := String.ofList (compactChars value)

/-- A line break and the indentation of `depth` levels. -/
def newline (depth : Nat) : List Char := '\n' :: List.replicate (2 * depth) ' '

mutual

/-- A value whose containers open at `depth`: one item or entry a line, two spaces a level; an
empty container stays on its line. -/
def prettyChars (depth : Nat) : Json → List Char
  | .arr [] => ['[', ']']
  | .arr items => '[' :: prettyItems (depth + 1) items ++ newline depth ++ [']']
  | .obj [] => ['{', '}']
  | .obj entries => '{' :: prettyEntries (depth + 1) entries ++ newline depth ++ ['}']
  | value => scalarText value

/-- The items of an array, each on its line. -/
def prettyItems (depth : Nat) : List Json → List Char
  | [] => []
  | [item] => newline depth ++ prettyChars depth item
  | item :: rest => newline depth ++ prettyChars depth item ++ ',' :: prettyItems depth rest

/-- The entries of an object, each on its line. -/
def prettyEntries (depth : Nat) : List (String × Json) → List Char
  | [] => []
  | [(key, value)] => newline depth ++ quoted key ++ ':' :: ' ' :: prettyChars depth value
  | (key, value) :: rest =>
    newline depth ++ quoted key ++ ':' :: ' ' :: prettyChars depth value ++
      ',' :: prettyEntries depth rest

end

/-- The value over several lines, indented by two spaces a level. -/
def pretty (value : Json) : String := String.ofList (prettyChars 0 value)

end CmdletForge.Json
