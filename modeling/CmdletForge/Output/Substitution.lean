import CmdletForge.Generation.Report

/-!
# Substituting legacy names

A table of literals and what replaces them. A text is read once from left to right: where a literal
of the table starts, the first such literal is replaced and reading goes on behind it; what was put
in is not read again.
-/

namespace CmdletForge

/-- Literals with their replacements, first the one that counts first. -/
structure SubstitutionTable where
  entries : List (String × String) := []
deriving DecidableEq

/-- A piece of a text: a character that stays, or a literal that is replaced. -/
inductive Tile where
  | kept (c : Char)
  | replaced (literal replacement : List Char)
deriving DecidableEq

/-- The text that a piece covers. -/
def Tile.source : Tile → List Char
  | .kept c => [c]
  | .replaced literal _ => literal

/-- The text that a piece becomes. -/
def Tile.target : Tile → List Char
  | .kept c => [c]
  | .replaced _ replacement => replacement

/-- The piece is a literal that is replaced. -/
def Tile.isReplaced : Tile → Bool
  | .kept _ => false
  | .replaced _ _ => true

namespace SubstitutionTable

/-- Adds an entry at the end, unless its literal is empty or there already. Also says whether it was
added. -/
def insert (table : SubstitutionTable) (literal replacement : String) : Bool × SubstitutionTable :=
  if literal.isEmpty || table.entries.any (·.1 = literal) then (false, table)
  else (true, ⟨table.entries ++ [(literal, replacement)]⟩)

/-- The table with an entry added. -/
def adding (table : SubstitutionTable) (literal replacement : String) : SubstitutionTable :=
  (table.insert literal replacement).2

/-- The names of the legacy runtime, moved into the namespace of a project. -/
def legacyRuntime (space : String) : SubstitutionTable :=
  let runtime := space ++ ".Runtime"
  let json := space ++ ".Runtime.Json"
  [("Carbon.Json.Converters", json), ("Carbon.Internal.Extensions", json), ("Carbon.Internal", json),
    ("Carbon.Data", json), ("using Data;", ""), ("using Parser;", ""), ("using Converters;", ""),
    ("using Internal.Extensions;", ""), ("Carbon.Json.Parser", json), ("Carbon.Json", json),
    ("Microsoft.Rest.ClientRuntime", runtime), ("Microsoft.Rest", space)].foldl
    (fun table (literal, replacement) => table.adding literal replacement) {}

/-- The first entry whose literal starts the text. -/
def startsWith? (entries : List (List Char × List Char)) (text : List Char) :
    Option (List Char × List Char) :=
  entries.find? fun entry => entry.1.isPrefixOf text

/-- The pieces of a text behind those found so far, which are in reverse order. The next `covered`
characters belong to a literal that was found already. -/
def tilesFrom (entries : List (List Char × List Char)) (found : List Tile) :
    (covered : Nat) → List Char → List Tile
  | _, [] => found.reverse
  | covered + 1, _ :: rest => tilesFrom entries found covered rest
  | 0, c :: rest =>
    match startsWith? entries (c :: rest) with
    | some (literal, replacement) =>
      tilesFrom entries (.replaced literal replacement :: found) (literal.length - 1) rest
    | none => tilesFrom entries (.kept c :: found) 0 rest

/-- The pieces of a text. -/
def tiles (table : SubstitutionTable) (text : String) : List Tile :=
  let entries := table.entries.map fun (literal, replacement) => (literal.toList, replacement.toList)
  tilesFrom entries [] 0 text.toList

/-- The text with its literals replaced. -/
def apply (table : SubstitutionTable) (text : String) : String :=
  String.ofList ((table.tiles text).flatMap Tile.target)

/-- What the log says of the literals replaced in a text: nothing if there were none. -/
def applyLines (table : SubstitutionTable) (text : String) : List LogLine :=
  let count := (table.tiles text).countP Tile.isReplaced
  if count = 0 then [] else [.debug "overrides applied" [("replaced", .count count)]]

end SubstitutionTable
end CmdletForge
