import CmdletForge.Text.CaseMap
import CmdletForge.Text.Numeric

/-!
# The words of an identifier

An identifier is cut at every character that is not alphanumeric (which is dropped) and, inside a
run of alphanumeric characters, before a capital that opens a word: one after a lowercase letter
or a number (`camelCase`, `base64Encode`), or the last capital of an acronym (`HTTPServer`).
`pieces` cuts, `words` then lowers every piece.
-/

namespace CmdletForge.Naming
open CmdletForge.Text

/-- A word starts at `c`, which follows `prev` and comes before `next`. -/
def startsWord (prev c : Char) (next : Option Char) : Bool :=
  isUppercase c &&
    (isLowercase prev || isNumeric prev || (isUppercase prev && next.any isLowercase))

/-- `c` in front of the first piece. -/
def attach (c : Char) : List (List Char) → List (List Char)
  | [] => [[c]]
  | piece :: rest => (c :: piece) :: rest

/-- The alphanumeric stretches between word boundaries, letters as written. -/
def pieces : List Char → List (List Char)
  | [] => []
  | c :: cs =>
    if isAlphanumeric c then
      match cs with
      | [] => [[c]]
      | d :: ds =>
        if isAlphanumeric d && !startsWord c d ds.head? then attach c (pieces (d :: ds))
        else [c] :: pieces (d :: ds)
    else pieces cs

/-- The lowercase words of an identifier, in order. -/
def words (identifier : String) : List String :=
  (pieces identifier.toList).map fun piece => String.ofList (piece.flatMap toLower)

end CmdletForge.Naming
