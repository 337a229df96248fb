import CmdletForge.Data.Format
import CmdletForge.Json.Lexeme

/-!
# Reading JSON

Values, and typed data in JSON, read from left to right in one pass: the first fault that is met,
of whatever kind, is the one that is reported. What is asked for nests up to a depth; what is
passed over may nest without bound.

A record is an object or the list of its fields. `Json.parse` reads a whole text as one value.
-/

namespace CmdletForge.Json

/-- As many steps as there are characters left, and one. -/
def stepsLeft : Reader Nat := fun cs => .ok (cs.length + 1, cs)

/-- An item follows, in an array of which `first` says whether none was read yet. -/
def moreItems (first : Bool) : Reader Bool := do
  match ← peek with
  | ']' => pure false
  | ',' =>
    if first then pure true
    else
      advance
      match ← peek with
      | ']' => throw .malformed
      | _ => pure true
  | _ => if first then pure true else throw .malformed

/-- An entry follows, in an object of which `first` says whether none was read yet. -/
def moreEntries (first : Bool) : Reader Bool := do
  match ← peek with
  | '}' => pure false
  | '"' => if first then pure true else throw .malformed
  | ',' =>
    if first then throw .malformed
    else
      advance
      match ← peek with
      | '"' => pure true
      | _ => throw .malformed
  | _ => throw .malformed

/-- The key of an entry and the colon after it. -/
def readKey : Reader String := do
  advance
  let key ← readText
  match ← peek with
  | ':' =>
    advance
    pure (String.ofList key)
  | _ => throw .malformed

/-- Opens a container, if one more may nest. -/
def enter (depth : Nat) : Reader Unit := if depth = 0 then throw .malformed else advance

/-- The closing mark of a container. -/
def leave (mark : Char) : Reader Unit := do
  if (← peek) = mark then advance else throw .malformed

/-- The items of an array up to its end. -/
def readItems {α : Type} (item : Reader α) : (steps : Nat) → (first : Bool) → Reader (List α)
  | 0, _ => throw .truncated
  | steps + 1, first => do
    if ← moreItems first then
      let x ← item
      let rest ← readItems item steps false
      pure (x :: rest)
    else pure []

/-- The entries of an object up to its end. -/
def readEntries {α : Type} (value : Reader α) :
    (steps : Nat) → (first : Bool) → Reader (List (String × α))
  | 0, _ => throw .truncated
  | steps + 1, first => do
    if ← moreEntries first then
      let key ← readKey
      let x ← value
      let rest ← readEntries value steps false
      pure ((key, x) :: rest)
    else pure []

/-- An array whose opening bracket is in front. -/
def readArray {α : Type} (depth : Nat) (item : Reader α) : Reader (List α) := do
  enter depth
  let items ← readItems item (← stepsLeft) true
  leave ']'
  pure items

/-- An object whose opening brace is in front. -/
def readObject {α : Type} (depth : Nat) (value : Reader α) : Reader (List (String × α)) := do
  enter depth
  let entries ← readEntries value (← stepsLeft) true
  leave '}'
  pure entries

/-- A value that holds no others, of which `c` is in front. -/
def readScalar (c : Char) : Reader Json := do
  match c with
  | 'n' =>
    advance
    readWord "ull".toList
    pure .null
  | 't' =>
    advance
    readWord "rue".toList
    pure (.bool true)
  | 'f' =>
    advance
    readWord "alse".toList
    pure (.bool false)
  | '"' =>
    advance
    return .str (String.ofList (← readText))
  | '-' =>
    advance
    return .num (← readNumber true)
  | c => if c.isDigit then return .num (← readNumber false) else throw .malformed

/-- A value, the entries of its objects in the order of the text. -/
def readValue : (depth : Nat) → Reader Json
  | 0 => do
    match ← peek with
    | '[' => throw .malformed
    | '{' => throw .malformed
    | c => readScalar c
  | depth + 1 => do
    match ← peek with
    | '[' => return .arr (← readArray (depth + 1) (readValue depth))
    | '{' => return .obj (← readObject (depth + 1) (readValue depth))
    | c => readScalar c

/-- Containers that are being passed over. -/
inductive Bracket where
  | array
  | object

mutual

/-- Passes over a value inside `around`, and over what is left of them. -/
def skipFrom (around : List Bracket) : (steps : Nat) → Reader Unit
  | 0 => throw .truncated
  | steps + 1 => do
    match ← peek with
    | '[' =>
      advance
      match ← peek with
      | ']' => skipAfter around steps
      | _ => skipFrom (.array :: around) steps
    | '{' =>
      advance
      match ← peek with
      | '}' => skipAfter around steps
      | _ => skipEntry around steps
    | '"' =>
      advance
      skipText
      skipRest around steps
    | '-' =>
      advance
      skipNumber
      skipRest around steps
    | c =>
      if c.isDigit then skipNumber else discard (readScalar c)
      skipRest around steps

/-- Passes over an entry of an object inside `around`. -/
def skipEntry (around : List Bracket) : (steps : Nat) → Reader Unit
  | 0 => throw .truncated
  | steps + 1 => do
    match ← peek with
    | '"' =>
      advance
      skipText
      match ← peek with
      | ':' =>
        advance
        skipFrom (.object :: around) steps
      | _ => throw .malformed
    | _ => throw .malformed

/-- Passes over a closing mark and what is left of `around`. -/
def skipAfter (around : List Bracket) : (steps : Nat) → Reader Unit
  | 0 => throw .truncated
  | steps + 1 => do
    advance
    skipRest around steps

/-- Passes over what is left of `around` after a value. -/
def skipRest (around : List Bracket) : (steps : Nat) → Reader Unit
  | 0 => throw .truncated
  | steps + 1 => do
    match around with
    | [] => pure ()
    | .array :: outer =>
      match ← peek with
      | ',' =>
        advance
        skipFrom around steps
      | ']' => skipAfter outer steps
      | _ => throw .malformed
    | .object :: outer =>
      match ← peek with
      | ',' =>
        advance
        skipEntry outer steps
      | '}' => skipAfter outer steps
      | _ => throw .malformed

end

/-- Passes over a value. A character is met by at most four steps. -/
def skipValue : Reader Unit := fun cs => skipFrom [] (4 * cs.length + 8) cs

/-- The kind of the value in front. A container is known by its opening mark; what holds no others
must be readable. -/
def kindAhead : Reader Found := do
  match ← peek with
  | '[' => pure .sequence
  | '{' => pure .map
  | c => return Found.ofValue (Value.ofJson (← readScalar c))

/-- Refuses the value in front, naming its kind. -/
def unexpected {α : Type} (expected : String) : Reader α := do
  throw (.mismatch (.invalidType (← kindAhead) expected))

/-- A text. -/
def textReader (expected : String) : Reader String := do
  match ← peek with
  | '"' =>
    advance
    return String.ofList (← readText)
  | _ => unexpected expected

/-- True or false. -/
def flagReader : Reader Bool := do
  match ← peek with
  | 't' =>
    advance
    readWord "rue".toList
    pure true
  | 'f' =>
    advance
    readWord "alse".toList
    pure false
  | _ => unexpected "a boolean"

/-- Null, or what the reader finds. -/
def optionalReader {α : Type} (reader : Reader α) : Reader (Option α) := do
  match ← peek? with
  | some 'n' =>
    advance
    readWord "ull".toList
    pure none
  | _ => some <$> reader

/-- Null. -/
def unitReader : Reader Unit := do
  match ← peek with
  | 'n' =>
    advance
    readWord "ull".toList
  | _ => unexpected "unit"

/-- The place of a word among the known ones. -/
def variant (known : List String) (name : String) : Reader Nat :=
  match known.idxOf? name with
  | some index => pure index
  | none => throw (.mismatch (.unknownVariant name known))

/-- One of the known words: a string, or an object with the word as its key and null as its
value. -/
def choiceReader (depth : Nat) (known : List String) : Reader Nat := do
  match ← peek with
  | '{' =>
    enter depth
    let index ← textReader "variant identifier" >>= variant known
    leave ':'
    unitReader
    leave '}'
    pure index
  | '"' => textReader "variant identifier" >>= variant known
  | _ => throw .malformed

/-- The fields of a record from a list, in order. The end of the list leaves the defaults. -/
def readPositions {σ : Type} (shape : RecordShape) (field : Nat → σ → Reader σ) :
    List ((String × Presence) × Nat) → σ → Reader σ
  | [], record => pure record
  | ((_, presence), index) :: rest, record => do
    if ← moreItems (index = 0) then
      readPositions shape field rest (← field index record)
    else if presence = .defaulted then readPositions shape field rest record
    else throw (.mismatch (.invalidLength index shape.listTitle))

/-- The fields of a record from an object, in any order; others are passed over. -/
def readFields {σ : Type} (shape : RecordShape) (field : Nat → σ → Reader σ) :
    (steps : Nat) → (first : Bool) → (seen : List Nat) → σ → Reader σ
  | 0, _, _, _ => throw .truncated
  | steps + 1, first, seen, record => do
    if ← moreEntries first then
      advance
      let key ← readText
      match shape.index? (String.ofList key) with
      | some index =>
        if index ∈ seen then throw (.mismatch (.duplicateField (shape.nameAt index)))
        else
          leave ':'
          let record ← field index record
          readFields shape field steps false (index :: seen) record
      | none =>
        leave ':'
        skipValue
        readFields shape field steps false seen record
    else
      match shape.missing? seen with
      | some name => throw (.mismatch (.missingField name))
      | none => pure record

/-- A record: an object or a list of its fields. -/
def recordReader {σ : Type} (depth : Nat) (shape : RecordShape) (record : σ)
    (field : Nat → σ → Reader σ) : Reader σ := do
  match ← peek with
  | '[' =>
    enter depth
    let record ← readPositions shape field shape.fields.zipIdx record
    leave ']'
    pure record
  | '{' =>
    enter depth
    let record ← readFields shape field (← stepsLeft) true [] record
    leave '}'
    pure record
  | _ => unexpected shape.title

/-- A list. -/
def listReader {α : Type} (depth : Nat) (item : Reader α) : Reader (List α) := do
  match ← peek with
  | '[' => readArray depth item
  | _ => unexpected "a sequence"

/-- The entries of an object. -/
def entriesReader {α : Type} (depth : Nat) (value : Reader α) : Reader (List (String × α)) := do
  match ← peek with
  | '{' => readObject depth value
  | _ => unexpected "a map"

mutual

/-- The value with the entries of every object in key order, each key with its last value. -/
def canonical : Json → Json
  | .arr items => .arr (canonicalItems items)
  | .obj entries => object (canonicalEntries entries)
  | value => value

/-- The items in canonical form. -/
def canonicalItems : List Json → List Json
  | [] => []
  | item :: rest => canonical item :: canonicalItems rest

/-- The entries with their values in canonical form. -/
def canonicalEntries : List (String × Json) → List (String × Json)
  | [] => []
  | (key, value) :: rest => (key, canonical value) :: canonicalEntries rest

end

/-- JSON as a format of typed data. -/
def format : Format Reader where
  text := textReader "a string"
  flag := flagReader
  optional := optionalReader
  choice := choiceReader 1
  listOf := listReader
  entriesOf := entriesReader
  record := recordReader
  json depth := canonical <$> readValue depth
  untyped depth := Value.ofJson <$> readValue depth

/-- How deep what is asked for may nest. -/
def maxDepth : Nat := 127

/-- Reads a whole text: nothing but white space may be left. -/
def readWhole {α : Type} (reader : Reader α) (text : String) : Except ReadError α := do
  let (x, rest) ← reader text.toList
  if (rest.dropWhile isSpace).isEmpty then .ok x else .error .malformed

/-- The value that a text spells, in canonical form. -/
def parse (text : String) : Except ReadError Json := readWhole (format.json maxDepth) text

end CmdletForge.Json
