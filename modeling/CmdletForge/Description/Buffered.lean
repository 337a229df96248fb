import CmdletForge.Description.Document

/-!
# Schemas from untyped values

A value that was read without a shape in mind may still be tried as a schema. Here every value has
its own type, which must be the one asked for; a record may be a list of its fields, and its keys
may be the places of fields.
-/

namespace CmdletForge.Description

/-- A reader of untyped values. It fails without saying why. -/
abbrev Attempt := ReaderT Value Option

namespace Attempt

/-- The reader at another value. -/
def on {α : Type} (value : Value) (reader : Attempt α) : Attempt α := fun _ => reader value

/-- A text. -/
def text : Attempt String := do
  match ← read with
  | .str s => pure s
  | _ => failure

/-- True or false. -/
def flag : Attempt Bool := do
  match ← read with
  | .bool b => pure b
  | _ => failure

/-- Nothing, or what the reader finds. -/
def optional {α : Type} (reader : Attempt α) : Attempt (Option α) := do
  if (← read).isNull then pure none else some <$> reader

/-- One of the known words: a text, or a mapping of it to null. -/
def choice (known : List String) : Attempt Nat := do
  match ← read with
  | .str s => fun _ => known.idxOf? s
  | .map [(.str s, .null)] => fun _ => known.idxOf? s
  | _ => failure

/-- A list. -/
def listOf {α : Type} (item : Attempt α) : Attempt (List α) := do
  match ← read with
  | .seq items => items.mapM fun value => on value item
  | _ => failure

/-- The entries of a mapping whose keys are texts. -/
def entriesOf {α : Type} (value : Attempt α) : Attempt (List (String × α)) := do
  match ← read with
  | .map entries => entries.mapM fun (k, v) => do pure (← on k text, ← on v value)
  | _ => failure

/-- The fields of a record from a list, in order. -/
def positions {σ : Type} (field : Nat → σ → Attempt σ) :
    List ((String × Presence) × Nat) → List Value → σ → Attempt σ
  | [], [], record => pure record
  | [], _ :: _, _ => failure
  | (_, index) :: fields, value :: rest, record => do
    positions field fields rest (← on value (field index record))
  | ((_, presence), _) :: fields, [], record =>
    if presence = .defaulted then positions field fields [] record else failure

/-- The field that a key stands for: its name, or its place; `some none` for any other name or
place. A place has no minus sign. -/
def fieldOf? (shape : RecordShape) : Value → Option (Option Nat)
  | .str s => some (shape.index? s)
  | .int n => if n < 0 then none else some (if n < shape.fields.length then some n.toNat else none)
  | _ => none

/-- The fields of a record from a mapping. -/
def fields {σ : Type} (shape : RecordShape) (field : Nat → σ → Attempt σ) :
    (seen : List Nat) → List (Value × Value) → σ → Attempt σ
  | seen, [], record => if (shape.missing? seen).isSome then failure else pure record
  | seen, (key, value) :: rest, record => do
    match fieldOf? shape key with
    | none => failure
    | some none => fields shape field seen rest record
    | some (some index) =>
      if index ∈ seen then failure
      else fields shape field (index :: seen) rest (← on value (field index record))

/-- A record. -/
def record {σ : Type} (shape : RecordShape) (start : σ) (field : Nat → σ → Attempt σ) : Attempt σ := do
  match ← read with
  | .seq items => positions field shape.fields.zipIdx items start
  | .map entries => fields shape field [] entries start
  | _ => failure

mutual

/-- A JSON value in canonical form: the keys of its mappings must be texts. A float that JSON has no
number for is null. -/
def jsonOf? : Value → Option Json
  | .null => some .null
  | .bool b => some (.bool b)
  | .int n => some (.num (.int n))
  | .minusZero => some (.num (.int 0))
  | .float x => some (if x.isFinite then .num (.float x) else .null)
  | .str s => some (.str s)
  | .seq items => (jsonItems? items).map .arr
  | .map entries => (jsonEntries? entries).map Json.object
  | .tagged _ _ => none

/-- The items as JSON values. -/
def jsonItems? : List Value → Option (List Json)
  | [] => some []
  | value :: rest => do some ((← jsonOf? value) :: (← jsonItems? rest))

/-- The entries as those of a JSON object. -/
def jsonEntries? : List (Value × Value) → Option (List (String × Json))
  | [] => some []
  | (key, value) :: rest =>
    match key with
    | .str s => do some ((s, ← jsonOf? value) :: (← jsonEntries? rest))
    | _ => none

end

/-- Untyped values as a format of typed data. They are read already, so no depth bounds them. -/
def format : Format Attempt where
  text := text
  flag := flag
  optional := optional
  choice := choice
  listOf _ := listOf
  entriesOf _ := entriesOf
  record _ := record
  json _ := fun value => jsonOf? value
  untyped _ := read

end Attempt

/-- An untyped value as a schema. What stands under `additionalProperties` in it is tried in the same
way, one container deeper. -/
def schemaOf? : (depth : Nat) → Value → Option SchemaDoc
  | 0, value => schemaReader Attempt.format (fun _ => none) 0 value
  | depth + 1, value => schemaReader Attempt.format (schemaOf? depth) (depth + 1) value

/-- An untyped value as a schema, however deep it is. -/
def attempt (value : Value) : Option SchemaDoc := schemaOf? value.depth value

end CmdletForge.Description
