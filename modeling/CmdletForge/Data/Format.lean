import CmdletForge.Data.Mismatch

/-!
# Reading typed data from any format

What a reader of typed data asks of a format: texts, flags, lists, records, each in the format's
own way of being lenient or strict. A record is described by its `RecordShape`; the format finds
the fields, and the reader says what a field's value does to the record read so far.

Containers nest up to a depth. A depth is always the number of containers that may still open.
-/

namespace CmdletForge

/-- What happens when a field of a record is absent. -/
inductive Presence where
  /-- It must be there. -/
  | required
  /-- It counts as nothing, except where a list stands for the record. -/
  | optional
  /-- It keeps its default. -/
  | defaulted
deriving DecidableEq

/-- The name of a record, for messages, and its fields in order. -/
structure RecordShape where
  name : String
  fields : List (String × Presence)

namespace RecordShape

/-- How messages name the record. -/
def title (shape : RecordShape) : String := "struct " ++ shape.name

/-- How messages name a list of all its fields. -/
def listTitle (shape : RecordShape) : String :=
  let count := shape.fields.length
  shape.title ++ " with " ++ toString count ++ (if count = 1 then " element" else " elements")

/-- The place of a field among the fields. -/
def index? (shape : RecordShape) (field : String) : Option Nat :=
  (shape.fields.map Prod.fst).idxOf? field

/-- The name of the field at a place. -/
def nameAt (shape : RecordShape) (index : Nat) : String :=
  ((shape.fields.map Prod.fst)[index]?).getD ""

/-- The first required field that is not among those seen. -/
def missing? (shape : RecordShape) (seen : List Nat) : Option String :=
  (shape.fields.zipIdx.find? fun (field, index) => field.2 = .required ∧ index ∉ seen).map (·.1.1)

end RecordShape

/-- The ways of a format to read typed data, in a monad that knows what is in front. -/
structure Format (m : Type → Type) where
  /-- A text. -/
  text : m String
  /-- True or false. -/
  flag : m Bool
  /-- Nothing, or what the reader finds. -/
  optional : {α : Type} → m α → m (Option α)
  /-- One of some words, by its place. -/
  choice : List String → m Nat
  /-- A list of what the reader finds. -/
  listOf : {α : Type} → (depth : Nat) → m α → m (List α)
  /-- The entries of a mapping, in order, repeated keys kept. -/
  entriesOf : {α : Type} → (depth : Nat) → m α → m (List (String × α))
  /-- A record: `field` adds the value of the field at a place. -/
  record : {σ : Type} → (depth : Nat) → RecordShape → σ → (field : Nat → σ → m σ) → m σ
  /-- A JSON value in canonical form. -/
  json : (depth : Nat) → m Json
  /-- An untyped value, as it stands. -/
  untyped : (depth : Nat) → m Value

end CmdletForge
