import CmdletForge.Data.Format

/-!
# Formats that match

One reader of typed data works in every format, so what it does in two of them can be compared without looking
at it: it is enough to compare what the formats do. A comparison says how a reader in one format is related to
one in the other, for data of some depth. It may leave open what is read; then a reader may go on differently
in the two formats, and must be related however it goes on.
-/

namespace CmdletForge

variable {m m' : Type → Type} [Monad m] [Monad m']

/-- Readers that the formats themselves have are related, and so are those made of related readers. -/
structure Format.Matches (f : Format m) (f' : Format m') (exact : Prop)
    (Related : {α : Type} → (depth : Nat) → m α → m' α → Prop) : Prop where
  text {depth : Nat} : Related depth f.text f'.text
  flag {depth : Nat} : Related depth f.flag f'.flag
  optional {α : Type} {depth : Nat} {reader : m α} {reader' : m' α} (inner : Related depth reader reader') :
    Related depth (f.optional reader) (f'.optional reader')
  choice {depth : Nat} (known : List String) : Related depth (f.choice known) (f'.choice known)
  listOf {α : Type} {depth : Nat} {item : m α} {item' : m' α} (items : Related (depth - 1) item item') :
    Related depth (f.listOf depth item) (f'.listOf depth item')
  entriesOf {α : Type} {depth : Nat} {value : m α} {value' : m' α} (values : Related (depth - 1) value value') :
    Related depth (f.entriesOf depth value) (f'.entriesOf depth value')
  record {σ : Type} {depth : Nat} (shape : RecordShape) (start : σ) {field : Nat → σ → m σ}
    {field' : Nat → σ → m' σ}
    (fields : ∀ inner, depth = inner + 1 → ∀ index record record', (exact → record = record') →
      Related inner (field index record) (field' index record')) :
    Related depth (f.record depth shape start field) (f'.record depth shape start field')
  json {depth : Nat} : Related depth (f.json depth) (f'.json depth)
  untyped {depth : Nat} : Related depth (f.untyped depth) (f'.untyped depth)
  map {α β : Type} {depth : Nat} {reader : m α} {reader' : m' α} (inner : Related depth reader reader')
    {g g' : α → β} (same : ∀ x, exact → g x = g' x) :
    Related depth (do return g (← reader)) (do return g' (← reader'))

end CmdletForge
