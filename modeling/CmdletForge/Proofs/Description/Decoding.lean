import CmdletForge.Description.Load
import CmdletForge.Proofs.Json.Streaming

/-!
# Descriptions as they are decoded

The readers of descriptions work in every format, so they do the same in formats that match. A description that
is read from a JSON text is that of the value that the text spells.
-/

namespace CmdletForge.Description

theorem schemaReader_succ {m : Type → Type} [Monad m] (f : Format m) (attempt : Value → Option SchemaDoc)
    (depth : Nat) : schemaReader f attempt (depth + 1) = f.record (depth + 1) schemaShape {}
      (schemaField f attempt depth (fun _ => schemaReader f attempt depth)
        (fun _ => schemaReader f attempt (depth - 1))) := by
  cases depth <;> rfl

/-! ## In formats that match -/

section Matching

variable {m m' : Type → Type} [Monad m] [Monad m'] {f : Format m} {f' : Format m'} {exact : Prop}
  {Related : {α : Type} → Nat → m α → m' α → Prop} (similar : f.Matches f' exact Related)
  (attempt : Value → Option SchemaDoc)

include similar

theorem related_discriminator {depth : Nat} :
    Related depth (discriminatorReader f depth) (discriminatorReader f' depth) :=
  similar.record _ _ fun _ _ _ _ _ _ => similar.text

theorem related_schemaField {depth : Nat} {inner member : Unit → m SchemaDoc} {inner' member' : Unit → m' SchemaDoc}
    (inside : Related depth (inner ()) (inner' ())) (part : Related (depth - 1) (member ()) (member' ()))
    (index : Nat) (schema schema' : SchemaDoc) (same : exact → schema = schema') :
    Related depth (schemaField f attempt depth inner member index schema)
      (schemaField f' attempt depth inner' member' index schema') := by
  unfold schemaField
  split
  case h_6 => exact similar.map (similar.optional similar.json) fun _ exactly => by rw [same exactly]
  case h_7 => exact similar.map (similar.optional (similar.listOf similar.json)) fun _ exactly => by rw [same exactly]
  case h_8 => exact similar.map (similar.entriesOf part) fun _ exactly => by rw [same exactly]
  case h_9 => exact similar.map (similar.listOf similar.text) fun _ exactly => by rw [same exactly]
  case h_10 => exact similar.map (similar.optional inside) fun _ exactly => by rw [same exactly]
  case h_11 => exact similar.map (similar.optional similar.untyped) fun _ exactly => by rw [same exactly]
  case h_12 => exact similar.map (similar.listOf part) fun _ exactly => by rw [same exactly]
  case h_13 =>
    exact similar.map (similar.optional (related_discriminator similar)) fun _ exactly => by rw [same exactly]
  all_goals exact similar.map (similar.optional similar.text) fun _ exactly => by rw [same exactly]

/-- A schema at a depth holds schemas one deeper, and in lists and mappings two. -/
theorem related_schema (depth : Nat) :
    Related depth (schemaReader f attempt depth) (schemaReader f' attempt depth) := by
  induction depth using Nat.strongRecOn with
  | ind depth ih =>
    cases depth with
    -- There is nothing inside a record that may not open.
    | zero => exact similar.record _ _ fun inner nests => nomatch nests
    | succ depth =>
      rw [schemaReader_succ, schemaReader_succ]
      refine similar.record _ _ fun inner nests => ?_
      cases nests
      have inside := ih depth (Nat.lt_succ_self _)
      have part := ih (depth - 1) (Nat.lt_succ_of_le (Nat.sub_le ..))
      exact related_schemaField similar attempt inside part

theorem related_parameter (depth : Nat) :
    Related depth (parameterReader f attempt depth) (parameterReader f' attempt depth) := by
  refine similar.record _ _ fun inner nests index parameter parameter' same => ?_
  subst nests
  split
  next => exact similar.map similar.text fun _ exactly => by rw [same exactly]
  next => exact similar.map (similar.choice _) fun _ exactly => by rw [same exactly]
  next => exact similar.map similar.flag fun _ exactly => by rw [same exactly]
  next => exact similar.map (similar.listOf similar.text) fun _ exactly => by rw [same exactly]
  next => exact similar.map (similar.optional similar.text) fun _ exactly => by rw [same exactly]
  next => exact similar.map (related_schema similar attempt _) fun _ exactly => by rw [same exactly]

theorem related_operation (depth : Nat) :
    Related depth (operationReader f attempt depth) (operationReader f' attempt depth) := by
  refine similar.record _ _ fun inner nests index operation operation' same => ?_
  subst nests
  split
  next => exact similar.map similar.text fun _ exactly => by rw [same exactly]
  next => exact similar.map (similar.optional similar.text) fun _ exactly => by rw [same exactly]
  next =>
    exact similar.map (similar.listOf (related_parameter similar attempt _)) fun _ exactly => by rw [same exactly]
  next =>
    exact similar.map (similar.optional (related_schema similar attempt _)) fun _ exactly => by rw [same exactly]

theorem related_info (depth : Nat) : Related depth (infoReader f depth) (infoReader f' depth) := by
  refine similar.record _ _ fun inner nests index info info' same => ?_
  subst nests
  split
  next => exact similar.map similar.text fun _ exactly => by rw [same exactly]
  next => exact similar.map similar.text fun _ exactly => by rw [same exactly]

/-- A description is read alike in formats that match. -/
theorem related_document (depth : Nat) :
    Related depth (documentReader f attempt depth) (documentReader f' attempt depth) := by
  refine similar.record _ _ fun inner nests index document document' same => ?_
  subst nests
  split
  next => exact similar.map (related_info similar _) fun _ exactly => by rw [same exactly]
  next =>
    exact similar.map (similar.entriesOf (related_schema similar attempt _)) fun _ exactly => by rw [same exactly]
  next =>
    exact similar.map (similar.listOf (related_operation similar attempt _)) fun _ exactly => by rw [same exactly]

end Matching

/-! ## From texts -/

/-- The description that a value is, or the complaint about it. -/
def ofWhole (value : Json) : Except Json.ReadError Document :=
  documentReader (Whole.format Json.spelled) attempt Json.maxDepth (Value.ofJson value)

/-- A description read from a text is that of the value that the text spells. -/
theorem ofJson_eq_ofWhole {text : String} {value : Json} (spells : Json.decode text = .ok value) :
    ofJson text = ofWhole value := by
  obtain ⟨rest, read, blank⟩ := Json.exists_of_decode spells
  have taken := related_document Json.format_matches attempt Json.maxDepth _ _ _ read
  rw [ofJson, Json.readWhole, taken]
  change _ = documentReader (Whole.format Json.spelled) attempt Json.maxDepth (Value.ofJson value)
  cases documentReader (Whole.format Json.spelled) attempt Json.maxDepth (Value.ofJson value) with
  | error e => rfl
  | ok document => exact if_pos blank

end CmdletForge.Description
