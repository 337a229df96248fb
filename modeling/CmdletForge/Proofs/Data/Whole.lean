import CmdletForge.Description.Buffered
import CmdletForge.Json.Reader
import Mathlib.Control.Basic

/-!
# Typed data from whole values

A stream is read once, from left to right, by a reader that knows no more than what is in front. Typed data can
also be taken from a value that is there as a whole. `Whole.format` does so, by recursion on the value and with
the same complaints as a stream, in any monad in which a reading can be refused. Untyped values are tried as
schemas in this way too, in the monad that only knows that something was refused.
-/

namespace CmdletForge

/-- A monad in which a reading can be refused, and is over then. -/
class Refusing (n : Type → Type) [Monad n] where
  refuse : {α : Type} → Json.ReadError → n α
  refuse_bind : ∀ {α β : Type} (e : Json.ReadError) (next : α → n β), refuse e >>= next = refuse e

instance : Refusing (Except Json.ReadError) := ⟨.error, fun _ _ => rfl⟩

instance : Refusing Option := ⟨fun _ => none, fun _ _ => rfl⟩

/-- A reader of a value that is there as a whole. -/
abbrev Whole (n : Type → Type) := ReaderT Value n

namespace Whole

open Refusing (refuse refuse_bind)

variable {n : Type → Type} [Monad n] [Refusing n] {α σ : Type}

/-- Refuses a value, naming its kind. -/
def unexpected (expected : String) (value : Value) : n α :=
  refuse (.mismatch (.invalidType (.ofValue value) expected))

/-- A text. -/
def text (expected : String) : Whole n String := fun value =>
  match value with
  | .str s => pure s
  | value => unexpected expected value

/-- True or false. -/
def flag : Whole n Bool := fun value =>
  match value with
  | .bool b => pure b
  | value => unexpected "a boolean" value

/-- Nothing, or what the reader finds. -/
def optional (reader : Whole n α) : Whole n (Option α) := fun value =>
  if value.isNull then pure none else some <$> reader value

/-- The place of a word among the known ones. -/
def variant (known : List String) (name : String) : n Nat :=
  match known.idxOf? name with
  | some index => pure index
  | none => refuse (.mismatch (.unknownVariant name known))

/-- Null. -/
def unit : Whole n Unit := fun value =>
  match value with
  | .null => pure ()
  | value => unexpected "unit" value

/-- One of the known words: a text, or a mapping of it to null. -/
def choice (known : List String) : Whole n Nat := fun value => do
  match value with
  | .str s => variant known s
  | .map ((key, value) :: rest) =>
    let index ← variant known (← text "variant identifier" key)
    unit value
    if rest.isEmpty then pure index else refuse .malformed
  | _ => refuse .malformed

/-- A list. -/
def listOf (item : Whole n α) : Whole n (List α) := fun value =>
  match value with
  | .seq items => items.mapM item
  | value => unexpected "a sequence" value

/-- The entries of a mapping whose keys are texts. -/
def entriesOf (inner : Whole n α) : Whole n (List (String × α)) := fun value =>
  match value with
  | .map entries => entries.mapM fun (k, v) => do pure (← text "a string" k, ← inner v)
  | value => unexpected "a map" value

/-- The fields of a record from a list, in order. -/
def positions (shape : RecordShape) (field : Nat → σ → Whole n σ) :
    List ((String × Presence) × Nat) → List Value → σ → n σ
  | [], [], record => pure record
  | [], _ :: _, _ => refuse .malformed
  | (_, index) :: fields, value :: rest, record => do
    positions shape field fields rest (← field index record value)
  | ((_, presence), index) :: fields, [], record =>
    if presence = .defaulted then positions shape field fields [] record
    else refuse (.mismatch (.invalidLength index shape.listTitle))

/-- The fields of a record from a mapping. -/
def fields (shape : RecordShape) (field : Nat → σ → Whole n σ) :
    (seen : List Nat) → List (Value × Value) → σ → n σ
  | seen, [], record =>
    match shape.missing? seen with
    | some name => refuse (.mismatch (.missingField name))
    | none => pure record
  | seen, (key, value) :: rest, record =>
    match Description.Attempt.fieldOf? shape key with
    | none => refuse .malformed
    | some none => fields shape field seen rest record
    | some (some index) =>
      if index ∈ seen then refuse (.mismatch (.duplicateField (shape.nameAt index)))
      else do fields shape field (index :: seen) rest (← field index record value)

/-- A record. -/
def record (shape : RecordShape) (start : σ) (field : Nat → σ → Whole n σ) : Whole n σ := fun value =>
  match value with
  | .seq items => positions shape field shape.fields.zipIdx items start
  | .map entries => fields shape field [] entries start
  | value => unexpected shape.title value

/-- Whole values as a format of typed data, in which `spelled` says which JSON value a value is. -/
def format (spelled : Value → n Json) : Format (Whole n) where
  text := text "a string"
  flag := flag
  optional := optional
  choice := choice
  listOf _ := listOf
  entriesOf _ := entriesOf
  record _ := record
  json _ := spelled
  untyped _ := pure

/-! ## One part of a value -/

section Parts

variable [LawfulMonad n] (shape : RecordShape) (field : Nat → σ → Whole n σ)

/-- What a list of fields makes depends on one of them only by reading it, if it gets so far. -/
theorem positions_at {places : List ((String × Presence) × Nat)} (before after : List Value) {index : Nat}
    {named : String × Presence} (place : places[before.length]? = some (named, index)) :
    ∃ (first : σ → n σ) (later : σ → n σ), ∀ start value,
      positions shape field places (before ++ value :: after) start =
        first start >>= fun record => field index record value >>= later := by
  induction before generalizing places with
  | nil =>
    obtain ⟨places, rfl⟩ := List.head?_eq_some_iff.1 ((List.head?_eq_getElem? ..).trans place)
    exact ⟨pure, positions shape field places after, fun start value => (pure_bind ..).symm⟩
  | cons other before ih =>
    cases places with
    | nil => contradiction
    | cons here places =>
      obtain ⟨first, later, whole⟩ := ih place
      refine ⟨fun start => field here.2 start other >>= first, later, fun start value => ?_⟩
      rw [bind_assoc]
      exact bind_congr fun record => whole record value

/-- What the entries of a record make depends on one of them only by reading it, if it gets so far. -/
theorem fields_at (seen : List Nat) (before after : List (Value × Value)) {key : Value} {index : Nat}
    (place : Description.Attempt.fieldOf? shape key = some (some index)) :
    ∃ (first : σ → n σ) (later : σ → n σ), ∀ start value,
      fields shape field seen (before ++ (key, value) :: after) start =
        first start >>= fun record => field index record value >>= later := by
  have refused (e : Json.ReadError) : ∃ (first : σ → n σ) (later : σ → n σ), ∀ (start : σ) (value : Value),
      (refuse e : n σ) = first start >>= fun record => field index record value >>= later :=
    ⟨fun _ => refuse e, pure, fun _ _ => (refuse_bind e _).symm⟩
  induction before generalizing seen with
  | nil =>
    simp only [List.nil_append, fields, place]
    split
    next => exact refused _
    next =>
      refine ⟨pure, fields shape field (index :: seen) after, fun start value => ?_⟩
      rw [pure_bind]
  | cons other before ih =>
    simp only [List.cons_append, fields]
    cases Description.Attempt.fieldOf? shape other.1 with
    | none => exact refused _
    | some here =>
      cases here with
      | none => exact ih seen
      | some here =>
        dsimp only
        split
        next => exact refused _
        next =>
          obtain ⟨first, later, whole⟩ := ih (here :: seen)
          refine ⟨fun start => field here start other.2 >>= first, later, fun start value => ?_⟩
          rw [bind_assoc]
          exact bind_congr fun record => whole record value

omit [Refusing n] in
theorem mapM_at {α β : Type} (step : α → n β) (before after : List α) (x : α) :
    (before ++ x :: after).mapM step = before.mapM step >>= fun first => step x >>= fun y =>
      after.mapM step >>= fun later => pure (first ++ y :: later) := by
  simp [List.mapM_append, List.mapM_cons]

end Parts

/-! ## Depths -/

section Depths

theorem depth_lt_seq {inner : Value} {items : List Value} (mem : inner ∈ items) :
    inner.depth < (Value.seq items).depth := by
  rw [Value.depth, Nat.lt_succ_iff]
  induction items with
  | nil => contradiction
  | cons first rest ih =>
    rw [Value.depthOfItems]
    rcases List.mem_cons.1 mem with rfl | later
    · exact Nat.le_max_left ..
    · exact Nat.le_trans (ih later) (Nat.le_max_right ..)

theorem depth_lt_map {entry : Value × Value} {entries : List (Value × Value)} (mem : entry ∈ entries) :
    entry.2.depth < (Value.map entries).depth := by
  rw [Value.depth, Nat.lt_succ_iff]
  induction entries with
  | nil => contradiction
  | cons first rest ih =>
    rw [Value.depthOfEntries]
    rcases List.mem_cons.1 mem with rfl | later
    · exact Nat.le_trans (Nat.le_max_right ..) (Nat.le_max_left ..)
    · exact Nat.le_trans (ih later) (Nat.le_max_right ..)

theorem depth_seq_le {items : List Value} {depth : Nat} (bounds : ∀ inner ∈ items, inner.depth ≤ depth) :
    (Value.seq items).depth ≤ depth + 1 := by
  rw [Value.depth, Nat.add_le_add_iff_right]
  induction items with
  | nil => exact Nat.zero_le _
  | cons first rest ih =>
    obtain ⟨here, later⟩ := List.forall_mem_cons.1 bounds
    exact Nat.max_le.2 ⟨here, ih later⟩

theorem depth_map_le {entries : List (Value × Value)} {depth : Nat}
    (bounds : ∀ entry ∈ entries, entry.1.depth ≤ depth ∧ entry.2.depth ≤ depth) :
    (Value.map entries).depth ≤ depth + 1 := by
  rw [Value.depth, Nat.add_le_add_iff_right]
  induction entries with
  | nil => exact Nat.zero_le _
  | cons first rest ih =>
    obtain ⟨here, later⟩ := List.forall_mem_cons.1 bounds
    exact Nat.max_le.2 ⟨Nat.max_le.2 here, ih later⟩

omit [Refusing n] in
theorem mapM_congr {α β : Type} {step step' : α → n β} {items : List α} [LawfulMonad n]
    (same : ∀ x ∈ items, step x = step' x) : items.mapM step = items.mapM step' := by
  induction items with
  | nil => simp
  | cons x rest ih =>
    obtain ⟨first, later⟩ := List.forall_mem_cons.1 same
    rw [List.mapM_cons, List.mapM_cons, first, ih later]

theorem positions_congr {shape : RecordShape} {field field' : Nat → σ → Whole n σ}
    (places : List ((String × Presence) × Nat)) {items : List Value} (start : σ)
    (same : ∀ item ∈ items, ∀ index record, field index record item = field' index record item) :
    positions shape field places items start = positions shape field' places items start := by
  induction places generalizing items start with
  | nil => cases items <;> rfl
  | cons place places ih =>
    cases items with
    | nil =>
      have none : ∀ item ∈ ([] : List Value), ∀ index record, field index record item = field' index record item :=
        nofun
      simp only [positions, ih start none]
    | cons item items =>
      obtain ⟨first, later⟩ := List.forall_mem_cons.1 same
      simp only [positions, first, ih _ later]

theorem fields_congr {shape : RecordShape} {field field' : Nat → σ → Whole n σ} (seen : List Nat)
    {entries : List (Value × Value)} (start : σ)
    (same : ∀ entry ∈ entries, ∀ index record, field index record entry.2 = field' index record entry.2) :
    fields shape field seen entries start = fields shape field' seen entries start := by
  induction entries generalizing seen start with
  | nil => simp only [fields]
  | cons entry entries ih =>
    obtain ⟨first, later⟩ := List.forall_mem_cons.1 same
    simp only [fields, first, fun seen start => ih seen start later]

variable {value : Value}

/-- A record depends on how values inside it are read only. -/
theorem record_congr {shape : RecordShape} {start : σ} {field field' : Nat → σ → Whole n σ}
    (same : ∀ inner, inner.depth < value.depth →
      ∀ index record, field index record inner = field' index record inner) :
    record shape start field value = record shape start field' value := by
  cases value
  case seq items => exact positions_congr _ start fun item mem => same item (depth_lt_seq mem)
  case map entries => exact fields_congr [] start fun entry mem => same entry.2 (depth_lt_map mem)
  all_goals rfl

theorem listOf_congr {item item' : Whole n α} [LawfulMonad n]
    (same : ∀ inner, inner.depth < value.depth → item inner = item' inner) :
    listOf item value = listOf item' value := by
  cases value
  case seq items => exact mapM_congr fun inner mem => same inner (depth_lt_seq mem)
  all_goals rfl

theorem entriesOf_congr {inner inner' : Whole n α} [LawfulMonad n]
    (same : ∀ value', value'.depth < value.depth → inner value' = inner' value') :
    entriesOf inner value = entriesOf inner' value := by
  cases value
  case map entries =>
    refine mapM_congr fun entry mem => ?_
    simp only [same entry.2 (depth_lt_map mem)]
  all_goals rfl

omit [Refusing n] in
theorem optional_congr {reader reader' : Whole n α} (same : reader value = reader' value) :
    optional reader value = optional reader' value := by
  rw [optional, optional, same]

end Depths

end Whole

namespace Description.Attempt

open Whole

variable {α σ : Type}

theorem mapM_apply {β : Type} (step : β → Attempt α) (items : List β) (value : Value) :
    (items.mapM step) value = items.mapM fun item => step item value := by
  induction items with
  | nil => rfl
  | cons item rest ih =>
    rw [List.mapM_cons, List.mapM_cons, ← ih]
    rfl

theorem text_eq : text = Whole.text "a string" := by
  funext value
  cases value <;> rfl

theorem flag_eq : flag = Whole.flag := by
  funext value
  cases value <;> rfl

theorem optional_eq (reader : Attempt α) : optional reader = Whole.optional reader := by
  funext value
  change (if value.isNull then pure none else some <$> reader : Attempt (Option α)) value = _
  rw [Whole.optional]
  split <;> rfl

theorem variant_eq (known : List String) (name : String) :
    (Whole.variant known name : Option Nat) = known.idxOf? name := by
  unfold Whole.variant
  cases known.idxOf? name <;> rfl

theorem choice_eq (known : List String) : choice known = Whole.choice known := by
  funext value
  cases value
  case str s => exact (variant_eq known s).symm
  case map entries =>
    match entries with
    | [] => rfl
    | (key, value) :: rest =>
      cases key
      case str s =>
        change _ = Whole.variant known s >>= fun index => Whole.unit value >>= fun _ => _
        rw [variant_eq]
        cases place : known.idxOf? s with
        | none =>
          cases value <;> cases rest <;> try rfl
          exact place
        | some index =>
          cases value <;> cases rest <;> try rfl
          exact place
      all_goals rfl
  all_goals rfl

theorem listOf_eq (item : Attempt α) : listOf item = Whole.listOf item := by
  funext value
  cases value
  case seq items => exact mapM_apply (fun v => on v item) items _
  all_goals rfl

theorem entriesOf_eq (inner : Attempt α) : entriesOf inner = Whole.entriesOf inner := by
  funext value
  cases value
  case map entries =>
    refine (mapM_apply (fun (k, v) => do pure (← on k text, ← on v inner)) entries _).trans ?_
    rw [text_eq]
    rfl
  all_goals rfl

theorem positions_eq (shape : RecordShape) (field : Nat → σ → Attempt σ)
    (places : List ((String × Presence) × Nat)) (items : List Value) (start : σ) (value : Value) :
    positions field places items start value = Whole.positions shape field places items start := by
  induction places generalizing items start with
  | nil => cases items <;> rfl
  | cons place places ih =>
    cases items with
    | nil =>
      rw [positions, Whole.positions]
      split
      next => exact ih [] start
      next => rfl
    | cons item items =>
      rw [Whole.positions]
      change (field place.2 start item >>= fun record => positions field places items record value) = _
      simp only [ih]

theorem fields_eq (shape : RecordShape) (field : Nat → σ → Attempt σ) (seen : List Nat)
    (entries : List (Value × Value)) (start : σ) (value : Value) :
    fields shape field seen entries start value = Whole.fields shape field seen entries start := by
  induction entries generalizing seen start with
  | nil =>
    rw [fields, Whole.fields]
    cases shape.missing? seen <;> rfl
  | cons entry entries ih =>
    rw [fields, Whole.fields]
    cases fieldOf? shape entry.1 with
    | none => rfl
    | some place =>
      cases place with
      | none => exact ih seen start
      | some index =>
        dsimp only
        split
        next => rfl
        next =>
          change (field index start entry.2 >>= fun record => fields shape field _ entries record value) = _
          simp only [ih]

theorem record_eq (shape : RecordShape) (start : σ) (field : Nat → σ → Attempt σ) :
    record shape start field = Whole.record shape start field := by
  funext value
  cases value
  case seq items => exact positions_eq shape field _ items start _
  case map entries => exact fields_eq shape field [] entries start _
  all_goals rfl

/-- Untyped values are tried as whole values. -/
theorem format_eq : format = Whole.format jsonOf? := by
  have choices : choice = Whole.choice := funext choice_eq
  have lists : @listOf = @Whole.listOf Option _ _ := funext fun _ => funext listOf_eq
  have mappings : @entriesOf = @Whole.entriesOf Option _ _ := funext fun _ => funext entriesOf_eq
  have options : @optional = @Whole.optional Option _ := funext fun _ => funext optional_eq
  have records : @record = @Whole.record Option _ _ :=
    funext fun _ => funext fun shape => funext fun start => funext fun field => record_eq shape start field
  rw [format, Whole.format, text_eq, flag_eq, choices, lists, mappings, options, records]
  rfl

end Description.Attempt

end CmdletForge
