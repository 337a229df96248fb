import CmdletForge.Proofs.Description.Decoding

/-!
# Untyped values that are tried as schemas

An untyped value is tried as a schema in the way in which a schema is read from a text, except that nobody asks
why it is refused. So a value that a text spells can be a schema if and only if it is one where it is tried; and
how deep a trial may go does not matter as long as it is deep enough.
-/

namespace CmdletForge.Description

/-! ## Depths -/

section Depths

variable {n : Type → Type} [Monad n] [LawfulMonad n] [Refusing n] {spelled : Value → n Json}
  {attempt attempt' : Value → Option SchemaDoc} {depth depth' : Nat} {value : Value}

/-- A field of a schema depends on how schemas inside it are read, and on what is tried. -/
theorem schemaField_congr {inner inner' member member' : Unit → Whole n SchemaDoc}
    (inside : inner () value = inner' () value)
    (part : ∀ deeper, deeper.depth < value.depth → member () deeper = member' () deeper)
    (tried : attempt value = attempt' value) (index : Nat) (schema : SchemaDoc) :
    schemaField (Whole.format spelled) attempt depth inner member index schema value =
      schemaField (Whole.format spelled) attempt' depth' inner' member' index schema value := by
  unfold schemaField
  split
  case h_8 =>
    change Whole.entriesOf (member ()) value >>= _ = Whole.entriesOf (member' ()) value >>= _
    rw [Whole.entriesOf_congr part]
  case h_10 =>
    change Whole.optional (inner ()) value >>= _ = Whole.optional (inner' ()) value >>= _
    rw [Whole.optional_congr inside]
  case h_11 =>
    change (if value.isNull then pure none else some <$> pure value) >>= _ =
      (if value.isNull then pure none else some <$> pure value) >>= _
    split
    next => rw [pure_bind, pure_bind]
    next => rw [map_pure, pure_bind, pure_bind]; simp only [tried]
  case h_12 =>
    change Whole.listOf (member ()) value >>= _ = Whole.listOf (member' ()) value >>= _
    rw [Whole.listOf_congr part]
  all_goals rfl

omit [LawfulMonad n] in
/-- A schema is a record, whose fields are read one deeper and in lists and mappings two. -/
theorem schemaReader_whole (spelled : Value → n Json) (attempt : Value → Option SchemaDoc) (depth : Nat) :
    ∃ field, schemaReader (Whole.format spelled) attempt depth = Whole.record schemaShape {} field ∧
      ∀ inner, depth = inner + 1 → field = schemaField (Whole.format spelled) attempt inner
        (fun _ => schemaReader (Whole.format spelled) attempt inner)
        (fun _ => schemaReader (Whole.format spelled) attempt (inner - 1)) := by
  cases depth with
  | zero => exact ⟨_, rfl, nofun⟩
  | succ depth =>
    refine ⟨_, schemaReader_succ _ _ depth, fun inner nests => ?_⟩
    cases nests
    rfl

/-- How deep schemas may nest does not matter as long as it is deep enough. -/
theorem schemaReader_congr (bound : value.depth ≤ depth) (bound' : value.depth ≤ depth')
    (tried : ∀ inner, inner.depth < value.depth → attempt inner = attempt' inner) :
    schemaReader (Whole.format spelled) attempt depth value =
      schemaReader (Whole.format spelled) attempt' depth' value := by
  induction depth using Nat.strongRecOn generalizing depth' value with
  | ind depth ih =>
    obtain ⟨field, reads, inside⟩ := schemaReader_whole spelled attempt depth
    obtain ⟨field', reads', inside'⟩ := schemaReader_whole spelled attempt' depth'
    rw [reads, reads']
    refine Whole.record_congr fun inner below index schema => ?_
    obtain ⟨depth, rfl⟩ := Nat.exists_eq_succ_of_ne_zero (Nat.ne_of_gt (Nat.lt_of_lt_of_le below bound).pos)
    obtain ⟨depth', rfl⟩ := Nat.exists_eq_succ_of_ne_zero (Nat.ne_of_gt (Nat.lt_of_lt_of_le below bound').pos)
    rw [inside depth rfl, inside' depth' rfl]
    have within : ∀ deeper, deeper.depth < inner.depth → attempt deeper = attempt' deeper :=
      fun deeper under => tried deeper (Nat.lt_trans under below)
    refine schemaField_congr ?_ ?_ (tried inner below) index schema
    · exact ih depth (Nat.lt_succ_self _) (by omega) (by omega) within
    · intro deeper under
      refine ih (depth - 1) (by omega) (by omega) (by omega) fun last lower => within last (Nat.lt_trans lower under)

end Depths

/-- A trial of a value as a schema is a reading of the value, in which values inside it are tried in turn. -/
theorem attempt_eq {value : Value} {depth : Nat} (bound : value.depth ≤ depth) :
    attempt value = schemaReader (Whole.format Attempt.jsonOf?) attempt depth value := by
  have all : ∀ (steps : Nat) (value : Value) (depth : Nat), value.depth ≤ steps → value.depth ≤ depth →
      schemaOf? steps value = schemaReader (Whole.format Attempt.jsonOf?) attempt depth value := by
    intro steps
    induction steps using Nat.strongRecOn with
    | ind steps ih =>
      intro value depth enough bound
      cases steps with
      | zero =>
        rw [schemaOf?, Attempt.format_eq]
        exact schemaReader_congr enough bound fun inner below => absurd below (by omega)
      | succ steps =>
        rw [schemaOf?, Attempt.format_eq]
        refine schemaReader_congr enough bound fun inner below => ?_
        have within := ih steps (Nat.lt_succ_self _) inner inner.depth (by omega) (Nat.le_refl _)
        have whole := ih inner.depth (by omega) inner inner.depth (Nat.le_refl _) (Nat.le_refl _)
        exact within.trans whole.symm
  exact all value.depth value depth (Nat.le_refl _) bound

/-! ## Trials and readings -/

section Trials

variable {α β σ : Type} {depth : Nat}

/-- A reading comes to an end if and only if the trial does, whatever is read. -/
def Agrees (depth : Nat) (reader : Whole (Except Json.ReadError) α) (trial : Whole Option α) : Prop :=
  ∀ json : Json, (Value.ofJson json).depth ≤ depth →
    (reader (Value.ofJson json)).isOk = (trial (Value.ofJson json)).isSome

theorem isOk_bind {reading : Except Json.ReadError α} {trial : Option α} {next : α → Except Json.ReadError β}
    {next' : α → Option β} (first : reading.isOk = trial.isSome) (rest : ∀ x y, (next x).isOk = (next' y).isSome) :
    (reading >>= next).isOk = (trial >>= next').isSome := by
  cases reading with
  | error e =>
    cases trial with
    | none => rfl
    | some y => contradiction
  | ok x =>
    cases trial with
    | none => contradiction
    | some y => exact rest x y

theorem isOk_mapM {reader : α → Except Json.ReadError β} {trial : α → Option β} {items : List α}
    (each : ∀ item ∈ items, (reader item).isOk = (trial item).isSome) :
    (items.mapM reader).isOk = (items.mapM trial).isSome := by
  induction items with
  | nil => rfl
  | cons item rest ih =>
    obtain ⟨first, later⟩ := List.forall_mem_cons.1 each
    rw [List.mapM_cons, List.mapM_cons]
    exact isOk_bind first fun _ _ => isOk_bind (ih later) fun _ _ => rfl

theorem isSome_jsonOf? (json : Json) : (Attempt.jsonOf? (Value.ofJson json)).isSome := by
  induction json using Json.induction with
  | null | bool | str => rfl
  | num n => cases n <;> rfl
  | arr items ih =>
    have all : (Attempt.jsonItems? (items.map Value.ofJson)).isSome := by
      induction items with
      | nil => rfl
      | cons item rest inner =>
        obtain ⟨first, later⟩ := List.forall_mem_cons.1 ih
        obtain ⟨_, here⟩ := Option.isSome_iff_exists.1 first
        obtain ⟨_, there⟩ := Option.isSome_iff_exists.1 (inner later)
        rw [List.map_cons, Attempt.jsonItems?, here, there]
        rfl
    rw [Value.ofJson_arr, Attempt.jsonOf?, Option.isSome_map]
    exact all
  | obj entries ih =>
    have all : (Attempt.jsonEntries? (entries.map fun entry => (.str entry.1, Value.ofJson entry.2))).isSome := by
      induction entries with
      | nil => rfl
      | cons entry rest inner =>
        obtain ⟨first, later⟩ := List.forall_mem_cons.1 ih
        obtain ⟨_, here⟩ := Option.isSome_iff_exists.1 first
        obtain ⟨_, there⟩ := Option.isSome_iff_exists.1 (inner later)
        rw [List.map_cons, Attempt.jsonEntries?, here, there]
        rfl
    rw [Value.ofJson_obj, Attempt.jsonOf?, Option.isSome_map]
    exact all

theorem agrees_optional {reader : Whole (Except Json.ReadError) α} {trial : Whole Option α}
    (inner : Agrees depth reader trial) : Agrees depth (Whole.optional reader) (Whole.optional trial) := by
  intro json bound
  rw [Whole.optional, Whole.optional]
  split
  next => rfl
  next =>
    rw [map_eq_pure_bind, map_eq_pure_bind]
    exact isOk_bind (inner json bound) fun _ _ => rfl

theorem agrees_choice (known : List String) : Agrees depth (Whole.choice known) (Whole.choice known) := by
  intro json bound
  have word (s : String) : (Whole.variant known s : Except Json.ReadError Nat).isOk =
      (Whole.variant known s : Option Nat).isSome := by
    unfold Whole.variant
    cases known.idxOf? s <;> rfl
  cases json with
  | null | bool => rfl
  | num n => cases n <;> rfl
  | str s => exact word s
  | arr items =>
    rw [Value.ofJson_arr]
    rfl
  | obj entries =>
    rw [Value.ofJson_obj]
    cases entries with
    | nil => rfl
    | cons entry rest =>
      have null : (Whole.unit (Value.ofJson entry.2) : Except Json.ReadError Unit).isOk =
          (Whole.unit (Value.ofJson entry.2) : Option Unit).isSome := by
        unfold Whole.unit
        split <;> rfl
      change Except.isOk (Whole.variant known entry.1 >>= fun _ => Whole.unit (Value.ofJson entry.2) >>= fun _ => _) =
        Option.isSome (Whole.variant known entry.1 >>= fun _ => Whole.unit (Value.ofJson entry.2) >>= fun _ => _)
      refine isOk_bind (word entry.1) fun _ _ => isOk_bind null fun _ _ => ?_
      cases rest <;> rfl

theorem agrees_list {item : Whole (Except Json.ReadError) α} {trial : Whole Option α}
    (items : Agrees (depth - 1) item trial) : Agrees depth (Whole.listOf item) (Whole.listOf trial) := by
  intro json bound
  cases json with
  | null | bool | str => rfl
  | num n => cases n <;> rfl
  | arr values =>
    rw [Value.ofJson_arr, Whole.listOf, Whole.listOf, List.mapM_map, List.mapM_map]
    refine isOk_mapM fun value mem => items value ?_
    exact Nat.le_pred_of_lt (Nat.lt_of_lt_of_le (Value.depth_lt_arr mem) bound)
  | obj entries =>
    rw [Value.ofJson_obj]
    rfl

theorem agrees_entries {inner : Whole (Except Json.ReadError) α} {trial : Whole Option α}
    (values : Agrees (depth - 1) inner trial) : Agrees depth (Whole.entriesOf inner) (Whole.entriesOf trial) := by
  intro json bound
  cases json with
  | null | bool | str => rfl
  | num n => cases n <;> rfl
  | arr items =>
    rw [Value.ofJson_arr]
    rfl
  | obj entries =>
    rw [Value.ofJson_obj, Whole.entriesOf, Whole.entriesOf, List.mapM_map, List.mapM_map]
    refine isOk_mapM fun entry mem => isOk_bind rfl fun _ _ => isOk_bind (values entry.2 ?_) fun _ _ => rfl
    exact Nat.le_pred_of_lt (Nat.lt_of_lt_of_le (Value.depth_lt_obj mem) bound)

section Records

variable {shape : RecordShape} {field : Nat → σ → Whole (Except Json.ReadError) σ} {trial : Nat → σ → Whole Option σ}

theorem isOk_positions (fields : ∀ index record record', Agrees depth (field index record) (trial index record'))
    (places : List ((String × Presence) × Nat)) {items : List Json}
    (bounds : ∀ item ∈ items, (Value.ofJson item).depth ≤ depth) (record record' : σ) :
    (Whole.positions shape field places (items.map Value.ofJson) record).isOk =
      (Whole.positions shape trial places (items.map Value.ofJson) record').isSome := by
  induction places generalizing items record record' with
  | nil => cases items <;> rfl
  | cons place places ih =>
    cases items with
    | nil =>
      rw [List.map_nil, Whole.positions, Whole.positions]
      split
      next => exact ih bounds record record'
      next => rfl
    | cons item items =>
      obtain ⟨first, later⟩ := List.forall_mem_cons.1 bounds
      exact isOk_bind (fields place.2 record record' item first) (ih later)

theorem isOk_fields (fields : ∀ index record record', Agrees depth (field index record) (trial index record'))
    (seen : List Nat) {entries : List (String × Json)}
    (bounds : ∀ entry ∈ entries, (Value.ofJson entry.2).depth ≤ depth) (record record' : σ) :
    (Whole.fields shape field seen (entries.map fun entry => (.str entry.1, Value.ofJson entry.2)) record).isOk =
      (Whole.fields shape trial seen (entries.map fun entry => (.str entry.1, Value.ofJson entry.2))
        record').isSome := by
  induction entries generalizing seen record record' with
  | nil =>
    rw [List.map_nil, Whole.fields, Whole.fields]
    cases shape.missing? seen <;> rfl
  | cons entry entries ih =>
    obtain ⟨first, later⟩ := List.forall_mem_cons.1 bounds
    rw [List.map_cons, Whole.fields, Whole.fields]
    dsimp only [Attempt.fieldOf?]
    cases shape.index? entry.1 with
    | none => exact ih seen later record record'
    | some index =>
      dsimp only
      split
      next => rfl
      next => exact isOk_bind (fields index record record' entry.2 first) (ih (index :: seen) later)

end Records

theorem agrees_record (shape : RecordShape) (start : σ) {field : Nat → σ → Whole (Except Json.ReadError) σ}
    {trial : Nat → σ → Whole Option σ} (fields : ∀ inner, depth = inner + 1 → ∀ index record record',
      Agrees inner (field index record) (trial index record')) :
    Agrees depth (Whole.record shape start field) (Whole.record shape start trial) := by
  intro json bound
  cases json with
  | null | bool | str => rfl
  | num n => cases n <;> rfl
  | arr items =>
    obtain ⟨inner, rfl⟩ := Nat.exists_eq_succ_of_ne_zero (Nat.ne_of_gt (Nat.lt_of_lt_of_le (Nat.succ_pos _) bound))
    have within (item : Json) (mem : item ∈ items) : (Value.ofJson item).depth ≤ inner :=
      Nat.le_of_lt_succ (Nat.lt_of_lt_of_le (Value.depth_lt_arr mem) bound)
    rw [Value.ofJson_arr]
    exact isOk_positions (fields inner rfl) _ within start start
  | obj entries =>
    obtain ⟨inner, rfl⟩ := Nat.exists_eq_succ_of_ne_zero (Nat.ne_of_gt (Nat.lt_of_lt_of_le (Nat.succ_pos _) bound))
    have within (entry : String × Json) (mem : entry ∈ entries) : (Value.ofJson entry.2).depth ≤ inner :=
      Nat.le_of_lt_succ (Nat.lt_of_lt_of_le (Value.depth_lt_obj mem) bound)
    rw [Value.ofJson_obj]
    exact isOk_fields (fields inner rfl) _ within start start

/-- A trial ends as a reading of the same value does. -/
theorem format_agrees : (Whole.format Json.spelled).Matches (Whole.format Attempt.jsonOf?) False Agrees where
  text := fun json _ => by cases json with
    | num n => cases n <;> rfl
    | arr => rw [Value.ofJson_arr]; rfl
    | obj => rw [Value.ofJson_obj]; rfl
    | _ => rfl
  flag := fun json _ => by cases json with
    | num n => cases n <;> rfl
    | arr => rw [Value.ofJson_arr]; rfl
    | obj => rw [Value.ofJson_obj]; rfl
    | _ => rfl
  optional := agrees_optional
  choice := agrees_choice
  listOf := agrees_list
  entriesOf := agrees_entries
  record shape start _ _ fields := agrees_record shape start fun inner nests index record record' =>
    fields inner nests index record record' False.elim
  json := fun json _ => by
    change (Json.spelled (Value.ofJson json)).isOk = (Attempt.jsonOf? (Value.ofJson json)).isSome
    rw [Json.spelled_ofJson, isSome_jsonOf?]
    rfl
  untyped := fun _ _ => rfl
  map := by
    intro α β depth reader trial inner g g' _ json bound
    exact isOk_bind (inner json bound) fun _ _ => rfl

/-- A value is refused as a schema where it is read if and only if it is none where it is tried. -/
theorem isOk_schemaReader {json : Json} (bound : (Value.ofJson json).depth ≤ depth) :
    (schemaReader (Whole.format Json.spelled) attempt depth (Value.ofJson json)).isOk =
      (attempt (Value.ofJson json)).isSome := by
  rw [related_schema format_agrees attempt depth json bound, attempt_eq bound]

end Trials

end CmdletForge.Description
