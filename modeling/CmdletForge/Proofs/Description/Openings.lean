import CmdletForge.Proofs.Description.Attempts

/-!
# Values with an open place

A place in a value is the function that puts a value there. What is read of a schema or of a description goes
through what is read at a place of it, if the reading gets so far: as long as the same is read there, the same is
read of the whole; and if what stands there is refused, so is the whole.
-/

namespace CmdletForge.Description

/-! ## Places -/

/-- A record with an open field, as an object or as the list of its fields. -/
inductive FieldOpen (shape : RecordShape) (name : String) : (Json → Json) → Prop where
  | entry (before after : List (String × Json)) :
    FieldOpen shape name fun value => .obj (before ++ (name, value) :: after)
  | item (before after : List Json) (place : shape.index? name = some before.length) :
    FieldOpen shape name fun value => .arr (before ++ value :: after)

/-- A schema with an open place for a schema, at any depth. It is marked whether the place is in what is tried. -/
inductive SchemaOpen : (tried : Bool) → (Json → Json) → Prop where
  | whole : SchemaOpen false id
  | items {tried : Bool} {f c : Json → Json} (field : FieldOpen schemaShape "items" f) (inner : SchemaOpen tried c) :
    SchemaOpen tried fun value => f (c value)
  | property {tried : Bool} {f c : Json → Json} (field : FieldOpen schemaShape "properties" f)
    (before : List (String × Json)) (name : String) (after : List (String × Json)) (inner : SchemaOpen tried c) :
    SchemaOpen tried fun value => f (.obj (before ++ (name, c value) :: after))
  | variant {tried : Bool} {f c : Json → Json} (field : FieldOpen schemaShape "oneOf" f) (before after : List Json)
    (inner : SchemaOpen tried c) : SchemaOpen tried fun value => f (.arr (before ++ c value :: after))
  | additional {tried : Bool} {f c : Json → Json} (field : FieldOpen schemaShape "additionalProperties" f)
    (inner : SchemaOpen tried c) : SchemaOpen true fun value => f (c value)

/-- A description with an open place for a schema, at any depth. -/
inductive DescriptionOpen : (tried : Bool) → (Json → Json) → Prop where
  | entry {tried : Bool} {f c : Json → Json} (field : FieldOpen documentShape "schemas" f)
    (before : List (String × Json)) (name : String) (after : List (String × Json)) (inner : SchemaOpen tried c) :
    DescriptionOpen tried fun value => f (.obj (before ++ (name, c value) :: after))
  | parameter {tried : Bool} {f g h c : Json → Json} (field : FieldOpen documentShape "operations" f)
    (before after : List Json) (operation : FieldOpen operationShape "parameters" g) (before' after' : List Json)
    (parameter : FieldOpen parameterShape "schema" h) (inner : SchemaOpen tried c) :
    DescriptionOpen tried fun value => f (.arr (before ++ g (.arr (before' ++ h (c value) :: after')) :: after))
  | response {tried : Bool} {f g c : Json → Json} (field : FieldOpen documentShape "operations" f)
    (before after : List Json) (operation : FieldOpen operationShape "response" g) (inner : SchemaOpen tried c) :
    DescriptionOpen tried fun value => f (.arr (before ++ g (c value) :: after))

theorem FieldOpen.ne_null {shape : RecordShape} {name : String} {f : Json → Json} (field : FieldOpen shape name f)
    (value : Json) : f value ≠ .null := by
  cases field <;> nofun

theorem SchemaOpen.ne_null {tried : Bool} {c : Json → Json} (inner : SchemaOpen tried c) {value : Json}
    (something : value ≠ .null) : c value ≠ .null := by
  cases inner with
  | whole => exact something
  | items field | property field | variant field | additional field => exact field.ne_null _

theorem depth_item_lt (before after : List Json) (value : Json) :
    (Value.ofJson value).depth < (Value.ofJson (.arr (before ++ value :: after))).depth :=
  Value.depth_lt_arr (by simp)

theorem depth_entry_lt (before : List (String × Json)) (name : String) (after : List (String × Json)) (value : Json) :
    (Value.ofJson value).depth < (Value.ofJson (.obj (before ++ (name, value) :: after))).depth := by
  have mem : (name, value) ∈ before ++ (name, value) :: after := by simp
  exact Value.depth_lt_obj mem

theorem FieldOpen.depth_lt {shape : RecordShape} {name : String} {f : Json → Json} (field : FieldOpen shape name f)
    (value : Json) : (Value.ofJson value).depth < (Value.ofJson (f value)).depth := by
  cases field with
  | entry before after => exact depth_entry_lt before name after value
  | item before after => exact depth_item_lt before after value

/-! ## Reading through a place -/

section Through

variable {n : Type → Type} [Monad n] [LawfulMonad n] [Refusing n] {ι α β γ σ : Type}

/-- What is read of the whole goes through what is read of the part, if it gets so far. -/
def Through (whole : ι → n α) (part : ι → n β) : Prop :=
  ∃ (κ : Type) (first : n κ) (later : κ → β → n α), ∀ i, whole i = first >>= fun k => part i >>= later k

omit [Refusing n] in
theorem Through.of_bind {whole : ι → n α} {part : ι → n β} (later : β → n α)
    (same : ∀ i, whole i = part i >>= later) : Through whole part :=
  ⟨Unit, pure (), fun _ => later, fun i => by rw [same, pure_bind]⟩

omit [Refusing n] in
theorem Through.trans {whole : ι → n α} {part : ι → n β} {inner : ι → n γ} (outside : Through whole part)
    (inside : Through part inner) : Through whole inner := by
  obtain ⟨κ, first, later, same⟩ := outside
  obtain ⟨κ', first', later', same'⟩ := inside
  refine ⟨κ × κ', first >>= fun k => first' >>= fun k' => pure (k, k'),
    fun (k, k') x => later' k' x >>= later k, fun i => ?_⟩
  simp only [same, same', bind_assoc, pure_bind]

omit [LawfulMonad n] [Refusing n] in
theorem Through.eq {whole : ι → n α} {part : ι → n β} (through : Through whole part) {i j : ι}
    (same : part i = part j) : whole i = whole j := by
  obtain ⟨κ, first, later, whole_eq⟩ := through
  rw [whole_eq, whole_eq, same]

theorem Through.refused {whole : ι → Except Json.ReadError α} {part : ι → Except Json.ReadError β}
    (through : Through whole part) {i : ι} {e : Json.ReadError} (refused : part i = .error e) :
    ∃ e, whole i = .error e := by
  obtain ⟨κ, first, later, whole_eq⟩ := through
  rw [whole_eq, refused]
  cases first with
  | error e => exact ⟨e, rfl⟩
  | ok k => exact ⟨e, rfl⟩

/-- A record goes through any of its fields. -/
theorem through_record {shape : RecordShape} {name : String} {f : Json → Json} (field : FieldOpen shape name f)
    {index : Nat} (place : shape.index? name = some index) {start : σ} {read : Nat → σ → Whole n σ}
    (values : ι → Json) {part : ι → n β} (put : σ → β → σ)
    (reads : ∀ record i, read index record (Value.ofJson (values i)) = part i >>= fun x => pure (put record x)) :
    Through (fun i => Whole.record shape start read (Value.ofJson (f (values i)))) part := by
  have split (first later : σ → n σ) (whole : ∀ value, Whole.record shape start read (Value.ofJson (f value)) =
      first start >>= fun record => read index record (Value.ofJson value) >>= later) :
      Through (fun i => Whole.record shape start read (Value.ofJson (f (values i)))) part := by
    refine ⟨σ, first start, fun record x => later (put record x), fun i => ?_⟩
    simp only [whole, reads, bind_assoc, pure_bind]
  cases field with
  | entry before after =>
    have known : Attempt.fieldOf? shape (.str name) = some (some index) := congrArg some place
    obtain ⟨first, later, whole⟩ := Whole.fields_at shape read []
      (before.map fun entry => (.str entry.1, Value.ofJson entry.2))
      (after.map fun entry => (.str entry.1, Value.ofJson entry.2)) known
    refine split first later fun value => ?_
    rw [Value.ofJson_obj, List.map_append, List.map_cons]
    exact whole start (Value.ofJson value)
  | item before after here =>
    obtain rfl : index = before.length := Option.some.inj (place.symm.trans here)
    obtain ⟨bound, -⟩ := List.idxOf?_eq_some_iff.1 place
    rw [List.length_map] at bound
    have known : shape.fields.zipIdx[(before.map Value.ofJson).length]? =
        some (shape.fields[before.length], before.length) := by
      simp [bound]
    obtain ⟨first, later, whole⟩ := Whole.positions_at shape read (before.map Value.ofJson)
      (after.map Value.ofJson) known
    refine split first later fun value => ?_
    rw [Value.ofJson_arr, List.map_append, List.map_cons]
    exact whole start (Value.ofJson value)

omit [Refusing n] in
theorem through_optional (reader : Whole n α) {values : ι → Json} (something : ∀ i, values i ≠ .null) :
    Through (fun i => Whole.optional reader (Value.ofJson (values i)))
      (fun i => reader (Value.ofJson (values i))) := by
  refine .of_bind (fun x => pure (some x)) fun i => ?_
  rw [Whole.optional, if_neg (by rw [Value.isNull_ofJson]; exact something i), map_eq_pure_bind]

/-- A list goes through any of its items. -/
theorem through_list (before after : List Json) (item : Whole n α) (values : ι → Json) :
    Through (fun i => Whole.listOf item (Value.ofJson (.arr (before ++ values i :: after))))
      (fun i => item (Value.ofJson (values i))) := by
  refine ⟨List α, (before.map Value.ofJson).mapM item, fun first x =>
    (after.map Value.ofJson).mapM item >>= fun later => pure (first ++ x :: later), fun i => ?_⟩
  dsimp only
  rw [Value.ofJson_arr, List.map_append, List.map_cons]
  exact Whole.mapM_at item _ _ _

/-- A mapping goes through any of its values. -/
theorem through_entries (before : List (String × Json)) (name : String) (after : List (String × Json))
    (inner : Whole n α) (values : ι → Json) :
    Through (fun i => Whole.entriesOf inner (Value.ofJson (.obj (before ++ (name, values i) :: after))))
      (fun i => inner (Value.ofJson (values i))) := by
  let step (entry : Value × Value) : n (String × α) := do
    pure (← Whole.text "a string" entry.1, ← inner entry.2)
  let untyped (entry : String × Json) : Value × Value := (.str entry.1, Value.ofJson entry.2)
  refine ⟨List (String × α), (before.map untyped).mapM step, fun first x =>
    (after.map untyped).mapM step >>= fun later => pure (first ++ (name, x) :: later), fun i => ?_⟩
  have here : step (untyped (name, values i)) = inner (Value.ofJson (values i)) >>= fun x => pure (name, x) := by
    change (pure name >>= fun key => inner (Value.ofJson (values i)) >>= fun x => pure (key, x)) = _
    rw [pure_bind]
  have whole := Whole.mapM_at step (before.map untyped) (after.map untyped) (untyped (name, values i))
  simp only [here, bind_assoc, pure_bind] at whole
  dsimp only
  rw [Value.ofJson_obj, List.map_append, List.map_cons]
  exact whole

/-! ## Schemas -/

section Schemas

variable (spelled : Value → n Json) (attempt : Value → Option SchemaDoc) (depth : Nat) {f : Json → Json}

/-- A schema goes through what it holds. -/
theorem through_items (field : FieldOpen schemaShape "items" f) {values : ι → Json}
    (something : ∀ i, values i ≠ .null) :
    Through (fun i => schemaReader (Whole.format spelled) attempt (depth + 1) (Value.ofJson (f (values i))))
      (fun i => schemaReader (Whole.format spelled) attempt depth (Value.ofJson (values i))) := by
  rw [schemaReader_succ]
  exact (through_record field rfl values (fun schema items => { schema with items }) fun _ _ => rfl).trans
    (through_optional _ something)

/-- A schema goes through any of its properties. -/
theorem through_property (field : FieldOpen schemaShape "properties" f) (before : List (String × Json))
    (name : String) (after : List (String × Json)) (values : ι → Json) :
    Through (fun i => schemaReader (Whole.format spelled) attempt (depth + 1)
        (Value.ofJson (f (.obj (before ++ (name, values i) :: after)))))
      (fun i => schemaReader (Whole.format spelled) attempt (depth - 1) (Value.ofJson (values i))) := by
  rw [schemaReader_succ]
  exact (through_record field rfl (fun i => .obj (before ++ (name, values i) :: after))
    (fun schema properties => { schema with properties }) fun _ _ => rfl).trans (through_entries ..)

/-- A schema goes through any of its alternatives. -/
theorem through_variant (field : FieldOpen schemaShape "oneOf" f) (before after : List Json) (values : ι → Json) :
    Through (fun i => schemaReader (Whole.format spelled) attempt (depth + 1)
        (Value.ofJson (f (.arr (before ++ values i :: after)))))
      (fun i => schemaReader (Whole.format spelled) attempt (depth - 1) (Value.ofJson (values i))) := by
  rw [schemaReader_succ]
  exact (through_record field rfl (fun i => .arr (before ++ values i :: after))
    (fun schema variants => { schema with variants }) fun _ _ => rfl).trans (through_list ..)

/-- Of additional properties only what they are tried as matters. -/
theorem through_additional (field : FieldOpen schemaShape "additionalProperties" f) {values : ι → Json}
    (something : ∀ i, values i ≠ .null) :
    Through (fun i => schemaReader (Whole.format spelled) attempt (depth + 1) (Value.ofJson (f (values i))))
      (fun i => (pure (attempt (Value.ofJson (values i))) : n (Option SchemaDoc))) := by
  rw [schemaReader_succ]
  refine through_record field rfl values (fun schema tried => { schema with
    additional := tried.elim .flag .schema }) fun schema i => ?_
  have there : (Value.ofJson (values i)).isNull ≠ true := by
    rw [ne_eq, Value.isNull_ofJson]
    exact something i
  change (if (Value.ofJson (values i)).isNull then pure none else some <$> pure (Value.ofJson (values i))) >>= _ = _
  rw [if_neg there, map_pure, pure_bind, pure_bind]
  dsimp only
  cases attempt (Value.ofJson (values i)) <;> rfl

end Schemas

/-! ## Descriptions -/

/-- A description goes through a schema that has the open place, which stands that much deeper. -/
theorem DescriptionOpen.through_schema {tried : Bool} {c : Json → Json} (place : DescriptionOpen tried c) :
    ∃ (inner : Json → Json) (outside : Nat), SchemaOpen tried inner ∧
      (∀ value, (Value.ofJson (inner value)).depth + outside ≤ (Value.ofJson (c value)).depth) ∧
      ∀ (spelled : Value → n Json) (attempt : Value → Option SchemaDoc) (depth : Nat)
          {ι : Type} {values : ι → Json}, (∀ i, values i ≠ .null) →
          Through (fun i => documentReader (Whole.format spelled) attempt depth (Value.ofJson (c (values i))))
            (fun i => schemaReader (Whole.format spelled) attempt (depth - outside)
              (Value.ofJson (inner (values i)))) := by
  cases place with
  | @entry f inner field before name after place =>
    refine ⟨inner, 2, place, fun value => ?_, fun spelled attempt depth ι values something => ?_⟩
    · have table := depth_entry_lt before name after (inner value)
      have whole := field.depth_lt (.obj (before ++ (name, inner value) :: after))
      dsimp only
      omega
    · exact (through_record field rfl (fun i => .obj (before ++ (name, inner (values i)) :: after))
        (fun document schemas => { document with schemas }) fun _ _ => rfl).trans (through_entries ..)
  | @parameter f g h inner field before after operation before' after' parameter place =>
    refine ⟨inner, 5, place, fun value => ?_, fun spelled attempt depth ι values something => ?_⟩
    · have own := parameter.depth_lt (inner value)
      have listed := depth_item_lt before' after' (h (inner value))
      have called := operation.depth_lt (.arr (before' ++ h (inner value) :: after'))
      have item := depth_item_lt before after (g (.arr (before' ++ h (inner value) :: after')))
      have whole := field.depth_lt (.arr (before ++ g (.arr (before' ++ h (inner value) :: after')) :: after))
      dsimp only
      omega
    · refine (through_record field rfl
        (fun i => .arr (before ++ g (.arr (before' ++ h (inner (values i)) :: after')) :: after))
        (fun document operations => { document with operations }) fun _ _ => rfl).trans ?_
      refine (through_list before after _ fun i => g (.arr (before' ++ h (inner (values i)) :: after'))).trans ?_
      refine (through_record operation rfl (fun i => .arr (before' ++ h (inner (values i)) :: after'))
        (fun operation parameters => { operation with parameters }) fun _ _ => rfl).trans ?_
      refine (through_list before' after' _ fun i => h (inner (values i))).trans ?_
      exact through_record parameter rfl (fun i => inner (values i))
        (fun parameter schema => { parameter with schema }) fun _ _ => rfl
  | @response f g inner field before after operation place =>
    refine ⟨inner, 3, place, fun value => ?_, fun spelled attempt depth ι values something => ?_⟩
    · have called := operation.depth_lt (inner value)
      have item := depth_item_lt before after (g (inner value))
      have whole := field.depth_lt (.arr (before ++ g (inner value) :: after))
      dsimp only
      omega
    · refine (through_record field rfl (fun i => .arr (before ++ g (inner (values i)) :: after))
        (fun document operations => { document with operations }) fun _ _ => rfl).trans ?_
      refine (through_list before after _ fun i => g (inner (values i))).trans ?_
      refine (through_record operation rfl (fun i => inner (values i))
        (fun operation response => { operation with response }) fun _ _ => rfl).trans ?_
      exact through_optional _ fun i => place.ne_null (something i)

end Through

end CmdletForge.Description
