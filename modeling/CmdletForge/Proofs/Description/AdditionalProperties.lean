import CmdletForge.Proofs.Description.Openings

/-!
# Additional properties that are no schema

What stands under `additionalProperties` is tried as a schema, and nothing is said if it is none: the description
is that in which `true` stands there, or what was to be read of it fails for another reason. Anywhere else a value
that is no schema is a fault.
-/

namespace CmdletForge.Description

/-! ## The same in the same place -/

/-- Two values are the same schema in every way in which a schema can be read. -/
def Alike (x y : Json) : Prop :=
  ∀ {n : Type → Type} [Monad n] [LawfulMonad n] [Refusing n] (spelled : Value → n Json) (depth : Nat),
    (Value.ofJson x).depth ≤ depth → (Value.ofJson y).depth ≤ depth →
      schemaReader (Whole.format spelled) attempt depth (Value.ofJson x) =
        schemaReader (Whole.format spelled) attempt depth (Value.ofJson y)

variable {x y : Json} {tried : Bool} {c f : Json → Json}

theorem Alike.attempt_eq (alike : Alike x y) : attempt (Value.ofJson x) = attempt (Value.ofJson y) := by
  have left := Nat.le_max_left (Value.ofJson x).depth (Value.ofJson y).depth
  have right := Nat.le_max_right (Value.ofJson x).depth (Value.ofJson y).depth
  rw [Description.attempt_eq left, Description.attempt_eq right]
  exact alike Attempt.jsonOf? _ left right

/-- Two values, told by a mark. -/
def either (x y : Json) (mark : Bool) : Json := if mark then x else y

theorem either_ne_null (left : x ≠ .null) (right : y ≠ .null) (mark : Bool) : either x y mark ≠ .null := by
  cases mark
  · exact right
  · exact left

/-- A record that is open is not of depth zero. -/
theorem FieldOpen.exists_depth {shape : RecordShape} {name : String} (field : FieldOpen shape name f) {value : Json}
    {depth : Nat} (bound : (Value.ofJson (f value)).depth ≤ depth) :
    ∃ inner, depth = inner + 1 ∧ (Value.ofJson value).depth ≤ inner := by
  have below := field.depth_lt value
  exact ⟨depth - 1, by omega, by omega⟩

/-- In the same place of a schema, what is the same schema makes the same schema. -/
theorem SchemaOpen.alike (place : SchemaOpen tried c) (left : x ≠ .null) (right : y ≠ .null) (same : Alike x y) :
    Alike (c x) (c y) := by
  induction place with
  | whole => exact same
  | @items tried f c field inner ih =>
    intro n _ _ _ spelled depth boundx boundy
    obtain ⟨depth, rfl, withinx⟩ := field.exists_depth boundx
    have withiny := Nat.le_of_lt_succ (Nat.lt_of_lt_of_le (field.depth_lt _) boundy)
    have something := either_ne_null (inner.ne_null left) (inner.ne_null right)
    exact (through_items spelled attempt depth field something).eq (i := true) (j := false)
      (ih spelled depth withinx withiny)
  | @property tried f c field before name after inner ih =>
    intro n _ _ _ spelled depth boundx boundy
    obtain ⟨depth, rfl, withinx⟩ := field.exists_depth boundx
    have withiny := Nat.le_of_lt_succ (Nat.lt_of_lt_of_le (field.depth_lt _) boundy)
    have belowx := depth_entry_lt before name after (c x)
    have belowy := depth_entry_lt before name after (c y)
    exact (through_property spelled attempt depth field before name after (either (c x) (c y))).eq
      (i := true) (j := false) (ih spelled (depth - 1) (by omega) (by omega))
  | @variant tried f c field before after inner ih =>
    intro n _ _ _ spelled depth boundx boundy
    obtain ⟨depth, rfl, withinx⟩ := field.exists_depth boundx
    have withiny := Nat.le_of_lt_succ (Nat.lt_of_lt_of_le (field.depth_lt _) boundy)
    have belowx := depth_item_lt before after (c x)
    have belowy := depth_item_lt before after (c y)
    exact (through_variant spelled attempt depth field before after (either (c x) (c y))).eq
      (i := true) (j := false) (ih spelled (depth - 1) (by omega) (by omega))
  | @additional tried f c field inner ih =>
    intro n _ _ _ spelled depth boundx boundy
    obtain ⟨depth, rfl, -⟩ := field.exists_depth boundx
    have something := either_ne_null (inner.ne_null left) (inner.ne_null right)
    refine (through_additional spelled attempt depth field something).eq (i := true) (j := false) ?_
    exact congrArg pure ih.attempt_eq

/-- In the same place of a description, what is the same schema makes the same description. -/
theorem DescriptionOpen.ofWhole_eq (place : DescriptionOpen tried c) (left : x ≠ .null) (right : y ≠ .null)
    (boundx : (Value.ofJson (c x)).depth ≤ Json.maxDepth) (boundy : (Value.ofJson (c y)).depth ≤ Json.maxDepth)
    (same : Alike x y) : ofWhole (c x) = ofWhole (c y) := by
  obtain ⟨inner, outside, schema, deeper, through⟩ := place.through_schema (n := Except Json.ReadError)
  have belowx := deeper x
  have belowy := deeper y
  have alike := schema.alike left right same Json.spelled (Json.maxDepth - outside) (by omega) (by omega)
  exact (through Json.spelled attempt Json.maxDepth (either_ne_null left right)).eq
    (i := true) (j := false) alike

/-! ## Values that are no schema -/

/-- Where nothing is tried, a schema is refused for a place that is refused. -/
theorem SchemaOpen.refused (place : SchemaOpen tried c) (asked : tried = false) (something : x ≠ .null)
    (noSchema : attempt (Value.ofJson x) = none) {depth : Nat} (bound : (Value.ofJson (c x)).depth ≤ depth) :
    ∃ e, schemaReader (Whole.format Json.spelled) attempt depth (Value.ofJson (c x)) = .error e := by
  induction place generalizing depth with
  | whole =>
    have ends := isOk_schemaReader bound
    rw [id, noSchema] at ends
    cases found : schemaReader (Whole.format Json.spelled) attempt depth (Value.ofJson x) with
    | error e => exact ⟨e, found⟩
    | ok schema =>
      rw [found] at ends
      contradiction
  | @items tried f c field inner ih =>
    obtain ⟨depth, rfl, within⟩ := field.exists_depth bound
    obtain ⟨e, part⟩ := ih asked within
    exact (through_items Json.spelled attempt depth field fun _ : Unit => inner.ne_null something).refused
      (i := ()) part
  | @property tried f c field before name after inner ih =>
    obtain ⟨depth, rfl, within⟩ := field.exists_depth bound
    have below := depth_entry_lt before name after (c x)
    have inside : (Value.ofJson (c x)).depth ≤ depth - 1 := by omega
    obtain ⟨e, part⟩ := ih asked inside
    exact (through_property Json.spelled attempt depth field before name after fun _ : Unit => c x).refused
      (i := ()) part
  | @variant tried f c field before after inner ih =>
    obtain ⟨depth, rfl, within⟩ := field.exists_depth bound
    have below := depth_item_lt before after (c x)
    have inside : (Value.ofJson (c x)).depth ≤ depth - 1 := by omega
    obtain ⟨e, part⟩ := ih asked inside
    exact (through_variant Json.spelled attempt depth field before after fun _ : Unit => c x).refused
      (i := ()) part
  | additional => contradiction

/-- Where nothing is tried, a description is refused for a place that is refused. -/
theorem DescriptionOpen.refused (place : DescriptionOpen false c) (something : x ≠ .null)
    (noSchema : attempt (Value.ofJson x) = none) (bound : (Value.ofJson (c x)).depth ≤ Json.maxDepth) :
    ∃ e, ofWhole (c x) = .error e := by
  obtain ⟨inner, outside, schema, deeper, through⟩ := place.through_schema (n := Except Json.ReadError)
  have below := deeper x
  have inside : (Value.ofJson (inner x)).depth ≤ Json.maxDepth - outside := by omega
  obtain ⟨e, part⟩ := schema.refused rfl something noSchema inside
  exact (through Json.spelled attempt Json.maxDepth fun _ : Unit => something).refused (i := ()) part

/-- Additional properties that are no schema are those of a schema with `true` for them. -/
theorem alike_true (field : FieldOpen schemaShape "additionalProperties" f) (something : x ≠ .null)
    (noSchema : attempt (Value.ofJson x) = none) : Alike (f x) (f (.bool true)) := by
  intro n _ _ _ spelled depth bound _
  obtain ⟨depth, rfl, -⟩ := field.exists_depth bound
  have true_ne : Json.bool true ≠ .null := nofun
  refine (through_additional spelled attempt depth field (either_ne_null something true_ne)).eq
    (i := true) (j := false) ?_
  have flag : attempt (Value.ofJson (.bool true)) = none := rfl
  exact congrArg pure (noSchema.trans flag.symm)

/-- **Additional properties that are no schema are never reported.** For a value that is no schema, at any depth of
any description: where it stands under `additionalProperties`, the text gives what it gives with `true` in its
place, so nothing is said of the value; and where a schema must stand that is not inside of additional properties,
the text is refused. -/
theorem ofJson_of_attempt_eq_none (something : x ≠ .null) (noSchema : attempt (Value.ofJson x) = none) :
    (∀ {tried : Bool} {c f : Json → Json} {text text' : String},
      DescriptionOpen tried c → FieldOpen schemaShape "additionalProperties" f →
        Json.decode text = .ok (c (f x)) → Json.decode text' = .ok (c (f (.bool true))) →
          ofJson text = ofJson text' ∧ Model.ofJson text = Model.ofJson text') ∧
    (∀ {c : Json → Json} {text : String}, DescriptionOpen false c → Json.decode text = .ok (c x) →
      ∃ e, ofJson text = .error e ∧ Model.ofJson text = .error (.json e)) := by
  constructor
  · intro tried c f text text' place field spells spells'
    have same : ofJson text = ofJson text' := by
      rw [ofJson_eq_ofWhole spells, ofJson_eq_ofWhole spells']
      exact place.ofWhole_eq (field.ne_null _) (field.ne_null _) (Json.depth_le_of_decode spells)
        (Json.depth_le_of_decode spells') (alike_true field something noSchema)
    exact ⟨same, by rw [Model.ofJson, Model.ofJson, same]⟩
  · intro c text place spells
    obtain ⟨e, refused⟩ := place.refused something noSchema (Json.depth_le_of_decode spells)
    have whole := (ofJson_eq_ofWhole spells).trans refused
    exact ⟨e, whole, by rw [Model.ofJson, whole]; rfl⟩

/-- A description of one schema with one field. -/
def described (field : String) (value : Json) : Json :=
  .obj [("schemas", .obj [("A", .obj [(field, value)])])]

/-- An object that is no schema: a type must be a text. -/
def wrongType : Json := .obj [("type", .num (.int 5))]

theorem readable_described (field : String) {value : Json} (inside : Json.Readable 124 value) :
    Json.Readable Json.maxDepth (described field value) := by
  have one {depth : Nat} {name : String} {value : Json} (inside : Json.Readable depth value) :
      Json.Readable (depth + 1) (.obj [(name, value)]) :=
    .obj (List.forall_mem_singleton.2 inside)
  exact one (one (one inside))

theorem readable_wrongType : Json.Readable 124 wrongType := by
  have fits : (Number.int 5).Fits := by
    constructor <;> decide
  exact .obj (List.forall_mem_singleton.2 (.num fits))

/-- The object under the additional properties of `A` is as good as `true`, and as the items of `A` it is refused. -/
theorem wrongType_unreported :
    Model.ofJson (described "additionalProperties" wrongType).pretty =
        Model.ofJson (described "additionalProperties" (.bool true)).pretty ∧
      ∃ e, Model.ofJson (described "items" wrongType).pretty = .error (.json e) := by
  have noSchema : attempt (Value.ofJson wrongType) = none := rfl
  obtain ⟨flagged, elsewhere⟩ := ofJson_of_attempt_eq_none (x := wrongType) nofun noSchema
  have spells (field : String) := Json.decode_pretty (readable_described field readable_wrongType)
  have schema : DescriptionOpen false fun value => .obj [("schemas", .obj [("A", value)])] :=
    .entry (.entry [] []) [] "A" [] .whole
  have items : DescriptionOpen false (described "items") :=
    .entry (.entry [] []) [] "A" [] (.items (.entry [] []) .whole)
  have spells' := Json.decode_pretty (readable_described "additionalProperties" (.bool true))
  obtain ⟨-, same⟩ := flagged schema (.entry [] []) (spells "additionalProperties") spells'
  obtain ⟨e, -, refused⟩ := elsewhere items (spells "items")
  exact ⟨same, e, refused⟩

/-- The description with the object under the additional properties of `A` is accepted. -/
theorem wrongType_accepted :
    Json.decode (described "additionalProperties" wrongType).pretty =
        .ok (described "additionalProperties" wrongType) ∧
      attempt (Value.ofJson wrongType) = none ∧
      (Model.ofJson (described "additionalProperties" wrongType).pretty).isOk = true ∧
      (Model.ofJson (described "items" wrongType).pretty).isOk = false :=
  ⟨Json.decode_pretty (readable_described _ readable_wrongType), rfl, by decide +kernel, by decide +kernel⟩

end CmdletForge.Description
