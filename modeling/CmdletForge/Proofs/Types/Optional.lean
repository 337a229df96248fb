import CmdletForge.Proofs.Types.Chain
import CmdletForge.Proofs.Types.InPlace

/-!
# Required and optional values

A schema is declared for a value that must be there or for one that may be left out. Only a schema of value
kind shows the difference, by a mark behind its type: all others have a null anyway, and what a collection
holds is declared as required, so that no mark gets inside. `Counterparts` says how two such declarations
compare, and the outcome of the chain from a schema yields both of them.
-/

namespace CmdletForge

/-- The schemas of the kind have no null of their own: numbers, times, truth values and members of enumerations. -/
def Kind.isValue : Kind → Bool
  | .primitive .int32 | .primitive .int64 | .primitive .number | .primitive .float => true
  | .primitive .dateTime | .primitive .date | .primitive .duration => true
  | .boolean | .enumeration => true
  | _ => false

/-- Primitives are declared as values where they are of value kind. -/
theorem Primitive.isValueType_eq (p : Primitive) : p.isValueType = (Kind.primitive p).isValue := by
  cases p <;> rfl

/-- The literal of the default of a schema, where there is one that its kind can be given. A member of an
enumeration is one of the generated type. -/
def Schema.literal? (schema : Schema) (generated : Option TypeRef) : Option String :=
  match schema.kind with
  | .primitive _ => schema.default.bind Literal.scalar?
  | .boolean => schema.default.bind Literal.flag?
  | .enumeration => generated.bind fun type => schema.default.bind (Resolver.memberText type)
  | _ => none

namespace Declaration

/-- What stands for a value that is not given: the literal of the schema or, without one, null where the
declaration has it. -/
def Defaults (schema : Schema) (declaration : Declaration) : Prop :=
  declaration.default = (schema.literal? declaration.generated).getD
    (if declaration.nullable then "null" else "default(" ++ declaration.text ++ ")")

/-- The declarations of a schema for a value that is required and for one that is optional. -/
structure Counterparts (schema : Schema) (required optional : Declaration) : Prop where
  flags : required.required = true ∧ optional.required = false
  jsonType : optional.jsonType = required.jsonType
  generated : optional.generated = required.generated
  ofValue : schema.kind.isValue = true →
    optional.text = required.text ++ "?" ∧ required.nullable = false ∧ optional.nullable = true
  ofReference : schema.kind.isValue = false →
    optional.text = required.text ∧ required.nullable = true ∧ optional.nullable = true
  defaults : required.Defaults schema ∧ optional.Defaults schema

theorem counterparts_value (schema : Schema) (base : String) (jsonType : JsonType)
    (generated : Option TypeRef) (value : schema.kind.isValue = true) :
    Counterparts schema (.value base true jsonType (schema.literal? generated) generated)
      (.value base false jsonType (schema.literal? generated) generated) := by
  refine ⟨⟨rfl, rfl⟩, rfl, rfl, fun _ => ⟨rfl, rfl, rfl⟩, fun reference => ?_, rfl, rfl⟩
  rw [value] at reference
  contradiction

theorem counterparts_reference (schema : Schema) (base : String) (jsonType : JsonType)
    (generated : Option TypeRef) (reference : schema.kind.isValue = false) :
    Counterparts schema (.reference base true jsonType (schema.literal? generated) generated)
      (.reference base false jsonType (schema.literal? generated) generated) := by
  refine ⟨⟨rfl, rfl⟩, rfl, rfl, fun value => ?_, fun _ => ⟨rfl, rfl, rfl⟩, rfl, rfl⟩
  rw [reference] at value
  contradiction

end Declaration

namespace Resolver

open Declaration

variable {resolver : Resolver} {model : Model} {id : SchemaId} {schema : Schema} {registry : Registry}

/-- Collections are of reference kind, whatever they hold. -/
theorem counterparts_within {outer : Wrapper} (kind : schema.kind = outer.kind) (element : Declaration)
    (inner : List Wrapper) :
    Counterparts schema (element.within true (outer :: inner)) (element.within false (outer :: inner)) := by
  have reference : schema.kind.isValue = false := by
    rw [kind]
    cases outer <;> rfl
  have none : schema.literal? none = none := by
    rw [Schema.literal?, kind]
    cases outer <;> rfl
  have parts := counterparts_reference schema (outer.around (inner.foldr Wrapper.around element.text))
    outer.jsonType .none reference
  rw [none] at parts
  exact parts

/-- The two declarations of a schema, whose type is registered alike for both. -/
theorem counterparts_byKind (id : SchemaId) (sound : schema.fault? = none) (registry : Registry) :
    ∃ required optional after, Counterparts schema required optional ∧
      (byKind id schema true).run registry = .ok (required, after) ∧
      (byKind id schema false).run registry = .ok (optional, after) := by
  have value := counterparts_value schema
  have reference := counterparts_reference schema
  unfold Schema.literal? at value reference
  unfold Schema.fault? at sound
  cases kind : schema.kind with
  | primitive p =>
    simp only [kind] at value reference
    simp only [byKind, kind]
    refine ⟨_, _, registry, ?_, rfl, rfl⟩
    unfold primitive
    rw [p.isValueType_eq]
    cases form : (Kind.primitive p).isValue with
    | true => exact value _ _ none form
    | false => exact reference _ _ none form
  | boolean =>
    simp only [kind] at value
    simp only [byKind, kind]
    exact ⟨_, _, registry, value _ _ none rfl, rfl, rfl⟩
  | enumeration =>
    simp only [kind] at value
    simp only [byKind, kind]
    exact ⟨_, _, _, value _ _ (some (registry.register id schema).1) rfl, rfl, rfl⟩
  | object =>
    simp only [kind] at reference
    simp only [byKind, kind]
    exact ⟨_, _, _, reference _ _ (some (registry.register id schema).1) rfl, rfl, rfl⟩
  | union =>
    simp only [kind] at reference sound
    have told : ¬ schema.discriminator.isNone = true := by
      intro bare
      rw [if_pos bare] at sound
      contradiction
    simp only [byKind, kind, if_neg told]
    exact ⟨_, _, _, reference _ _ (some (registry.register id schema).1) rfl, rfl, rfl⟩
  | array => simp [kind] at sound
  | map => simp [kind] at sound
  | unsupported name => simp [kind] at sound

/-- The resolver has no override, or only that of truth values by switches. -/
def Plain (resolver : Resolver) : Prop := resolver.overrides = [] ∨ resolver.overrides = [.switch]

/-- The only override that applies anywhere is the switch, and it applies to truth values. -/
theorem Plain.eq_switch (plain : resolver.Plain) {override : TypeOverride}
    (mem : override ∈ resolver.overrides) (applies : override.applies schema = true) :
    override = .switch ∧ schema.kind = .boolean := by
  rcases plain with none | only
  · rw [none] at mem
    contradiction
  · rw [only, List.mem_singleton] at mem
    obtain rfl := mem
    exact ⟨rfl, by simpa [TypeOverride.switch] using applies⟩

/-- What a resolution for a required value comes to, it comes to for an optional one as well: to the same
failure, or to the counterpart of the declaration. -/
theorem Outcome.counterpart (plain : resolver.Plain) {result : Except Stop (Declaration × Registry)}
    (outcome : Outcome resolver model id true registry result) :
    (∃ failure, result = .error (.failure failure) ∧
      Outcome resolver model id false registry (.error (.failure failure))) ∨
    ∃ schema required optional after, model.schema? id = some schema ∧
      Counterparts schema required optional ∧ result = .ok (required, after) ∧
      Outcome resolver model id false registry (.ok (optional, after)) := by
  cases outcome with
  | withoutItems chain found unmatched kind empty =>
    exact .inl ⟨_, rfl, .withoutItems chain found unmatched kind empty⟩
  | recursive chain found again => exact .inl ⟨_, rfl, .recursive chain found again⟩
  | unsupported chain found unmatched kind =>
    exact .inl ⟨_, rfl, .unsupported chain found unmatched kind⟩
  | undiscriminated chain found unmatched kind bare =>
    exact .inl ⟨_, rfl, .undiscriminated chain found unmatched kind bare⟩
  | @overridden passed last schema front back override chain found overrides skipped applies =>
    right
    have optional : Outcome resolver model id false registry (.ok (_, registry)) :=
      .overridden chain found overrides skipped applies
    cases chain with
    | here =>
      obtain ⟨rfl, kind⟩ := plain.eq_switch (by simp [overrides]) applies
      have parts := counterparts_value schema TypeOverride.switchType .boolean none
        (by rw [kind]; rfl)
      unfold Schema.literal? at parts
      rw [kind] at parts
      exact ⟨schema, _, _, registry, found, parts, rfl, optional⟩
    | through outer bare kind holds new rest =>
      exact ⟨_, _, _, registry, outer, counterparts_within kind _ _, rfl, optional⟩
  | @byKind passed last schema declaration after chain found unmatched made =>
    right
    cases chain with
    | here =>
      have sound : schema.fault? = none := by
        cases fault : schema.fault? with
        | none => rfl
        | some failure =>
          rw [StateT.run, byKind_of_fault id fault] at made
          contradiction
      obtain ⟨required, optional, after', parts, first, second⟩ := counterparts_byKind id sound registry
      cases made.symm.trans first
      exact ⟨schema, _, _, _, found, parts, rfl, .byKind (.here id) found unmatched second⟩
    | through outer bare kind holds new rest =>
      have optional : Outcome resolver model id false registry (.ok (_, after)) :=
        .byKind (.through outer bare kind holds new rest) found unmatched made
      exact ⟨_, _, _, after, outer, counterparts_within kind _ _, rfl, optional⟩

/-- What resolving a schema comes to for a required and for an optional value. -/
inductive EitherWay (resolver : Resolver) (model : Model) (id : SchemaId) (registry : Registry) : Prop
  /-- The failure is the same, and the registry is left as it was. -/
  | failed (failure : Failure) (made : ∀ required,
      (resolver.resolveInPlace model id required).on registry = (.error (.failure failure), registry))
  /-- The declarations are counterparts, whichever is made first, and only the first registers a type. -/
  | declared (schema : Schema) (required optional : Declaration) (after : Registry)
      (found : model.schema? id = some schema) (parts : Counterparts schema required optional)
      (first : (resolver.resolveInPlace model id true).on registry = (.ok required, after) ∧
        (resolver.resolveInPlace model id false).on registry = (.ok optional, after))
      (second : (resolver.resolveInPlace model id true).on after = (.ok required, after) ∧
        (resolver.resolveInPlace model id false).on after = (.ok optional, after))

/-- **Required and optional values.** In a closed model a schema fails alike for both, or its declarations for
the two are counterparts. -/
theorem eitherWay_of_plain (closed : model.Closed) (bound : id < model.size) (plain : resolver.Plain)
    (registry : Registry) : EitherWay resolver model id registry := by
  obtain ⟨result, outcome⟩ := exists_outcome resolver closed bound true registry
  have made := outcome.resolve
  obtain ⟨failure, rfl, optional⟩ | ⟨schema, required, optional, after, found, parts, rfl, outcome'⟩ :=
    outcome.counterpart plain
  · refine .failed failure fun required => ?_
    rw [on_resolveInPlace]
    cases required with
    | true => rw [made]; rfl
    | false => rw [optional.resolve]; rfl
  · have made' := outcome'.resolve
    have again := (standing_resolve _ _ _ _ _ _ _ made).2 after (List.prefix_refl _)
    have again' := (standing_resolve _ _ _ _ _ _ _ made').2 after (List.prefix_refl _)
    refine .declared schema required optional after found parts ⟨?_, ?_⟩ ⟨?_, ?_⟩
    · rw [on_resolveInPlace, made]; rfl
    · rw [on_resolveInPlace, made']; rfl
    · rw [on_resolveInPlace, again]; rfl
    · rw [on_resolveInPlace, again']; rfl

/-- A mood with a default, a list of moods, a nest that holds nothing but itself, and a day. -/
def moods : Model where
  schemas :=
    [{ kind := .enumeration, path := "/schemas/Mood", name := some "Mood", values := ["calm", "wild"],
       default := some (.str "calm") },
      { kind := .array, path := "/schemas/Moods", items := some 0, default := some (.str "calm") },
      { kind := .array, path := "/schemas/Nest", items := some 2 },
      { kind := .primitive .date, path := "/schemas/Day" }]

theorem eitherWay_moods : moods.Closed ∧ 0 < moods.size ∧ 1 < moods.size ∧ 2 < moods.size ∧ 3 < moods.size ∧
    Plain { overrides := [.switch] } ∧
    EitherWay { overrides := [.switch] } moods 0 { owner := "Pets" } ∧
    EitherWay { overrides := [.switch] } moods 1 { owner := "Pets" } ∧
    EitherWay { overrides := [.switch] } moods 2 { owner := "Pets" } ∧
    EitherWay { overrides := [.switch] } moods 3 { owner := "Pets" } ∧
    ([0, 1, 2, 3].map fun id => [true, false].map fun required =>
      ((Resolver.resolveInPlace { overrides := [.switch] } moods id required).on
        { owner := "Pets" }).1.toOption.map fun made => (made.text, made.default)) =
      [[some ("Pets.Mood", "Pets.Mood.Calm"), some ("Pets.Mood?", "Pets.Mood.Calm")],
        [some ("Pets.Mood[]", "null"), some ("Pets.Mood[]", "null")],
        [none, none],
        [some ("global::System.DateTime", "default(global::System.DateTime)"),
          some ("global::System.DateTime?", "null")]] := by
  have closed : moods.Closed := by decide
  have plain : Plain { overrides := [.switch] } := .inr rfl
  exact ⟨closed, by decide, by decide, by decide, by decide, plain,
    eitherWay_of_plain closed (by decide) plain _, eitherWay_of_plain closed (by decide) plain _,
    eitherWay_of_plain closed (by decide) plain _, eitherWay_of_plain closed (by decide) plain _,
    by decide +kernel⟩

end Resolver
end CmdletForge
