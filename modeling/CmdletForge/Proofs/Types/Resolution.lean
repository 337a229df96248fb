import CmdletForge.Proofs.Types.Core
import CmdletForge.Proofs.Types.Registry

/-!
# What a resolution comes to

Resolving a schema either fails, for a reason that lies in the model and the overrides alone, or it
yields a declaration and registers the type that the schema leads to, if there is one. `failure?` and
`type?` are these two facts about a schema; `resolve_of_failure` and `resolve_of_sound` are all that the
rest of a generation needs to know of a resolution.
-/

namespace CmdletForge

/-- The schema has a type of its own. -/
def Schema.isType (schema : Schema) : Bool :=
  match schema.kind with
  | .object | .enumeration => true
  | .union => schema.discriminator.isSome
  | _ => false

/-- Why no declaration can be made of a schema by its kind. -/
def Schema.fault? (schema : Schema) : Option Failure :=
  match schema.kind with
  | .union =>
    if schema.discriminator.isNone then
      some (.unsupportedSchema schema.path "polymorphic-union without discriminator")
    else none
  | .array => some (.unsupportedSchema schema.path (Resolver.withoutItems .list))
  | .map => some (.unsupportedSchema schema.path (Resolver.withoutItems .dictionary))
  | .unsupported kind => some (.unsupportedSchema schema.path kind)
  | _ => none

/-- A declaration of a generated type names one that is registered. -/
def Declaration.Grounded (declaration : Declaration) (registry : Registry) : Prop :=
  ∀ type, declaration.generated = some type → type ∈ registry.types

/-- What is registered stays so. -/
theorem Declaration.Grounded.mono {declaration : Declaration} {before after : Registry}
    (grounded : declaration.Grounded before) (kept : before.types <+: after.types) :
    declaration.Grounded after :=
  fun type generated => kept.subset (grounded type generated)

theorem Declaration.grounded_of_none {declaration : Declaration} {registry : Registry}
    (none : declaration.generated = none) : declaration.Grounded registry := by
  intro type generated
  rw [none] at generated
  contradiction

namespace Resolver

/-- The declarations of overrides are of no generated type. -/
def Foreign (resolver : Resolver) : Prop :=
  ∀ override ∈ resolver.overrides, ∀ schema required,
    (override.declare schema required).generated = none

/-- A schema can be declared, for whatever value and in whatever state. -/
def Resolves (resolver : Resolver) (model : Model) (id : SchemaId) : Prop :=
  ∀ required registry, ∃ declared,
    (resolver.resolve model id required).run registry = .ok declared

/-- Why a schema cannot be declared. -/
def failure? (resolver : Resolver) (model : Model) (id : SchemaId) : Option Failure :=
  match resolver.core model id with
  | .error (.failure failure) => some failure
  | .error (.noSchema _) => none
  | .ok core => if (resolver.override? core.schema).isSome then none else core.schema.fault?

/-- The core of a schema, if it is declared by a type of its own. -/
def type? (resolver : Resolver) (model : Model) (id : SchemaId) : Option Core :=
  match resolver.core model id with
  | .error _ => none
  | .ok core =>
    if (resolver.override? core.schema).isNone && core.schema.isType then some core else none

/-- The schema whose type a schema is declared by. -/
def target? (resolver : Resolver) (model : Model) (id : SchemaId) : Option SchemaId :=
  (resolver.type? model id).map (·.id)

/-- A schema leads to one that has a type of its own and that no override applies to. -/
def Targets (resolver : Resolver) (model : Model) (id target : SchemaId) : Prop :=
  ∃ depth schema, Leads resolver model depth id target ∧ model.schema? target = some schema ∧
    resolver.Unmatched schema ∧ schema.isType = true

end Resolver

/-- The registry after a schema with this core was declared. -/
def Registry.enroll (registry : Registry) : Option Core → Registry
  | none => registry
  | some core => (registry.register core.id core.schema).2

namespace Resolver

variable {resolver : Resolver} {model : Model} {id : SchemaId}

theorem core_ne_noSchema (closed : model.Closed) (bound : id < model.size) (missing : SchemaId) :
    resolver.core model id ≠ .error (.noSchema missing) :=
  coreFrom_ne_noSchema closed (.start model) bound missing

theorem schema?_of_core {core : Core} (found : resolver.core model id = .ok core) :
    model.schema? core.id = some core.schema := by
  obtain ⟨_, -, here, -⟩ := leads_of_coreFrom found
  exact here

theorem schema?_of_type? {core : Core} (type : resolver.type? model id = some core) :
    model.schema? core.id = some core.schema := by
  unfold type? at type
  split at type
  next => contradiction
  next other found =>
    split at type
    next =>
      obtain rfl := Option.some.inj type
      exact schema?_of_core found
    next => contradiction

/-- `target?` finds what `Targets` says. -/
theorem target?_eq_some_iff {target : SchemaId} :
    resolver.target? model id = some target ↔ resolver.Targets model id target := by
  unfold target? type? Targets
  constructor
  · intro found
    split at found
    next => contradiction
    next core search =>
      split at found
      next typed =>
        obtain rfl := Option.some.inj found
        simp only [Bool.and_eq_true, Option.isNone_iff_eq_none] at typed
        obtain ⟨depth, leads, here, -⟩ := leads_of_coreFrom search
        exact ⟨depth, core.schema, leads, here, override?_eq_none.1 typed.1, typed.2⟩
      next => contradiction
  · rintro ⟨depth, schema, leads, here, unmatched, typed⟩
    obtain ⟨core, search, rfl⟩ := core_iff.2 ⟨depth, leads⟩
    obtain rfl := Option.some.inj ((schema?_of_core search).symm.trans here)
    simp [search, override?_eq_none.2 unmatched, typed]

/-! ## Declaring by kind -/

theorem byKind_of_fault (id : SchemaId) {schema : Schema} {failure : Failure}
    (fault : schema.fault? = some failure) (required : Bool) (registry : Registry) :
    byKind id schema required registry = .error (.failure failure) := by
  unfold Schema.fault? at fault
  split at fault
  next kind =>
    split at fault
    next bare =>
      obtain rfl := Option.some.inj fault
      simp only [byKind, kind, if_pos bare]
      rfl
    next => contradiction
  all_goals try contradiction
  all_goals
    next kind =>
      obtain rfl := Option.some.inj fault
      simp only [byKind, kind]
      rfl

theorem byKind_of_isType (id : SchemaId) {schema : Schema} (type : schema.isType = true)
    (required : Bool) (registry : Registry) :
    ∃ declaration, byKind id schema required registry =
        .ok (declaration, (registry.register id schema).2) ∧
      declaration.generated = some (registry.register id schema).1 := by
  unfold Schema.isType at type
  split at type
  next kind => exact ⟨_, by simp only [byKind, kind]; rfl, rfl⟩
  next kind => exact ⟨_, by simp only [byKind, kind]; rfl, rfl⟩
  next kind =>
    have told : ¬ schema.discriminator.isNone = true := by
      cases disc : schema.discriminator <;> simp [disc] at type ⊢
    exact ⟨_, by simp only [byKind, kind, if_neg told]; rfl, rfl⟩
  next => contradiction

/-- A schema without a fault and without a type of its own is a primitive or a truth value. -/
theorem byKind_of_plain (id : SchemaId) {schema : Schema} (sound : schema.fault? = none)
    (plain : schema.isType = false) (required : Bool) (registry : Registry) :
    ∃ declaration, byKind id schema required registry = .ok (declaration, registry) ∧
      declaration.generated = none := by
  unfold Schema.fault? at sound
  unfold Schema.isType at plain
  cases kind : schema.kind with
  | primitive p =>
    refine ⟨_, by simp only [byKind, kind]; rfl, ?_⟩
    unfold primitive
    split
    split <;> rfl
  | boolean => exact ⟨_, by simp only [byKind, kind]; rfl, rfl⟩
  | union =>
    rw [kind] at sound plain
    cases disc : schema.discriminator <;> simp [disc] at sound plain
  | object => simp [kind] at plain
  | enumeration => simp [kind] at plain
  | array => simp [kind] at sound
  | map => simp [kind] at sound
  | unsupported name => simp [kind] at sound

/-! ## Resolving -/

/-- A collection is never of a generated type itself. -/
theorem grounded_wrapAll {required : Bool} {element : Declaration} {registry : Registry}
    (grounded : element.Grounded registry) (wrappers : List Wrapper) :
    (wrapAll required element wrappers).Grounded registry := by
  cases wrappers with
  | nil => exact grounded
  | cons wrapper rest => cases wrapper <;> exact Declaration.grounded_of_none rfl

theorem resolve_of_core {core : Core} (found : resolver.core model id = .ok core) (required : Bool)
    (registry : Registry) :
    resolver.resolve model id required registry =
      (resolver.declareCore core (required || !core.wrappers.isEmpty) registry).map fun declared =>
        (wrapAll required declared.1 core.wrappers, declared.2) := by
  unfold resolve
  rw [found]
  change (resolver.declareCore core (required || !core.wrappers.isEmpty) >>= fun element =>
    pure (wrapAll required element core.wrappers)) registry = _
  change (resolver.declareCore core (required || !core.wrappers.isEmpty) registry >>= fun declared =>
    Except.ok (wrapAll required declared.1 core.wrappers, declared.2)) = _
  cases resolver.declareCore core (required || !core.wrappers.isEmpty) registry <;> rfl

theorem resolve_of_failure {failure : Failure} (fails : resolver.failure? model id = some failure)
    (required : Bool) (registry : Registry) :
    resolver.resolve model id required registry = .error (.failure failure) := by
  unfold failure? at fails
  split at fails
  next found stopped =>
    obtain rfl := Option.some.inj fails
    unfold resolve
    rw [stopped]
    rfl
  next => contradiction
  next core found =>
    split at fails
    next => contradiction
    next unmatched =>
      have bare : resolver.override? core.schema = none := by simpa using unmatched
      rw [resolve_of_core found, declareCore, bare]
      simp only [byKind_of_fault core.id fails, Except.map]

theorem type?_of_failure {failure : Failure} (fails : resolver.failure? model id = some failure) :
    resolver.type? model id = none := by
  unfold failure? at fails
  unfold type?
  split at fails
  next found stopped => rw [stopped]
  next => contradiction
  next core found =>
    split at fails
    next => contradiction
    next =>
      rw [found]
      unfold Schema.fault? at fails
      unfold Schema.isType
      cases kind : core.schema.kind <;> simp [kind] at fails ⊢
      intro
      exact fails.1

/-- A resolution that finds a core and does not fail yields a declaration and registers the type that the
schema leads to, which is the one that the declaration may name. -/
theorem resolve_of_found {core : Core} (found : resolver.core model id = .ok core)
    (sound : resolver.failure? model id = none) (required : Bool) (registry : Registry) :
    ∃ declaration, resolver.resolve model id required registry =
        .ok (declaration, registry.enroll (resolver.type? model id)) ∧
      (resolver.Foreign → declaration.Grounded (registry.enroll (resolver.type? model id))) := by
  rw [resolve_of_core found]
  unfold declareCore
  cases matched : resolver.override? core.schema with
  | some override =>
    have untyped : resolver.type? model id = none := by simp [type?, found, matched]
    rw [untyped]
    refine ⟨_, rfl, fun foreign => grounded_wrapAll (Declaration.grounded_of_none ?_) _⟩
    exact foreign override (List.mem_of_find?_eq_some matched) _ _
  | none =>
    have whole : core.schema.fault? = none := by simpa [failure?, found, matched] using sound
    cases typed : core.schema.isType with
    | true =>
      have type : resolver.type? model id = some core := by simp [type?, found, matched, typed]
      obtain ⟨declaration, made, generated⟩ := byKind_of_isType core.id typed
        (required || !core.wrappers.isEmpty) registry
      rw [type]
      refine ⟨_, by simp only [made]; rfl, fun _ => grounded_wrapAll ?_ _⟩
      intro named same
      obtain rfl := Option.some.inj (generated.symm.trans same)
      exact (Registry.lookup_spec Registry.lookup_register).1
    | false =>
      have untyped : resolver.type? model id = none := by simp [type?, found, typed]
      obtain ⟨declaration, made, ungenerated⟩ := byKind_of_plain core.id whole typed
        (required || !core.wrappers.isEmpty) registry
      rw [untyped]
      refine ⟨_, by simp only [made]; rfl, fun _ => grounded_wrapAll ?_ _⟩
      exact Declaration.grounded_of_none ungenerated

/-- In a closed model, where the search finds a core unless it fails. -/
theorem resolve_of_sound (closed : model.Closed) (bound : id < model.size)
    (sound : resolver.failure? model id = none) (required : Bool) (registry : Registry) :
    ∃ declaration, resolver.resolve model id required registry =
        .ok (declaration, registry.enroll (resolver.type? model id)) ∧
      (resolver.Foreign → declaration.Grounded (registry.enroll (resolver.type? model id))) := by
  cases found : resolver.core model id with
  | error stop =>
    cases stop with
    | failure failure => simp [failure?, found] at sound
    | noSchema missing => exact absurd found (core_ne_noSchema closed bound missing)
  | ok core => exact resolve_of_found found sound required registry

theorem unsupported_of_failure? {failure : Failure}
    (fails : resolver.failure? model id = some failure) :
    ∃ path kind, failure = .unsupportedSchema path kind := by
  unfold failure? at fails
  split at fails
  next found stopped =>
    obtain rfl := Option.some.inj fails
    exact unsupported_of_coreFrom stopped
  next => contradiction
  next core found =>
    split at fails
    next => contradiction
    next =>
      unfold Schema.fault? at fails
      split at fails
      next =>
        split at fails
        next => exact ⟨_, _, (Option.some.inj fails).symm⟩
        next => contradiction
      next => exact ⟨_, _, (Option.some.inj fails).symm⟩
      next => exact ⟨_, _, (Option.some.inj fails).symm⟩
      next => exact ⟨_, _, (Option.some.inj fails).symm⟩
      next => contradiction

/-! ## Collections that say what they hold -/

/-- Where all collections say what they hold, the search only fails on one that holds itself. -/
theorem recursive_of_coreFrom (filled : model.Filled) {steps : Nat} {inside : List SchemaId}
    {failure : Failure} (fails : resolver.coreFrom model steps inside id = .error (.failure failure)) :
    ∃ path, failure = .unsupportedSchema path "recursive collection" := by
  induction steps generalizing inside id with
  | zero => simp [coreFrom] at fails
  | succ steps ih =>
    rw [coreFrom] at fails
    split at fails
    next => simp at fails
    next schema found =>
      split at fails
      next => simp at fails
      next wrapper wraps =>
        split at fails
        next empty =>
          have held := filled schema (Model.mem_of_schema? found) (unwraps_of_wrapper? wraps).2
          rw [empty] at held
          contradiction
        next items holds =>
          split at fails
          next =>
            obtain rfl : _ = failure := by simpa [Schema.unsupported] using fails
            exact ⟨_, rfl⟩
          next =>
            split at fails
            next stop stopped =>
              rw [← stopped] at fails
              exact ih fails
            next => simp at fails

/-- Where all collections say what they hold, a resolution stops for a schema in no declarable shape, and it
calls a schema a collection that does not say what it holds only if that is the very name of its kind. -/
theorem stop_of_filled (closed : model.Closed) (filled : model.Filled) (bound : id < model.size)
    {required : Bool} {registry : Registry} {stop : Stop}
    (stops : (resolver.resolve model id required).run registry = .error stop) :
    ∃ path text, stop = .failure (.unsupportedSchema path text) ∧
      ∀ wrapper, text = withoutItems wrapper →
        ∃ schema ∈ model.schemas, schema.path = path ∧ schema.kind = .unsupported text := by
  cases fails : resolver.failure? model id with
  | none =>
    obtain ⟨declaration, made, -⟩ := resolve_of_sound closed bound fails required registry
    rw [StateT.run, made] at stops
    contradiction
  | some failure =>
    rw [StateT.run, resolve_of_failure fails] at stops
    obtain rfl := Except.error.inj stops
    obtain ⟨path, text, rfl⟩ := unsupported_of_failure? fails
    refine ⟨path, text, rfl, ?_⟩
    rintro wrapper rfl
    unfold failure? at fails
    split at fails
    next found stopped =>
      obtain rfl := Option.some.inj fails
      obtain ⟨_, same⟩ := recursive_of_coreFrom filled stopped
      cases wrapper <;> simp [withoutItems] at same
    next => contradiction
    next core found =>
      split at fails
      next => contradiction
      next unmatched =>
        obtain ⟨_, -, here, last⟩ := leads_of_coreFrom found
        have plain : ¬ (core.schema.kind = .array ∨ core.schema.kind = .map) :=
          fun collection => last ⟨override?_eq_none.1 (by simpa using unmatched), collection⟩
        unfold Schema.fault? at fails
        split at fails
        next =>
          split at fails
          next => cases wrapper <;> simp [withoutItems] at fails
          next => contradiction
        next array => exact absurd (.inl array) plain
        next map => exact absurd (.inr map) plain
        next kind unsupported =>
          obtain ⟨rfl, rfl⟩ : core.schema.path = path ∧ kind = withoutItems wrapper := by simpa using fails
          exact ⟨core.schema, Model.mem_of_schema? here, rfl, unsupported⟩
        next => contradiction

end Resolver
end CmdletForge
