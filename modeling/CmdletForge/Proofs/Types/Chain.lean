import CmdletForge.Proofs.Types.Resolution

/-!
# The chain of a schema

Where no override applies, a list or a map is declared by what it holds, that by what it holds in turn, and
so on. A chain goes along as long as no collection comes twice. It stops in one of three ways: at a collection
that does not say what it holds, at one that it has passed, or at the schema that decides the declaration.
`Outcome` says of each what a resolution comes to, and as a chain always stops, a resolution comes to nothing
else.
-/

namespace CmdletForge

namespace Wrapper

/-- The kind of the schemas that are such a collection. -/
def kind : Wrapper → Kind
  | .list => .array
  | .dictionary => .map

/-- What the collection is in JSON. -/
def jsonType : Wrapper → JsonType
  | .list => .array
  | .dictionary => .dictionary

/-- The text of a declaration in the collection. -/
def around : Wrapper → String → String
  | .list, text => text ++ "[]"
  | .dictionary, text => "global::System.Collections.Generic.IDictionary<string, " ++ text ++ ">"

end Wrapper

/-- A declaration inside collections, outermost first. Its text has all of them; for the rest it is what the
outermost collection is. -/
def Declaration.within (element : Declaration) (required : Bool) : List Wrapper → Declaration
  | [] => element
  | outer :: inner =>
    { text := outer.around (inner.foldr Wrapper.around element.text)
      required
      nullable := true
      default := "null"
      jsonType := outer.jsonType
      generated := none }

namespace Resolver

/-- A schema leads to another through collections that no override applies to, all of them different. The
last one may be one of them again. -/
inductive Chain (resolver : Resolver) (model : Model) :
    SchemaId → List (SchemaId × Wrapper) → SchemaId → Prop
  | here (id : SchemaId) : Chain resolver model id [] id
  | through {id items last : SchemaId} {schema : Schema} {wrapper : Wrapper}
      {passed : List (SchemaId × Wrapper)} (found : model.schema? id = some schema)
      (unmatched : resolver.Unmatched schema) (kind : schema.kind = wrapper.kind)
      (holds : schema.items = some items) (new : id ∉ passed.map Prod.fst)
      (rest : Chain resolver model items passed last) :
      Chain resolver model id ((id, wrapper) :: passed) last

/-- What the resolution of a schema comes to: a declaration and a registry, or what stops it. -/
inductive Outcome (resolver : Resolver) (model : Model) (id : SchemaId) (required : Bool)
    (registry : Registry) : Except Stop (Declaration × Registry) → Prop
  | withoutItems {passed : List (SchemaId × Wrapper)} {last : SchemaId} {schema : Schema}
      {wrapper : Wrapper} (chain : Chain resolver model id passed last)
      (found : model.schema? last = some schema) (unmatched : resolver.Unmatched schema)
      (kind : schema.kind = wrapper.kind) (empty : schema.items = none) :
      Outcome resolver model id required registry
        (.error (.failure (.unsupportedSchema schema.path (withoutItems wrapper))))
  | recursive {passed : List (SchemaId × Wrapper)} {last : SchemaId} {schema : Schema}
      (chain : Chain resolver model id passed last) (found : model.schema? last = some schema)
      (again : last ∈ passed.map Prod.fst) :
      Outcome resolver model id required registry
        (.error (.failure (.unsupportedSchema schema.path "recursive collection")))
  | unsupported {passed : List (SchemaId × Wrapper)} {last : SchemaId} {schema : Schema} {name : String}
      (chain : Chain resolver model id passed last) (found : model.schema? last = some schema)
      (unmatched : resolver.Unmatched schema) (kind : schema.kind = .unsupported name) :
      Outcome resolver model id required registry
        (.error (.failure (.unsupportedSchema schema.path name)))
  | undiscriminated {passed : List (SchemaId × Wrapper)} {last : SchemaId} {schema : Schema}
      (chain : Chain resolver model id passed last) (found : model.schema? last = some schema)
      (unmatched : resolver.Unmatched schema) (kind : schema.kind = .union)
      (bare : schema.discriminator = none) :
      Outcome resolver model id required registry (.error (.failure
        (.unsupportedSchema schema.path "polymorphic-union without discriminator")))
  | overridden {passed : List (SchemaId × Wrapper)} {last : SchemaId} {schema : Schema}
      {front back : List TypeOverride} {override : TypeOverride}
      (chain : Chain resolver model id passed last) (found : model.schema? last = some schema)
      (overrides : resolver.overrides = front ++ override :: back)
      (skipped : ∀ earlier ∈ front, earlier.applies schema = false)
      (applies : override.applies schema = true) :
      Outcome resolver model id required registry (.ok
        ((override.declare schema (required || !passed.isEmpty)).within required (passed.map Prod.snd),
          registry))
  | byKind {passed : List (SchemaId × Wrapper)} {last : SchemaId} {schema : Schema}
      {declaration : Declaration} {after : Registry} (chain : Chain resolver model id passed last)
      (found : model.schema? last = some schema) (unmatched : resolver.Unmatched schema)
      (made : (byKind last schema (required || !passed.isEmpty)).run registry = .ok (declaration, after)) :
      Outcome resolver model id required registry
        (.ok (declaration.within required (passed.map Prod.snd), after))

variable {resolver : Resolver} {model : Model} {id last : SchemaId} {schema : Schema} {wrapper : Wrapper}
  {passed : List (SchemaId × Wrapper)} {required : Bool} {registry : Registry}
  {result : Except Stop (Declaration × Registry)}

theorem wrapper?_eq_some : resolver.wrapper? schema = some wrapper ↔
    resolver.Unmatched schema ∧ schema.kind = wrapper.kind := by
  rw [← override?_eq_none]
  unfold wrapper?
  cases resolver.override? schema with
  | some override => simp
  | none => cases wrapper <;> cases kind : schema.kind <;> simp [Wrapper.kind]

theorem override?_eq_some {override : TypeOverride} : resolver.override? schema = some override ↔
    ∃ front back, resolver.overrides = front ++ override :: back ∧
      (∀ earlier ∈ front, earlier.applies schema = false) ∧ override.applies schema = true := by
  unfold override?
  rw [List.find?_eq_some_iff_append]
  constructor
  · rintro ⟨applies, front, back, overrides, skipped⟩
    exact ⟨front, back, overrides, by simpa using skipped, applies⟩
  · rintro ⟨front, back, overrides, skipped, applies⟩
    exact ⟨applies, front, back, overrides, by simpa using skipped⟩

/-- Wrapping a declaration in one collection after the other. -/
theorem wrapAll_eq (required : Bool) (element : Declaration) (wrappers : List Wrapper) :
    wrapAll required element wrappers = element.within required wrappers := by
  have text : ∀ wrappers, (wrapAll true element wrappers).text =
      wrappers.foldr Wrapper.around element.text := by
    intro wrappers
    induction wrappers with
    | nil => rfl
    | cons wrapper rest ih =>
      rw [List.foldr_cons, ← ih]
      cases wrapper <;> rfl
  cases wrappers with
  | nil => rfl
  | cons wrapper rest =>
    rw [Declaration.within, ← text rest]
    cases wrapper <;> rfl

/-! ## Along a chain -/

/-- What is passed is a collection that holds something. -/
theorem Chain.passes (chain : Chain resolver model id passed last) :
    ∀ outer ∈ passed.map Prod.fst, ∃ schema wrapper items, model.schema? outer = some schema ∧
      resolver.wrapper? schema = some wrapper ∧ schema.items = some items := by
  induction chain with
  | here => simp
  | through found unmatched kind holds new rest ih =>
    rw [List.map_cons, List.forall_mem_cons]
    exact ⟨⟨_, _, _, found, wrapper?_eq_some.2 ⟨unmatched, kind⟩, holds⟩, ih⟩

theorem Chain.distinct (chain : Chain resolver model id passed last) : (passed.map Prod.fst).Nodup := by
  induction chain with
  | here => exact List.nodup_nil
  | through found unmatched kind holds new rest ih => exact List.nodup_cons.2 ⟨new, ih⟩

/-- A chain passes no more collections than there are schemas. -/
theorem Chain.length_le (chain : Chain resolver model id passed last) : passed.length ≤ model.size := by
  have length : (passed.map Prod.fst).length ≤ model.size := by
    refine Model.length_le_size chain.distinct fun outer mem => ?_
    obtain ⟨schema, wrapper, items, found, -, -⟩ := chain.passes outer mem
    exact Model.lt_size_of_schema? found
  rwa [List.length_map] at length

/-- The search goes along a chain and takes one step for each collection. -/
theorem Chain.coreFrom (chain : Chain resolver model id passed last) (steps : Nat)
    {inside : List SchemaId} (apart : ∀ outer ∈ passed.map Prod.fst, outer ∉ inside) :
    resolver.coreFrom model (steps + passed.length) inside id =
      (resolver.coreFrom model steps ((passed.map Prod.fst).reverse ++ inside) last).map fun core =>
        { core with wrappers := passed.map Prod.snd ++ core.wrappers } := by
  induction chain generalizing inside with
  | here id =>
    simp only [List.map_nil, List.reverse_nil, List.nil_append]
    change resolver.coreFrom model steps inside id = _
    cases resolver.coreFrom model steps inside id <;> rfl
  | @through id items last schema wrapper passed found unmatched kind holds new rest ih =>
    rw [List.map_cons, List.forall_mem_cons] at apart
    obtain ⟨outside, apart⟩ := apart
    have next : ∀ outer ∈ passed.map Prod.fst, outer ∉ id :: inside := by
      intro outer mem
      rw [List.mem_cons, not_or]
      exact ⟨fun same => new (same ▸ mem), apart outer mem⟩
    rw [List.length_cons, ← Nat.add_assoc, Resolver.coreFrom]
    simp only [found, wrapper?_eq_some.2 ⟨unmatched, kind⟩, holds, if_neg outside, ih next]
    simp only [List.map_cons, List.reverse_cons, List.append_assoc, List.singleton_append]
    cases resolver.coreFrom model steps ((passed.map Prod.fst).reverse ++ id :: inside) last <;> rfl

/-- At the end of a chain the search has at least one step left. -/
theorem Chain.core (chain : Chain resolver model id passed last) :
    ∃ steps, resolver.core model id =
      (resolver.coreFrom model (steps + 1) (passed.map Prod.fst).reverse last).map fun core =>
        { core with wrappers := passed.map Prod.snd ++ core.wrappers } := by
  have short := chain.length_le
  refine ⟨model.size + 1 - passed.length, ?_⟩
  have along := chain.coreFrom (model.size + 1 - passed.length + 1) (fun _ _ => List.not_mem_nil)
  rw [List.append_nil] at along
  rw [← along, Resolver.core]
  congr 1
  omega

/-- A schema that is no collection, or that an override applies to, is the core of all that leads to it. -/
theorem Chain.core_of_last (chain : Chain resolver model id passed last)
    (found : model.schema? last = some schema) (plain : ¬ resolver.Unwraps schema) :
    resolver.core model id = .ok ⟨passed.map Prod.snd, last, schema⟩ := by
  obtain ⟨steps, core⟩ := chain.core
  rw [core, Resolver.coreFrom]
  simp [found, wrapper?_eq_none.2 plain, Except.map]

theorem not_unwraps_of_override? {override : TypeOverride}
    (first : resolver.override? schema = some override) : ¬ resolver.Unwraps schema := by
  rintro ⟨unmatched, -⟩
  rw [override?_eq_none.2 unmatched] at first
  contradiction

/-! ## What a resolution comes to -/

theorem resolve_of_stop {stop : Stop} (stopped : resolver.core model id = .error stop) (required : Bool)
    (registry : Registry) : (resolver.resolve model id required).run registry = .error stop := by
  rw [resolve, stopped]
  rfl

/-- At the end of a chain the declaration is made, and put inside the collections that were passed. -/
theorem Chain.resolve_of_last (chain : Chain resolver model id passed last)
    (found : model.schema? last = some schema) (plain : ¬ resolver.Unwraps schema) (required : Bool)
    (registry : Registry) : (resolver.resolve model id required).run registry =
      (resolver.declareCore ⟨passed.map Prod.snd, last, schema⟩ (required || !passed.isEmpty)
        registry).map fun declared =>
          (declared.1.within required (passed.map Prod.snd), declared.2) := by
  rw [StateT.run, resolve_of_core (chain.core_of_last found plain), List.isEmpty_map]
  simp only [wrapAll_eq]

/-- Where no override applies, the declaration is made by kind. -/
theorem Chain.resolve_of_unmatched (chain : Chain resolver model id passed last)
    (found : model.schema? last = some schema) (unmatched : resolver.Unmatched schema)
    (plain : ¬ resolver.Unwraps schema) (required : Bool) (registry : Registry) :
    (resolver.resolve model id required).run registry =
      ((byKind last schema (required || !passed.isEmpty)).run registry).map fun declared =>
        (declared.1.within required (passed.map Prod.snd), declared.2) := by
  rw [chain.resolve_of_last found plain, declareCore, override?_eq_none.2 unmatched]
  rfl

/-- A schema has no other outcome than the one that its resolution comes to. -/
theorem Outcome.resolve (outcome : Outcome resolver model id required registry result) :
    (resolver.resolve model id required).run registry = result := by
  cases outcome with
  | withoutItems chain found unmatched kind empty =>
    obtain ⟨steps, core⟩ := chain.core
    refine resolve_of_stop (core.trans ?_) required registry
    rw [Resolver.coreFrom]
    simp only [found, wrapper?_eq_some.2 ⟨unmatched, kind⟩, empty]
    rfl
  | recursive chain found again =>
    obtain ⟨steps, core⟩ := chain.core
    obtain ⟨schema, wrapper, items, found', wraps, holds⟩ := chain.passes _ again
    obtain rfl := Option.some.inj (found.symm.trans found')
    refine resolve_of_stop (core.trans ?_) required registry
    rw [Resolver.coreFrom]
    simp only [found, wraps, holds, if_pos (List.mem_reverse.2 again)]
    rfl
  | unsupported chain found unmatched kind =>
    rw [chain.resolve_of_unmatched found unmatched (by simp [Unwraps, kind])]
    simp only [Resolver.byKind, kind]
    rfl
  | undiscriminated chain found unmatched kind bare =>
    rw [chain.resolve_of_unmatched found unmatched (by simp [Unwraps, kind])]
    simp only [Resolver.byKind, kind, bare, Option.isNone_none, if_true]
    rfl
  | overridden chain found overrides skipped applies =>
    have first := override?_eq_some.2 ⟨_, _, overrides, skipped, applies⟩
    rw [chain.resolve_of_last found (not_unwraps_of_override? first), declareCore, first]
    rfl
  | @byKind passed last schema declaration after chain found unmatched made =>
    have plain : ¬ resolver.Unwraps schema := by
      rintro ⟨-, kind | kind⟩
      all_goals
        simp only [Resolver.byKind, kind] at made
        contradiction
    rw [chain.resolve_of_unmatched found unmatched plain, made]
    rfl

/-! ## Every chain stops -/

/-- A chain stops at a schema: it is no collection, or one that does not say what it holds, or it was
passed. -/
def Stops (resolver : Resolver) (model : Model) (passed : List SchemaId) (last : SchemaId) : Prop :=
  ∃ schema, model.schema? last = some schema ∧
    (¬ resolver.Unwraps schema ∨ schema.items = none ∨ last ∈ passed)

/-- From any schema of a closed model a chain goes until it stops. The collections that lie before it count as
passed; as none of them comes twice, the model has too few schemas for more than `steps` others. -/
theorem exists_chain (resolver : Resolver) (closed : model.Closed) {steps : Nat} {inside : List SchemaId}
    (before : Passed model steps inside) (bound : id < model.size) :
    ∃ passed last, Chain resolver model id passed last ∧
      (∀ outer ∈ passed.map Prod.fst, outer ∉ inside) ∧
      Stops resolver model (passed.map Prod.fst ++ inside) last := by
  induction steps generalizing inside id with
  | zero =>
    obtain ⟨left, none⟩ := before.steps_pos
    contradiction
  | succ steps ih =>
    obtain ⟨schema, found⟩ := Model.exists_schema bound
    have here (stops : ¬ resolver.Unwraps schema ∨ schema.items = none ∨ id ∈ inside) :
        ∃ passed last, Chain resolver model id passed last ∧
          (∀ outer ∈ passed.map Prod.fst, outer ∉ inside) ∧
          Stops resolver model (passed.map Prod.fst ++ inside) last :=
      ⟨[], id, .here id, by simp, schema, found, stops⟩
    cases wraps : resolver.wrapper? schema with
    | none => exact here (.inl (wrapper?_eq_none.1 wraps))
    | some wrapper =>
      cases holds : schema.items with
      | none => exact here (.inr (.inl holds))
      | some items =>
        by_cases again : id ∈ inside
        · exact here (.inr (.inr again))
        have next := closed.items schema (Model.mem_of_schema? found) items holds
        obtain ⟨passed, last, chain, apart, stops⟩ := ih (before.cons bound again) next
        obtain ⟨unmatched, kind⟩ := wrapper?_eq_some.1 wraps
        have new : id ∉ passed.map Prod.fst := fun mem => apart id mem List.mem_cons_self
        refine ⟨(id, wrapper) :: passed, last, .through found unmatched kind holds new chain, ?_, ?_⟩
        · rw [List.map_cons, List.forall_mem_cons]
          exact ⟨again, fun outer mem inside => apart outer mem (List.mem_cons_of_mem id inside)⟩
        · obtain ⟨schema, found, stops⟩ := stops
          exact ⟨schema, found, stops.imp_right (Or.imp_right List.perm_middle.mem_iff.1)⟩

/-- A chain that ends at a schema which decides the declaration has an outcome. -/
theorem Chain.exists_outcome (chain : Chain resolver model id passed last)
    (found : model.schema? last = some schema) (plain : ¬ resolver.Unwraps schema) (required : Bool)
    (registry : Registry) : ∃ result, Outcome resolver model id required registry result := by
  cases first : resolver.override? schema with
  | some override =>
    obtain ⟨front, back, overrides, skipped, applies⟩ := override?_eq_some.1 first
    exact ⟨_, .overridden chain found overrides skipped applies⟩
  | none =>
    have unmatched := override?_eq_none.1 first
    cases kind : schema.kind with
    | array => exact absurd ⟨unmatched, .inl kind⟩ plain
    | map => exact absurd ⟨unmatched, .inr kind⟩ plain
    | unsupported name => exact ⟨_, .unsupported chain found unmatched kind⟩
    | union =>
      cases told : schema.discriminator with
      | none => exact ⟨_, .undiscriminated chain found unmatched kind told⟩
      | some discriminator =>
        have typed : schema.isType = true := by simp [Schema.isType, kind, told]
        obtain ⟨declaration, made, -⟩ :=
          byKind_of_isType last typed (required || !passed.isEmpty) registry
        exact ⟨_, .byKind chain found unmatched made⟩
    | _ => exact ⟨_, .byKind chain found unmatched (by simp only [Resolver.byKind, kind]; rfl)⟩

theorem exists_outcome (resolver : Resolver) (closed : model.Closed) (bound : id < model.size)
    (required : Bool) (registry : Registry) : ∃ result, Outcome resolver model id required registry result := by
  obtain ⟨passed, last, chain, -, schema, found, stops⟩ := exists_chain resolver closed (.start model) bound
  rw [List.append_nil] at stops
  by_cases unwraps : resolver.Unwraps schema
  case neg => exact chain.exists_outcome found unwraps required registry
  obtain plain | empty | again := stops
  · exact absurd unwraps plain
  · cases wraps : resolver.wrapper? schema with
    | none => exact absurd unwraps (wrapper?_eq_none.1 wraps)
    | some wrapper =>
      obtain ⟨unmatched, kind⟩ := wrapper?_eq_some.1 wraps
      exact ⟨_, .withoutItems chain found unmatched kind empty⟩
  · exact ⟨_, .recursive chain found again⟩

/-- Where truth values are switches, no truth value is left to be declared by its kind. -/
theorem not_unmatched_of_switch (switches : TypeOverride.switch ∈ resolver.overrides)
    (boolean : schema.kind = .boolean) : ¬ resolver.Unmatched schema := by
  intro unmatched
  have none := unmatched _ switches
  simp [TypeOverride.switch, boolean] at none

/-- **A chain decides.** In a closed model a resolution comes to the outcome of the chain from its schema,
whatever stops that, and to nothing else. Where truth values are switches, a chain to one always ends in an
override: the first that applies. -/
theorem resolve_eq_iff_outcome (resolver : Resolver) (closed : model.Closed) (bound : id < model.size)
    (required : Bool) (registry : Registry) :
    (∀ result, (resolver.resolve model id required).run registry = result ↔
      Outcome resolver model id required registry result) ∧
    (TypeOverride.switch ∈ resolver.overrides → ∀ passed last schema,
      Chain resolver model id passed last → model.schema? last = some schema → schema.kind = .boolean →
        ∃ front override back, resolver.overrides = front ++ override :: back ∧
          (∀ earlier ∈ front, earlier.applies schema = false) ∧ override.applies schema = true ∧
          (resolver.resolve model id required).run registry = .ok
            ((override.declare schema (required || !passed.isEmpty)).within required
              (passed.map Prod.snd), registry)) := by
  refine ⟨fun result => ⟨?_, Outcome.resolve⟩, ?_⟩
  · rintro rfl
    obtain ⟨result, outcome⟩ := exists_outcome resolver closed bound required registry
    rwa [outcome.resolve]
  · intro switches passed last schema chain found boolean
    cases first : resolver.override? schema with
    | none => exact absurd (override?_eq_none.1 first) (not_unmatched_of_switch switches boolean)
    | some override =>
      obtain ⟨front, back, overrides, skipped, applies⟩ := override?_eq_some.1 first
      exact ⟨front, override, back, overrides, skipped, applies,
        (Outcome.overridden chain found overrides skipped applies).resolve⟩

/-- A list of dictionaries of lists of dictionaries, where only the first list is not inside itself, and a list
of truth values. -/
def burrow : Model where
  schemas :=
    [{ kind := .array, path := "/schemas/Entrance", items := some 1 },
      { kind := .map, path := "/schemas/Tunnel", items := some 2 },
      { kind := .array, path := "/schemas/Chamber", items := some 1 },
      { kind := .array, path := "/schemas/Doors", items := some 4 },
      { kind := .boolean, path := "/schemas/Doors/items" }]

theorem burrow_outcome : burrow.Closed ∧ 0 < burrow.size ∧ 3 < burrow.size ∧
    (({} : Resolver).resolve burrow 0 false).run {} =
      .error (.failure (.unsupportedSchema "/schemas/Tunnel" "recursive collection")) ∧
    (Resolver.resolve { overrides := [.switch] } burrow 3 false).run {} =
      .ok (⟨"global::System.Management.Automation.SwitchParameter[]", false, true, "null", .array, none⟩,
        {}) := by
  have closed : burrow.Closed := by decide
  refine ⟨closed, by decide, by decide, ?_, ?_⟩
  · have chain : Chain {} burrow 0 [(0, .list), (1, .dictionary), (2, .list)] 1 :=
      .through rfl (by simp [Unmatched]) rfl rfl (by decide) <|
        .through rfl (by simp [Unmatched]) rfl rfl (by decide) <|
          .through rfl (by simp [Unmatched]) rfl rfl (by decide) (.here 1)
    exact ((resolve_eq_iff_outcome {} closed (by decide) false {}).1 _).2
      (.recursive chain rfl (by decide))
  · have chain : Chain { overrides := [.switch] } burrow 3 [(3, .list)] 4 :=
      .through rfl (by simp [Unmatched, TypeOverride.switch]) rfl rfl (by decide) (.here 4)
    obtain ⟨front, override, back, overrides, -, -, made⟩ :=
      (resolve_eq_iff_outcome { overrides := [.switch] } closed (by decide) false {}).2 (by simp) _ _ _
        chain rfl rfl
    obtain ⟨rfl, rfl⟩ : front = [] ∧ override = TypeOverride.switch := by
      cases front <;> simp_all
    exact made

end Resolver
end CmdletForge
