import CmdletForge.Proofs.Namespace.Aliases
import CmdletForge.Proofs.Types.Extension

/-!
# The parameters of a variant

What the variant of an operation makes of its parameters. Those that resolve are kept, in order, and of every
other one the failure is recorded; whether a parameter resolves does not depend on what was registered before.
Positions are counted where they are handed out, so a parameter that is left out leaves no gap. Each parameter
has its declared aliases in order and after them its name on the wire, each text once and none that reads as the
parameter's own name.
-/

namespace CmdletForge

namespace Commands

/-! ## Aliases in order -/

/-- Texts are added in order of their first occurrence, without those that read as the name. -/
theorem addAliases_eq (name : String) {aliases : List String} (distinct : aliases.Nodup)
    (texts : List String) :
    addAliases name aliases texts = (aliases ++ texts.filter (!sameName · name)).eraseDups := by
  induction texts generalizing aliases with
  | nil =>
    rw [addAliases, List.filter_nil, List.append_nil, eraseDups_eq_self distinct]
  | cons text rest ih =>
    rw [addAliases]
    cases reads : sameName text name with
    | true => rw [Bool.true_or, if_pos rfl, ih distinct, List.filter_cons_of_neg (by simp [reads])]
    | false =>
      rw [List.filter_cons_of_pos (by simp [reads]), Bool.false_or]
      simp only [List.contains_iff_mem]
      have grown := eraseDups_concat aliases text
      rw [eraseDups_eq_self distinct] at grown
      have joined (kept : List String) : (aliases ++ text :: kept).eraseDups =
          ((if text ∈ aliases then aliases else aliases ++ [text]) ++ kept).eraseDups := by
        rw [List.append_cons, ← eraseDups_append_eraseDups, grown]
      rw [joined]
      split
      next => exact ih distinct
      next new =>
        have longer : (aliases ++ [text]).Nodup := by
          rw [if_neg new] at grown
          rw [← grown]
          exact nodup_eraseDups _
        exact ih longer

theorem nodup_aliasesOf (name : String) (parameter : Parameter) : (aliasesOf name parameter).Nodup := by
  rw [aliasesOf, addAliases_eq name List.nodup_nil]
  exact nodup_eraseDups _

/-- The aliases of a parameter: those declared that do not read as its name, each at its first place, and the
name on the wire if it does not read as the name either and was not declared. -/
theorem aliasesOf_eq (name : String) (parameter : Parameter) :
    aliasesOf name parameter = (parameter.aliases.filter (!sameName · name)).eraseDups ++
      if parameter.name ∈ parameter.aliases ∨ sameName parameter.name name = true then []
      else [parameter.name] := by
  rw [aliasesOf, addAliases_eq name List.nodup_nil, List.nil_append, List.filter_append]
  cases reads : sameName parameter.name name with
  | true => simp [reads]
  | false =>
    have kept : [parameter.name].filter (!sameName · name) = [parameter.name] := by simp [reads]
    rw [kept, eraseDups_concat]
    simp only [List.mem_filter, reads, Bool.not_false, and_true, Bool.false_eq_true, or_false]
    split <;> simp

end Commands

/-! ## Which parameters are kept -/

namespace Resolver

variable {resolver : Resolver} {model : Model} {id : SchemaId} {required : Bool} {registry : Registry}

theorem failure?_of_made {made : Declaration × Registry}
    (resolved : (resolver.resolve model id required).run registry = .ok made) :
    resolver.failure? model id = none := by
  cases fails : resolver.failure? model id with
  | none => rfl
  | some failure =>
    rw [StateT.run, resolve_of_failure fails] at resolved
    contradiction

/-- The failure of a resolution is that of the schema. -/
theorem failure?_of_failed {failure : Failure}
    (failed : (resolver.resolve model id required).run registry = .error (.failure failure)) :
    resolver.failure? model id = some failure := by
  cases fails : resolver.failure? model id with
  | some other =>
    rw [StateT.run, resolve_of_failure fails] at failed
    cases failed
    rfl
  | none =>
    cases found : resolver.core model id with
    | error stop =>
      rw [resolve, found] at failed
      cases failed
      simp [failure?, found] at fails
    | ok core =>
      obtain ⟨_, made, -⟩ := resolve_of_found found fails required registry
      rw [StateT.run, made] at failed
      contradiction

/-- A schema that is resolved once is resolved for whatever value and in whatever state. -/
theorem resolves_of_made {made : Declaration × Registry}
    (resolved : (resolver.resolve model id required).run registry = .ok made) : resolver.Resolves model id := by
  intro required' registry'
  have sound := failure?_of_made resolved
  cases found : resolver.core model id with
  | error stop =>
    rw [resolve, found] at resolved
    contradiction
  | ok core =>
    obtain ⟨_, made, -⟩ := resolve_of_found found sound required' registry'
    exact ⟨_, made⟩

end Resolver

/-- Nothing stands in the way of declaring a parameter. -/
def Source.declarable (source : Source) (parameter : Parameter) : Bool :=
  (source.resolver.failure? source.model parameter.schema).isNone

/-- A parameter of the path that must be there. -/
def Parameter.positional (parameter : Parameter) : Bool :=
  parameter.required && decide (parameter.location = .path)

/-- What stands in the definition of a parameter. -/
structure ParameterDefinition.Binds (source : Source) (registry : Registry) (parameter : Parameter)
    (definition : ParameterDefinition) : Prop where
  its : definition.Of parameter
  description : definition.description = parameter.description
  declaration : source.Declares registry parameter.schema parameter.required definition.declaration
  positional : definition.position.isSome = true ↔ parameter.required = true ∧ parameter.location = .path
  distinct : definition.aliases.Nodup
  aliases : ∀ text, text ∈ definition.aliases ↔
    (text ∈ parameter.aliases ∨ text = parameter.name) ∧ Commands.sameName text definition.name = false
  order : definition.aliases = (parameter.aliases.filter (!Commands.sameName · definition.name)).eraseDups ++
    if parameter.name ∈ parameter.aliases ∨ Commands.sameName parameter.name definition.name = true then []
    else [parameter.name]

/-- What the variant of an operation makes of its parameters, between two states. -/
structure CommandVariant.Binds (source : Source) (operation : Operation) (before after : Run)
    (variant : CommandVariant) : Prop where
  named : ∀ definition ∈ variant.parameters, definition.name ≠ ""
  distinct : (variant.parameters.map (·.name)).Nodup
  kept : List.Forall₂ (ParameterDefinition.Binds source after.registry)
    (operation.parameters.filter source.declarable) variant.parameters
  resolves : ∀ parameter ∈ operation.parameters, source.declarable parameter = true →
    source.resolver.Resolves source.model parameter.schema
  dropped : ∀ parameter ∈ operation.parameters, source.declarable parameter = false → ∃ failure,
    (∀ registry, (source.resolver.resolve source.model parameter.schema parameter.required).run registry =
      .error (.failure failure)) ∧ failure ∈ after.report.checkpoint.failures
  positions : variant.parameters.filterMap (·.position) =
    List.range ((operation.parameters.filter source.declarable).countP Parameter.positional)
  /-- Nothing else is recorded but the failures of the parameters and of the output, in this order. -/
  checkpoint : after.report.checkpoint =
    before.report.checkpoint.recordAll (source.failures operation.mentions)

namespace Commands

open Synthesis

variable {source : Source} {run : Run}

/-! ## One declaration -/

/-- What a declaration does whenever it ends: the schema is declared, or its failure is recorded. -/
theorem yields_declares (id : SchemaId) (required : Bool) :
    Yields source run (declare? id required) fun answer after => Declared source [id] run after ∧
      (answer.isSome ↔ source.resolver.failure? source.model id = none) ∧
      (answer.isSome → source.resolver.Resolves source.model id) ∧
      ∀ declaration ∈ answer, source.Declares after.registry id required declaration := by
  refine .read (.get ?_)
  cases made : source.resolver.resolve source.model id required run.registry with
  | ok result =>
    obtain ⟨declaration, registry⟩ := result
    have sound := Resolver.failure?_of_made made
    have enrolled := Resolver.registry_of_resolve made
    obtain ⟨-, again⟩ := Resolver.standing_resolve _ _ _ _ _ _ _ made
    simp only [StateT.run, made]
    refine .modify (.bind (.get (yields_noteTypes _)) fun _ after noted => ?_)
    have same : after.registry = registry := noted.registry
    refine .pure ⟨⟨same.trans enrolled, ?_⟩, by simp [sound], fun _ => Resolver.resolves_of_made made, ?_⟩
    · simp only [Source.failures, List.filterMap_cons, sound, List.filterMap_nil]
      exact noted.checkpoint
    · intro _ mem
      obtain rfl := Option.some.inj mem
      rw [same]
      exact again registry (List.prefix_refl _)
  | error stop =>
    simp only [StateT.run, made]
    cases stop with
    | noSchema missing => exact .stop _
    | failure failure =>
      have fails := Resolver.failure?_of_failed made
      have untyped := Resolver.type?_of_failure fails
      refine .report (.pure ⟨⟨?_, ?_⟩, by simp [fails], by simp, by simp⟩)
      · simp [Source.enrollAll, untyped, Registry.enroll]
      · simp only [Source.failures, List.filterMap_cons, fails, List.filterMap_nil]
        rfl

/-! ## All parameters of an operation -/

/-- What is made of parameters of which the first positional one gets a given position. -/
structure Bound (source : Source) (parameters : List Parameter) (position : Nat) (before after : Run)
    (defined : List ParameterDefinition) : Prop where
  declared : Declared source (parameters.map (·.schema)) before after
  kept : List.Forall₂ (ParameterDefinition.Binds source after.registry)
    (parameters.filter source.declarable) defined
  resolves : ∀ parameter ∈ parameters, source.declarable parameter = true →
    source.resolver.Resolves source.model parameter.schema
  positions : defined.filterMap (·.position) =
    List.range' position ((parameters.filter source.declarable).countP Parameter.positional)

variable {parameter : Parameter} {parameters : List Parameter} {position : Nat} {before middle after : Run}
  {defined : List ParameterDefinition}

theorem Bound.nil (source : Source) (position : Nat) (run : Run) : Bound source [] position run run [] :=
  ⟨.refl run, .nil, by simp, by simp⟩

/-- A parameter that cannot be declared is left out. -/
theorem Bound.drop (declared : Declared source [parameter.schema] before middle)
    (fails : source.declarable parameter = false) (rest : Bound source parameters position middle after defined) :
    Bound source (parameter :: parameters) position before after defined := by
  have left : (parameter :: parameters).filter source.declarable = parameters.filter source.declarable :=
    List.filter_cons_of_neg (by simp [fails])
  refine ⟨declared.trans rest.declared, ?_, List.forall_mem_cons.2 ⟨by simp [fails], rest.resolves⟩, ?_⟩
  · rw [left]
    exact rest.kept
  · rw [left]
    exact rest.positions

/-- A parameter that is declared stands first, and takes a position if it is positional. -/
theorem Bound.keep (declared : Declared source [parameter.schema] before middle)
    (sound : source.declarable parameter = true)
    (resolves : source.resolver.Resolves source.model parameter.schema) {definition : ParameterDefinition}
    (binds : definition.Binds source middle.registry parameter)
    (takes : definition.position = if parameter.positional then some position else none)
    (rest : Bound source parameters (if parameter.positional then position + 1 else position) middle after
      defined) :
    Bound source (parameter :: parameters) position before after (definition :: defined) := by
  have kept : (parameter :: parameters).filter source.declarable =
      parameter :: parameters.filter source.declarable := List.filter_cons_of_pos sound
  refine ⟨declared.trans rest.declared, ?_, List.forall_mem_cons.2 ⟨fun _ => resolves, rest.resolves⟩, ?_⟩
  · rw [kept]
    exact .cons { binds with declaration := binds.declaration.mono rest.declared.grew.kept } rest.kept
  · have positions := rest.positions
    rw [kept, List.filterMap_cons, takes, List.countP_cons]
    cases counts : parameter.positional with
    | true =>
      rw [counts, if_pos rfl] at positions
      simp [positions, List.range'_succ]
    | false =>
      rw [counts] at positions
      simpa using positions

theorem yields_bound (operation : String) {taken : List String} :
    Yields source run (defineParameters operation taken position parameters) fun defined after =>
      Bound source parameters position run after defined := by
  induction parameters generalizing run taken position with
  | nil => exact .pure (.nil source position run)
  | cons parameter rest ih =>
    refine (yields_declares _ _).bind ?_
    rintro answer declared ⟨first, sound, resolves, declares⟩
    cases answer with
    | none =>
      have fails : source.declarable parameter = false := by
        simpa [Source.declarable, Option.isSome_iff_ne_none] using sound
      exact ih.mono fun defined after others => .drop first fails others
    | some declaration =>
      have whole : source.declarable parameter = true := by simpa [Source.declarable] using sound
      refine .noteIf fun noted quiet => ih.bind fun defined after others => ?_
      have declares := (declares declaration rfl).mono quiet.grew.kept
      refine .pure (.keep (first.trans_nil quiet) whole (resolves rfl) ⟨⟨rfl, rfl, rfl⟩, rfl, declares, ?_, ?_, ?_, ?_⟩
        ?_ others)
      · simp [Option.isSome_ite]
      · exact nodup_aliasesOf _ parameter
      · intro text
        dsimp only
        rw [mem_aliasesOf]
        simp [callNames]
      · exact aliasesOf_eq _ parameter
      · rfl

/-- What the variant of an operation says of its output is declared last. -/
theorem yields_output (response : Option SchemaId) :
    Yields source run (declareOutput response) fun _ after => Declared source response.toList run after := by
  cases response with
  | none => exact .pure (.refl run)
  | some id => exact (yields_declares id true).mono fun _ _ declared => declared.1

theorem yields_binds (source : Source) (run : Run) (operation : Operation) (name : CommandName) :
    Yields source run (defineVariant operation name) fun variant after =>
      variant.Binds source operation run after := by
  have both : Yields source run (defineParameters operation.id [] 0 operation.parameters) fun defined after =>
      Bound source operation.parameters 0 run after defined ∧
        ∃ kept, kept.Sublist operation.parameters ∧ Listed [] kept defined :=
    fun defined after ran => ⟨yields_bound _ defined after ran, yields_listed _ defined after ran⟩
  refine both.bind ?_
  rintro defined middle ⟨bound, kept, -, listed⟩
  refine (yields_output _).bind fun output after answered => .pure ?_
  have declared := bound.declared.trans answered
  refine ⟨fun definition mem => (listed.name mem).1, ?_, ?_, bound.resolves, ?_, ?_, declared.checkpoint⟩
  · rw [listed.names]
    exact (Naming.nodup_uniqueNames _ _).1
  · exact bound.kept.imp fun _ _ binds =>
      { binds with declaration := binds.declaration.mono answered.grew.kept }
  · intro parameter mem fails
    obtain ⟨failure, failed⟩ : ∃ failure, source.resolver.failure? source.model parameter.schema = some failure := by
      simpa [Source.declarable, Option.isSome_iff_exists] using fails
    refine ⟨failure, Resolver.resolve_of_failure failed _, ?_⟩
    rw [declared.checkpoint]
    refine Checkpoint.mem_recordAll.2 (.inr (List.mem_filterMap.2 ⟨parameter.schema, ?_, failed⟩))
    exact List.mem_append_left _ (List.mem_map_of_mem mem)
  · rw [List.range_eq_range']
    exact bound.positions

/-- **The parameters of a variant.** Whenever a variant is made, its parameters are those of the operation that
resolve. In a closed model, where all schemas are there that an operation mentions, the variant is made. -/
theorem defineVariant_binds (source : Source) (run : Run) (operation : Operation) (name : CommandName) :
    Yields source run (defineVariant operation name) (fun variant after =>
      variant.Binds source operation run after) ∧
    (source.model.Closed → (∀ id ∈ operation.mentions, id < source.model.size) →
      Ends source run (defineVariant operation name) fun variant after =>
        variant.Binds source operation run after) := by
  refine ⟨yields_binds source run operation name, fun closed bound => ?_⟩
  have parameters : ∀ parameter ∈ operation.parameters, parameter.schema < source.model.size :=
    fun parameter mem => bound _ (List.mem_append_left _ (List.mem_map_of_mem mem))
  have response : ∀ id ∈ operation.response, id < source.model.size :=
    fun id mem => bound id (List.mem_append_right _ (Option.mem_toList.2 mem))
  have made : Ends source run (defineVariant operation name) fun _ _ => True :=
    (ends_defineParameters closed parameters).bind fun _ _ _ =>
      (ends_declareOutput closed response).bind fun _ _ _ => .pure trivial
  exact made.of_yields (yields_binds source run operation name)

/-- An operation with two parameters of the path that are called alike, another one between them that cannot be
declared, and one that is declared to be called as it is called on the wire. -/
def lockers : Model where
  schemas := [{ kind := .primitive .string, path := "schemas/Key" },
    { kind := .unsupported "file", path := "operations/openLocker/parameters/scan" }]
  operations := [{
    id := "openLocker"
    parameters :=
      [{ name := "hall_id", location := .path, required := true, schema := 0 },
        { name := "scan", location := .path, required := true, schema := 1 },
        { name := "hallId", location := .path, required := true, aliases := ["Hall", "HALLID", "Hall"], schema := 0 },
        { name := "key-text", aliases := ["key-text", "KeyText"], schema := 0 }] }]

theorem lockers_bind : lockers.Closed ∧ ∀ operation ∈ lockers.operations,
    (∀ id ∈ operation.mentions, id < lockers.size) ∧
      Ends ⟨lockers, ⟨[]⟩⟩ {} (defineVariant operation ⟨"Open", "Locker"⟩) fun variant after =>
        variant.Binds ⟨lockers, ⟨[]⟩⟩ operation {} after := by
  have closed : lockers.Closed := by decide
  refine ⟨closed, fun operation mem => ?_⟩
  have bound : ∀ id ∈ operation.mentions, id < lockers.size := by
    obtain rfl := List.mem_singleton.1 mem
    decide
  exact ⟨bound, (defineVariant_binds _ _ _ _).2 closed bound⟩

end Commands
end CmdletForge
