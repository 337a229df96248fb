import CmdletForge.Proofs.Types.Extension
import CmdletForge.Proofs.Types.Standing

/-!
# Resolving in place

A resolution that stops gives no registry back, so that nothing can be left in it. Here the registry is one
that stays: a step changes it in place, and what it has changed remains when a later step stops.
`resolveInPlace` goes through the schemas in a single recursion on these terms. Nothing is left by it either,
as the only step that registers a type is the last that may stop; and what it comes to once, a failure or a
declaration, it comes to for good.
-/

namespace CmdletForge.Resolver

/-- Steps that change the registry in place, also when they stop. -/
abbrev InPlace := ExceptT Stop (StateM Registry)

/-- What a step comes to in a state of the registry, and the registry that it leaves. -/
def InPlace.on {α : Type} (step : InPlace α) (registry : Registry) : Except Stop α × Registry :=
  Id.run ((ExceptT.run step).run registry)

/-- Registers the type of a schema. -/
def enlist (id : SchemaId) (schema : Schema) : InPlace TypeRef :=
  modifyGet fun registry => registry.register id schema

/-- The declaration of a schema by its kind, which is no collection. -/
def kindInPlace (id : SchemaId) (schema : Schema) (required : Bool) : InPlace Declaration :=
  match schema.kind with
  | .primitive p => return primitive p schema.default required
  | .boolean => return .value "bool" required .boolean (schema.default.bind Literal.flag?) none
  | .enumeration => do
    let type ← enlist id schema
    return .value type.fullName required .string (schema.default.bind (memberText type)) (some type)
  | .object => do
    let type ← enlist id schema
    return .reference type.fullName required .object none (some type)
  | .union =>
    if schema.discriminator.isNone then throw (schema.unsupported "polymorphic-union without discriminator")
    else do
      let type ← enlist id schema
      return .reference type.fullName required .object none (some type)
  | .array => throw (schema.unsupported (withoutItems .list))
  | .map => throw (schema.unsupported (withoutItems .dictionary))
  | .unsupported kind => throw (schema.unsupported kind)

/-- The declaration of a schema that was found in the collections `inside`. What a collection holds is declared
first, and the collection then around it. -/
def resolveInside (resolver : Resolver) (model : Model) :
    (steps : Nat) → (inside : List SchemaId) → SchemaId → (required : Bool) → InPlace Declaration
  | 0, _, id, _ => throw (.noSchema id)
  | steps + 1, inside, id, required =>
    match model.schema? id with
    | none => throw (.noSchema id)
    | some schema =>
      match resolver.override? schema, resolver.wrapper? schema with
      | some override, _ => return override.declare schema required
      | none, none => kindInPlace id schema required
      | none, some wrapper =>
        match schema.items with
        | none => throw (schema.unsupported (withoutItems wrapper))
        | some items =>
          if id ∈ inside then throw (schema.unsupported "recursive collection")
          else do
            let element ← resolver.resolveInside model steps (id :: inside) items true
            return wrapper.wrap required element

/-- The declaration of a schema, for a value that is required or not. -/
def resolveInPlace (resolver : Resolver) (model : Model) (id : SchemaId) (required : Bool) :
    InPlace Declaration :=
  resolver.resolveInside model (model.size + 2) [] id required

/-! ## The same, with nothing left behind -/

section Agreement

variable {α β : Type} {step : Registering α} {place : InPlace α}

/-- What an answer is in place, if a step that stops leaves the registry as it was. -/
def settled (registry : Registry) : Except Stop (α × Registry) → Except Stop α × Registry
  | .ok (x, after) => (.ok x, after)
  | .error stop => (.error stop, registry)

/-- The step in place comes to the same, and where it stops the registry is as it was. -/
def Agrees (step : Registering α) (place : InPlace α) : Prop :=
  ∀ registry, place.on registry = settled registry (step.run registry)

theorem Agrees.pure (x : α) : Agrees (Pure.pure x) (Pure.pure x) := fun _ => rfl

theorem Agrees.throw (stop : Stop) :
    Agrees (MonadExcept.throw stop : Registering α) (MonadExcept.throw stop) := fun _ => rfl

theorem agrees_enlist (id : SchemaId) (schema : Schema) : Agrees (registered id schema) (enlist id schema) :=
  fun _ => rfl

theorem on_bind_pure (place : InPlace α) (f : α → β) (registry : Registry) :
    (place >>= fun x => Pure.pure (f x)).on registry =
      ((place.on registry).1.map f, (place.on registry).2) := by
  simp only [InPlace.on, ExceptT.run_bind, StateT.run_bind, Id.run_bind]
  cases Id.run ((ExceptT.run place).run registry) with
  | mk answer after => cases answer <;> rfl

/-- What is done after a step must not stop, as the step may have changed the registry. -/
theorem Agrees.bind_pure (agrees : Agrees step place) (f : α → β) :
    Agrees (step >>= fun x => Pure.pure (f x)) (place >>= fun x => Pure.pure (f x)) := by
  intro registry
  rw [on_bind_pure, agrees, StateT.run_bind]
  cases step.run registry <;> rfl

end Agreement

theorem agrees_byKind (id : SchemaId) (schema : Schema) (required : Bool) :
    Agrees (byKind id schema required) (kindInPlace id schema required) := by
  cases kind : schema.kind with
  | primitive p =>
    simp only [byKind, kindInPlace, kind]
    exact .pure _
  | boolean =>
    simp only [byKind, kindInPlace, kind]
    exact .pure _
  | enumeration =>
    simp only [byKind, kindInPlace, kind]
    exact (agrees_enlist id schema).bind_pure _
  | object =>
    simp only [byKind, kindInPlace, kind]
    exact (agrees_enlist id schema).bind_pure _
  | union =>
    simp only [byKind, kindInPlace, kind]
    split
    · exact .throw _
    · exact (agrees_enlist id schema).bind_pure _
  | _ =>
    simp only [byKind, kindInPlace, kind]
    exact .throw _

variable {resolver : Resolver} {model : Model} {id : SchemaId}

/-- The declaration of a schema that was found in the collections `inside`, by its core. -/
def resolveFrom (resolver : Resolver) (model : Model) (steps : Nat) (inside : List SchemaId) (id : SchemaId)
    (required : Bool) : Registering Declaration := do
  let core ← resolver.coreFrom model steps inside id
  let element ← resolver.declareCore core (required || !core.wrappers.isEmpty)
  return wrapAll required element core.wrappers

theorem resolveFrom_of_stop {steps : Nat} {inside : List SchemaId} {stop : Stop}
    (stopped : resolver.coreFrom model steps inside id = .error stop) (required : Bool) :
    resolver.resolveFrom model steps inside id required = throw stop := by
  rw [resolveFrom, stopped]
  rfl

/-- What is no collection is declared itself. -/
theorem resolveFrom_of_last {steps : Nat} {inside : List SchemaId} {schema : Schema}
    (found : model.schema? id = some schema) (plain : resolver.wrapper? schema = none) (required : Bool) :
    resolver.resolveFrom model (steps + 1) inside id required =
      resolver.declareCore ⟨[], id, schema⟩ required := by
  have last : resolver.coreFrom model (steps + 1) inside id = .ok ⟨[], id, schema⟩ := by
    simp only [coreFrom, found, plain]
  rw [resolveFrom, last]
  change resolver.declareCore ⟨[], id, schema⟩ (required || false) >>= Pure.pure = _
  rw [Bool.or_false, bind_pure]

/-- A collection is declared around what it holds. -/
theorem resolveFrom_of_wrapper {steps : Nat} {inside : List SchemaId} {items : SchemaId} {schema : Schema}
    {wrapper : Wrapper} (found : model.schema? id = some schema)
    (wraps : resolver.wrapper? schema = some wrapper) (holds : schema.items = some items)
    (new : id ∉ inside) (required : Bool) :
    resolver.resolveFrom model (steps + 1) inside id required =
      resolver.resolveFrom model steps (id :: inside) items true >>= fun element =>
        Pure.pure (wrapper.wrap required element) := by
  cases search : resolver.coreFrom model steps (id :: inside) items with
  | error stop =>
    have stopped : resolver.coreFrom model (steps + 1) inside id = .error stop := by
      simp only [coreFrom, found, wraps, holds, if_neg new, search]
    rw [resolveFrom_of_stop stopped, resolveFrom_of_stop search]
    rfl
  | ok core =>
    have outer : resolver.coreFrom model (steps + 1) inside id =
        .ok { core with wrappers := wrapper :: core.wrappers } := by
      simp only [coreFrom, found, wraps, holds, if_neg new, search]
    rw [resolveFrom, resolveFrom, outer, search]
    change (resolver.declareCore core (required || true) >>= fun element =>
        Pure.pure (wrapAll required element (wrapper :: core.wrappers))) =
      (resolver.declareCore core true >>= fun element =>
        Pure.pure (wrapAll true element core.wrappers)) >>= fun element =>
          Pure.pure (wrapper.wrap required element)
    rw [Bool.or_true, bind_assoc]
    simp only [pure_bind]
    rfl

/-- **Resolving in place is resolving.** -/
theorem agrees_resolveInside (steps : Nat) (inside : List SchemaId) (required : Bool) :
    Agrees (resolver.resolveFrom model steps inside id required)
      (resolver.resolveInside model steps inside id required) := by
  induction steps generalizing inside id required with
  | zero => exact .throw _
  | succ steps ih =>
    rw [resolveInside]
    cases found : model.schema? id with
    | none =>
      have stopped : resolver.coreFrom model (steps + 1) inside id = .error (.noSchema id) := by
        rw [coreFrom, found]
      rw [resolveFrom_of_stop stopped]
      exact .throw _
    | some schema =>
      cases matched : resolver.override? schema with
      | some override =>
        have plain : resolver.wrapper? schema = none := by simp [wrapper?, matched]
        simp only [resolveFrom_of_last found plain, declareCore, matched]
        exact .pure _
      | none =>
        cases wraps : resolver.wrapper? schema with
        | none =>
          simp only [resolveFrom_of_last found wraps, declareCore, matched, wraps]
          exact agrees_byKind id schema required
        | some wrapper =>
          cases holds : schema.items with
          | none =>
            have stopped : resolver.coreFrom model (steps + 1) inside id =
                .error (schema.unsupported (withoutItems wrapper)) := by
              simp only [coreFrom, found, wraps, holds]
            simp only [resolveFrom_of_stop stopped, matched, wraps, holds]
            exact .throw _
          | some items =>
            by_cases again : id ∈ inside
            · have stopped : resolver.coreFrom model (steps + 1) inside id =
                  .error (schema.unsupported "recursive collection") := by
                simp only [coreFrom, found, wraps, holds, if_pos again]
              simp only [resolveFrom_of_stop stopped, matched, wraps, holds, if_pos again]
              exact .throw _
            · simp only [resolveFrom_of_wrapper found wraps holds again, matched, wraps, holds, if_neg again]
              exact (ih (id :: inside) true).bind_pure _

theorem on_resolveInPlace (registry : Registry) (required : Bool) :
    (resolver.resolveInPlace model id required).on registry =
      settled registry ((resolver.resolve model id required).run registry) :=
  agrees_resolveInside (model.size + 2) [] required registry

/-! ## What is left, and what is answered later -/

/-- A call on a registry, between two resolutions of a schema. -/
inductive ResolvingCall where
  | resolve (id : SchemaId) (required : Bool)
  | setOwner (space : String)
  | nextPending
deriving DecidableEq

namespace ResolvingCall

/-- The registry that a call leaves, whatever it answers. -/
def perform (resolver : Resolver) (model : Model) (registry : Registry) : ResolvingCall → Registry
  | resolve id required => ((resolver.resolveInPlace model id required).on registry).2
  | setOwner space => registry.setOwner space
  | nextPending => registry.nextPending.2

/-- The registry that calls leave, one after the other. -/
def performAll (resolver : Resolver) (model : Model) (registry : Registry) (calls : List ResolvingCall) :
    Registry :=
  calls.foldl (perform resolver model) registry

/-- A call only adds types. -/
theorem types_perform (resolver : Resolver) (model : Model) (registry : Registry) (call : ResolvingCall) :
    registry.types <+: (call.perform resolver model registry).types := by
  cases call with
  | resolve id required =>
    rw [perform, on_resolveInPlace]
    cases made : (resolver.resolve model id required).run registry with
    | error stop => exact List.prefix_refl _
    | ok result => exact (standing_resolve resolver model id required registry result.1 result.2 made).1
  | setOwner space => exact List.prefix_refl _
  | nextPending =>
    rw [perform, Registry.types_nextPending]

theorem types_performAll (resolver : Resolver) (model : Model) (registry : Registry)
    (calls : List ResolvingCall) : registry.types <+: (performAll resolver model registry calls).types := by
  induction calls generalizing registry with
  | nil => exact List.prefix_refl _
  | cons call rest ih => exact (types_perform resolver model registry call).trans (ih _)

end ResolvingCall

/-- What a resolution in place answers, and the registry that it leaves. -/
structure Steady (resolver : Resolver) (model : Model) (id : SchemaId) (required : Bool)
    (registry : Registry) (answer : Except Failure Declaration) (after : Registry) : Prop where
  made : (resolver.resolveInPlace model id required).on registry = (answer.mapError .failure, after)
  /-- A failure leaves the registry as it was. -/
  untouched : ∀ failure, answer = .error failure → after = registry
  /-- A declaration adds a single type, if any. -/
  single : ∀ declaration, answer = .ok declaration → after = registry ∨
    ∃ type, type.schema ∉ registry.ids ∧ type.space = registry.owner ∧
      type.name ∉ registry.namesIn registry.owner ∧ after = registry.extend type
  /-- Whatever is called then, the answer is the same again, and nothing changes. -/
  again : ∀ calls, (resolver.resolveInPlace model id required).on
      (ResolvingCall.performAll resolver model after calls) =
    (answer.mapError .failure, ResolvingCall.performAll resolver model after calls)

/-- The registry has the type of a core, or gets it as its last. -/
theorem enroll_cases (registry : Registry) (core? : Option Core) : registry.enroll core? = registry ∨
    ∃ type, type.schema ∉ registry.ids ∧ type.space = registry.owner ∧
      type.name ∉ registry.namesIn registry.owner ∧ registry.enroll core? = registry.extend type := by
  cases core? with
  | none => exact .inl rfl
  | some core =>
    rcases registry.register_cases core.id core.schema with ⟨type, -, same⟩ | ⟨fresh, same⟩
    · exact .inl (congrArg Prod.snd same)
    · refine .inr ⟨registry.newType core.id core.schema, fresh, rfl, ?_, congrArg Prod.snd same⟩
      exact Naming.uniqueName_not_mem _ _

/-- **Resolutions are steady.** In a closed model, and in any state of the registry, a resolution in place that
fails leaves the registry as it was and one that succeeds adds a single type at most. Whatever calls follow,
resolving the schema again comes to the same and changes nothing. -/
theorem steady_resolveInPlace (resolver : Resolver) (closed : model.Closed) (bound : id < model.size)
    (required : Bool) (registry : Registry) :
    ∃ answer after, Steady resolver model id required registry answer after := by
  cases fails : resolver.failure? model id with
  | some failure =>
    have stops (registry : Registry) : (resolver.resolveInPlace model id required).on registry =
        (.error (.failure failure), registry) := by
      rw [on_resolveInPlace, StateT.run, resolve_of_failure fails]
      rfl
    refine ⟨.error failure, registry, stops registry, fun _ _ => rfl, ?_, fun calls => stops _⟩
    intro declaration answered
    contradiction
  | none =>
    obtain ⟨declaration, made, -⟩ := resolve_of_sound closed bound fails required registry
    have standing := standing_resolve resolver model id required registry declaration _ made
    refine ⟨.ok declaration, registry.enroll (resolver.type? model id), ?_, ?_, ?_, ?_⟩
    · rw [on_resolveInPlace, StateT.run, made]
      rfl
    · intro failure answered
      contradiction
    · exact fun _ _ => enroll_cases registry _
    · intro calls
      rw [on_resolveInPlace, standing.2 _ (ResolvingCall.types_performAll resolver model _ calls)]
      rfl

/-- The tags of a pet are of a new type, which keeps its name when another namespace owns the registry; nests
hold nothing but nests. -/
theorem steady_petStore : petStore.Closed ∧ 1 < petStore.size ∧ 6 < petStore.size ∧
    (∃ declaration after, Steady {} petStore 1 true { owner := "Pets" } (.ok declaration) after ∧
      after.types = [⟨4, "Pets", "PetTags"⟩] ∧
      ((({} : Resolver).resolveInPlace petStore 1 true).on (ResolvingCall.performAll {} petStore after
        [.setOwner "Animals", .resolve 0 false, .nextPending])).1 = .ok declaration) ∧
    ∃ failure, Steady {} petStore 6 false { owner := "Pets" } (.error failure) { owner := "Pets" } := by
  have closed : petStore.Closed := by decide
  have tags : 1 < petStore.size := by decide
  have nest : 6 < petStore.size := by decide
  refine ⟨closed, tags, nest, ?_, ?_⟩
  · obtain ⟨answer, after, steady⟩ := steady_resolveInPlace {} closed tags true { owner := "Pets" }
    have answered := congrArg (fun result => result.1.toOption.isSome) steady.made
    have left := congrArg (fun result => result.2.types) steady.made
    cases answer with
    | error failure => contradiction
    | ok declaration =>
      refine ⟨declaration, after, steady, left.symm.trans ?_, congrArg Prod.fst (steady.again _)⟩
      decide +kernel
  · obtain ⟨answer, after, steady⟩ := steady_resolveInPlace {} closed nest false { owner := "Pets" }
    have answered := congrArg (fun result => result.1.toOption.isSome) steady.made
    cases answer with
    | error failure =>
      obtain rfl := steady.untouched failure rfl
      exact ⟨failure, steady⟩
    | ok declaration => contradiction

end CmdletForge.Resolver
