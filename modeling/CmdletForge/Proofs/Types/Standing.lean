import CmdletForge.Generation.Synthesis
import CmdletForge.Proofs.Types.Resolution

/-!
# Declarations that stand

A declaration is made in one state of the registry and used in later ones. It stands: as types are only
added, resolving the schema again gives the same declaration and registers nothing. So all declarations
of a generation can be said to be those of its last state.
-/

namespace CmdletForge

/-- The declaration of a schema in a state of the registry: resolving the schema gives it and registers
nothing. -/
def Source.Declares (source : Source) (registry : Registry) (id : SchemaId) (required : Bool)
    (declaration : Declaration) : Prop :=
  (source.resolver.resolve source.model id required).run registry = .ok (declaration, registry)

namespace Registry

variable {registry later : Registry} {id : SchemaId} {schema : Schema}

/-- What was found is found later. -/
theorem lookup_of_kept {type : TypeRef} (found : registry.lookup id = some type)
    (kept : registry.types <+: later.types) : later.lookup id = some type := by
  obtain ⟨more, whole⟩ := kept
  rw [lookup] at found
  rw [lookup, ← whole, List.find?_append, found]
  rfl

theorem types_register (registry : Registry) (id : SchemaId) (schema : Schema) :
    registry.types <+: (registry.register id schema).2.types := by
  rcases register_cases registry id schema with ⟨_, -, same⟩ | ⟨-, same⟩
  · rw [same]
  · rw [same]
    exact List.prefix_append ..

/-- Whoever registers again gets the same type, and nothing changes. -/
theorem register_again (kept : (registry.register id schema).2.types <+: later.types) :
    later.register id schema = ((registry.register id schema).1, later) := by
  have known := lookup_of_kept lookup_register kept
  unfold Registry.register at known ⊢
  simp only [known]

end Registry

namespace Resolver

variable {α β : Type}

/-- Whatever the step comes to stands: types are only added, and where they are known the step comes to
the same and adds none. -/
def Standing (step : Registering α) : Prop :=
  ∀ registry x after, step.run registry = .ok (x, after) → registry.types <+: after.types ∧
    ∀ later : Registry, after.types <+: later.types → step.run later = .ok (x, later)

theorem Standing.pure (x : α) : Standing (Pure.pure x) := by
  rintro registry _ after ⟨⟩
  exact ⟨List.prefix_refl _, fun _ _ => rfl⟩

theorem Standing.throw (stop : Stop) : Standing (MonadExcept.throw stop : Registering α) := by
  rintro registry x after ⟨⟩

theorem Standing.bind {step : Registering α} {next : α → Registering β} (first : Standing step)
    (rest : ∀ x, Standing (next x)) : Standing (step >>= next) := by
  intro registry y after made
  rw [StateT.run_bind] at made
  cases ran : step.run registry with
  | error stop =>
    rw [ran] at made
    contradiction
  | ok result =>
    obtain ⟨x, middle⟩ := result
    rw [ran] at made
    obtain ⟨kept, again⟩ := first registry x middle ran
    obtain ⟨kept', again'⟩ := rest x middle y after made
    refine ⟨kept.trans kept', fun later known => ?_⟩
    rw [StateT.run_bind, again later (kept'.trans known)]
    exact again' later known

theorem standing_registered (id : SchemaId) (schema : Schema) : Standing (registered id schema) := by
  intro registry type after made
  have same : registry.register id schema = (type, after) := Except.ok.inj made
  have kept := registry.types_register id schema
  rw [same] at kept
  refine ⟨kept, fun later known => congrArg Except.ok ?_⟩
  have known : (registry.register id schema).2.types <+: later.types := by rwa [same]
  calc later.register id schema = ((registry.register id schema).1, later) :=
        Registry.register_again known
    _ = (type, later) := by rw [same]

theorem standing_structureType (id : SchemaId) (schema : Schema) (required : Bool) :
    Standing (structureType id schema required) :=
  (standing_registered id schema).bind fun _ => .pure _

theorem standing_byKind (id : SchemaId) (schema : Schema) (required : Bool) :
    Standing (byKind id schema required) := by
  unfold byKind
  split
  case h_1 => exact .pure _
  case h_2 => exact .pure _
  case h_3 => exact (standing_registered id schema).bind fun _ => .pure _
  case h_4 => exact standing_structureType id schema required
  case h_5 =>
    split
    · exact .throw _
    · exact standing_structureType id schema required
  all_goals exact .throw _

theorem standing_declareCore (resolver : Resolver) (core : Core) (required : Bool) :
    Standing (resolver.declareCore core required) := by
  unfold declareCore
  split
  · exact .pure _
  · exact standing_byKind _ _ _

/-- **Declarations stand.** -/
theorem standing_resolve (resolver : Resolver) (model : Model) (id : SchemaId) (required : Bool) :
    Standing (resolver.resolve model id required) := by
  refine Standing.bind ?_ fun core => (standing_declareCore resolver core _).bind fun _ => .pure _
  cases resolver.core model id with
  | error stop => exact .throw stop
  | ok core => exact .pure core

end Resolver

/-- A declaration stands in later states. -/
theorem Source.Declares.mono {source : Source} {before after : Registry} {id : SchemaId}
    {required : Bool} {declaration : Declaration}
    (declares : source.Declares before id required declaration) (kept : before.types <+: after.types) :
    source.Declares after id required declaration :=
  (Resolver.standing_resolve _ _ _ _ before declaration before declares).2 after kept

end CmdletForge
