import CmdletForge.Proofs.Namespace.Drain
import CmdletForge.Proofs.Types.Reach

/-!
# How a namespace of model types is filled

Between the calls of a generation nothing waits: the registered types are those that the namespaces so
far define, in order. A call declares its roots and drains the queue; `Filled` says what its namespace
and the state are then.
-/

namespace CmdletForge.Models

open Synthesis

variable {source : Source} {run after : Run} {earlier : List TypeRef}
  {space : Namespace ModelDefinition} {service : Service}

/-- All registered types are defined, and nothing waits. -/
structure Settled (source : Source) (defined : List TypeRef) (registry : Registry) : Prop where
  types : registry.types = defined
  idle : registry.pending = []
  sound : registry.Sound (defined.map (·.schema))
  inRange : ∀ type ∈ registry.types, type.schema < source.model.size

theorem Settled.distinct {registry : Registry} (settled : Settled source earlier registry) :
    registry.ids.Nodup := settled.sound.distinct

theorem Settled.empty (source : Source) (owner : String) : Settled source [] { owner } :=
  ⟨rfl, rfl, Registry.Sound.empty owner, by simp⟩

/-- A namespace that becomes the owner may be filled. -/
theorem Settled.draining (settled : Settled source earlier run.registry)
    (opened : space.phase = .initializing) (bare : space.definitions = [])
    (owner : after.registry = run.registry.setOwner space.fullName) :
    Draining source earlier space after := by
  have none : references space = [] := by simp [references, bare]
  refine ⟨opened, by rw [owner]; rfl, ?_, ⟨[], ?_, by simp⟩, ?_⟩
  · rw [owner, none, List.append_nil]
    exact settled.sound.setOwner space.fullName
  · rw [owner, none, List.append_nil, List.append_nil]
    exact settled.types
  · rw [owner]
    exact settled.inRange

/-- What filling a namespace comes to: it defines what was registered since, and the schemas that were
declared are the roots and the members of what it defines. -/
structure Filled (source : Source) (earlier : List TypeRef) (roots declared : List SchemaId)
    (run : Run) (space : Namespace ModelDefinition) (after : Run) : Prop where
  settled : Settled source (earlier ++ references space) after.registry
  named : Named source after.registry space
  met : Met source declared run after
  whole : declared.Perm (roots ++ (schemas space).flatMap source.model.members)
  inside : ∀ good, source.Saturated good → (∀ id ∈ run.registry.ids, good id) →
    (∀ id ∈ source.targets roots, good id) → ∀ id ∈ after.registry.ids, good id

theorem Drained.filled {done : Namespace ModelDefinition} {roots defined declared : List SchemaId}
    (bare : space.definitions = [])
    (drained : Drained source earlier roots space run done after defined declared) :
    Filled source earlier roots declared run done after := by
  have all : Models.schemas done = defined := by
    rw [drained.schemas]
    simp [Models.schemas, bare]
  refine ⟨⟨drained.types, drained.idle, drained.draining.sound, drained.draining.inRange⟩,
    drained.named, drained.met, ?_, drained.inside⟩
  rw [all]
  exact drained.whole

/-- The types of a filled namespace have different names. -/
theorem Filled.distinct {roots declared : List SchemaId}
    (filled : Filled source earlier roots declared run space after) :
    (space.definitions.map (·.name)).Nodup := by
  have apart := filled.settled.sound.apart
  rw [filled.settled.types, List.map_append] at apart
  have own := (List.nodup_append.1 apart).2.1
  have pairs : (references space).map (fun type => (type.space, type.name)) =
      (space.definitions.map (·.name)).map (Prod.mk space.fullName) := by
    simp [references, ModelDefinition.reference]
  rw [pairs] at own
  exact List.Nodup.of_map _ own

/-- A filled namespace may go into another phase. -/
theorem Filled.enter {roots declared : List SchemaId} {last : Run}
    (filled : Filled source earlier roots declared run space after)
    (idle : Declared source [] after last) (phase : Phase) :
    Filled source earlier roots declared run { space with phase } last := by
  have same : last.registry = after.registry := idle.registry
  have grew := idle.grew.kept
  refine ⟨?_, ⟨filled.named.fullName, ?_⟩, ?_, filled.whole, ?_⟩
  · rw [same]
    exact filled.settled
  · rw [same]
    exact filled.named.grounded
  · refine ⟨filled.met.types.trans grew, ?_, idle.checkpoint.trans filled.met.checkpoint⟩
    rw [same]
    exact filled.met.ids
  · rw [same]
    exact filled.inside

/-- **The namespace of model types.** It is built without a failure that stops, it is sealed, and the
entries of the table and the members of all that it defines are declared in this order. -/
theorem ends_build (closed : source.model.Closed) (settled : Settled source earlier run.registry) :
    Ends source run (build service) fun space after =>
      space.phase = .finalized ∧ space.fullName = service.child "Models" ∧
      Filled source earlier (source.model.table.map Prod.snd)
        (source.model.table.map Prod.snd ++ (schemas space).flatMap source.model.members) run space
        after := by
  refine (ends_begin rfl).bind ?_
  rintro _ opened ⟨rfl, first⟩
  refine (ends_setOwner _).bind ?_
  rintro _ owned ⟨owner, checkpoint⟩
  refine .read ((ends_visit closed closed.table).bind fun _ visited second => ?_)
  rw [show opened.registry = run.registry from first.registry] at owner
  have ready : Draining source earlier { fullName := service.child "Models", phase := .initializing }
      owned := settled.draining rfl rfl owner
  have met : Met source (source.model.table.map Prod.snd) run visited := by
    have idle : Met source [] run owned :=
      .idle settled.distinct (by rw [owner]; rfl) (checkpoint.trans first.checkpoint)
    exact idle.nil_trans (second.met ready.sound.distinct)
  refine (ends_drainAll closed (ready.declared second) ⟨by simp, by simp⟩).bind ?_
  rintro done drained ⟨defined, finished⟩
  refine (ends_finalize (by rw [finished.draining.phase]; simp)).mono ?_
  rintro _ last ⟨rfl, sealed⟩
  have all : schemas done = defined := by simpa [schemas] using finished.schemas
  have filled := ((finished.declared met).filled rfl).enter sealed .finalized
  rw [← all, List.append_nil] at filled
  exact ⟨rfl, finished.fullName, filled⟩

/-! ## The order of the types -/

/-- Whatever is met at the members of a reached type is reached. -/
theorem saturated_reached (source : Source) (roots : List SchemaId) :
    source.Saturated (source.resolver.Reached source.model roots) := by
  rintro id ⟨outer, visited, targets⟩ target mem
  obtain ⟨member, its, found⟩ := List.mem_filterMap.1 mem
  exact ⟨member, visited.member targets its, Resolver.target?_eq_some_iff.1 found⟩

theorem reached_of_root {roots : List SchemaId} {target : SchemaId}
    (mem : target ∈ source.targets roots) : source.resolver.Reached source.model roots target := by
  obtain ⟨root, its, found⟩ := List.mem_filterMap.1 mem
  exact ⟨root, .root its, Resolver.target?_eq_some_iff.1 found⟩

/-- The namespace defines the types that are reached from the table, each once, in the order in which
they are first seen, and this is the only such order. -/
structure ListsReached (source : Source) (space : Namespace ModelDefinition) (after : Run) : Prop where
  finalized : space.phase = .finalized
  idle : after.registry.pending = []
  types : references space = after.registry.types
  order : source.resolver.BreadthFirst source.model (source.model.table.map Prod.snd) (schemas space)
  only : ∀ order, source.resolver.BreadthFirst source.model (source.model.table.map Prod.snd) order →
    order = schemas space

/-- **Breadth first.** In a closed model the build of the model types ends, whatever the overrides are
and although types may lie on cycles, and its definitions are the reached types in breadth-first
order. -/
theorem build_listsReached {model : Model} (closed : model.Closed) (resolver : Resolver)
    (service : Service) (report : Report) :
    Ends ⟨model, resolver⟩ { report } (build service) (ListsReached ⟨model, resolver⟩) := by
  have start : Settled ⟨model, resolver⟩ [] ({ report } : Run).registry := .empty _ _
  refine (ends_build closed start).mono ?_
  rintro space after ⟨finalized, -, filled⟩
  have types : after.registry.types = references space := by simpa using filled.settled.types
  have ids : after.registry.ids = schemas space := by
    rw [Registry.ids, types, schema_references]
  have order : resolver.BreadthFirst model (model.table.map Prod.snd) (schemas space) := by
    have seen := filled.met.ids
    rw [ids] at seen
    have same : schemas space =
        (Resolver.metFrom resolver model (model.table.map Prod.snd) (schemas space)).eraseDups := seen
    refine ⟨ids ▸ filled.settled.distinct, fun id => ⟨?_, ?_⟩, ?_⟩
    · intro mem
      rw [← ids] at mem
      refine filled.inside _ (saturated_reached _ _) (by simp [Registry.ids]) ?_ id mem
      exact fun _ => reached_of_root
    · refine Resolver.reached_of_closed fun target mem => ?_
      rw [same]
      exact List.mem_eraseDups.2 mem
    · exact ⟨_, Resolver.meets_iff.2 rfl, same⟩
  exact ⟨finalized, filled.settled.idle, types.symm, order, fun other h => h.unique order⟩

theorem petStore_listsReached :
    petStore.Closed ∧ Ends ⟨petStore, ⟨[.switch]⟩⟩ { report := {} } (build ⟨"Pets", "PetStore"⟩)
      (ListsReached ⟨petStore, ⟨[.switch]⟩⟩) :=
  ⟨by decide, build_listsReached (by decide) _ _ _⟩

end CmdletForge.Models
