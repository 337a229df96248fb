import CmdletForge.Proofs.Namespace.Basic
import CmdletForge.Proofs.Namespace.Definitions

/-!
# Draining the queue

The registered types are those that were defined before, those that the namespace defines, and those
that wait, in this order; the waiting ones belong to the namespace. `Draining` says so, and every step
of the drain keeps it: the first waiting type is defined, and what its definition meets for the first
time waits behind the others. Types are of different schemas of the model, so a drain that may take more
steps than there are schemas ends with nothing waiting.
-/

namespace CmdletForge.Models

open Synthesis

variable {source : Source} {run after : Run} {earlier : List TypeRef}
  {space : Namespace ModelDefinition}

/-- The types that a namespace defines. -/
def references (space : Namespace ModelDefinition) : List TypeRef :=
  space.definitions.map (ModelDefinition.reference space.fullName)

/-- The schemas of the types that a namespace defines. -/
def schemas (space : Namespace ModelDefinition) : List SchemaId :=
  space.definitions.map (·.schema)

theorem schema_references : (references space).map (·.schema) = schemas space := by
  rw [references, List.map_map]
  rfl

theorem references_extend {definition : ModelDefinition} {type : TypeRef}
    (defines : definition.Defines type) (own : type.space = space.fullName) :
    references (space.extend definition) = references space ++ [type] := by
  obtain ⟨name, -, schema⟩ := defines
  simp [references, Namespace.extend, ModelDefinition.reference, name, schema, ← own]

/-- The definitions of a namespace bear the full names of their types, and what they declare is
registered if it is generated. -/
structure Named (source : Source) (registry : Registry) (space : Namespace ModelDefinition) :
    Prop where
  fullName : ∀ definition ∈ space.definitions,
    definition.fullName = space.fullName ++ "." ++ definition.name
  grounded : source.resolver.Foreign → ∀ definition ∈ space.definitions,
    ∀ declaration ∈ definition.declarations, declaration.Grounded registry

theorem Named.mono {before after : Registry} (named : Named source before space)
    (kept : before.types <+: after.types) : Named source after space :=
  ⟨named.fullName, fun foreign definition mem declaration its =>
    (named.grounded foreign definition mem declaration its).mono kept⟩

theorem Named.extend {before after : Registry} (named : Named source before space)
    (kept : before.types <+: after.types) {definition : ModelDefinition} {type : TypeRef}
    (defines : definition.Defines type) (own : type.space = space.fullName)
    (grounded : source.resolver.Foreign → ∀ declaration ∈ definition.declarations,
      declaration.Grounded after) : Named source after (space.extend definition) := by
  constructor
  · intro other mem
    rcases List.mem_append.1 mem with mem | mem
    · exact named.fullName other mem
    · obtain rfl := List.mem_singleton.1 mem
      rw [defines.fullName, TypeRef.fullName, own, defines.name]
      rfl
  · intro foreign other mem declaration its
    rcases List.mem_append.1 mem with mem | mem
    · exact (named.grounded foreign other mem declaration its).mono kept
    · obtain rfl := List.mem_singleton.1 mem
      exact grounded foreign declaration its

/-- The state of a drain. -/
structure Draining (source : Source) (earlier : List TypeRef) (space : Namespace ModelDefinition)
    (run : Run) : Prop where
  phase : space.phase = .initializing
  owner : run.registry.owner = space.fullName
  sound : run.registry.Sound ((earlier ++ references space).map (·.schema))
  waiting : ∃ waiting, run.registry.types = earlier ++ references space ++ waiting ∧
    ∀ type ∈ waiting, type.space = space.fullName
  inRange : ∀ type ∈ run.registry.types, type.schema < source.model.size

/-- Types that are added keep the state of a drain. -/
theorem Draining.grew (h : Draining source earlier space run)
    (grew : Registry.Grew source.model run.registry after.registry) :
    Draining source earlier space after := by
  obtain ⟨fresh, types, owned⟩ := grew.fresh
  obtain ⟨waiting, known, own⟩ := h.waiting
  refine ⟨h.phase, grew.owner.trans h.owner, grew.sound _ h.sound, ⟨waiting ++ fresh, ?_, ?_⟩, ?_⟩
  · rw [types, known, List.append_assoc]
  · intro type mem
    rcases List.mem_append.1 mem with mem | mem
    · exact own type mem
    · exact (owned type mem).1.trans h.owner
  · intro type mem
    rw [types] at mem
    rcases List.mem_append.1 mem with mem | mem
    · exact h.inRange type mem
    · exact (owned type mem).2

/-- Declaring keeps the state of a drain. -/
theorem Draining.declared (h : Draining source earlier space run) {ids : List SchemaId}
    (declared : Declared source ids run after) : Draining source earlier space after :=
  h.grew declared.grew

/-- No more types are defined than there are schemas. -/
theorem Draining.length_le (h : Draining source earlier space run) :
    (earlier ++ references space).length ≤ source.model.size := by
  obtain ⟨waiting, types, -⟩ := h.waiting
  have bound : run.registry.ids.length ≤ source.model.size := by
    refine Model.length_le_size h.sound.distinct fun id mem => ?_
    obtain ⟨type, known, rfl⟩ := List.mem_map.1 mem
    exact h.inRange type known
  rw [Registry.ids, List.length_map, types, List.length_append] at bound
  omega

/-- The type is the first in the queue of a drain. -/
structure First (earlier : List TypeRef) (space : Namespace ModelDefinition) (registry : Registry)
    (type : TypeRef) : Prop where
  handedOut : registry.nextPending.1 = some type.schema
  found : registry.lookup type.schema = some type
  own : type.space = space.fullName
  others : ∃ waiting, registry.types = earlier ++ references space ++ type :: waiting ∧
    ∀ type ∈ waiting, type.space = space.fullName

/-- Either nothing waits, and all types are defined, or there is a first in the queue. -/
theorem Draining.next (h : Draining source earlier space run) :
    run.registry.pending = [] ∧ run.registry.types = earlier ++ references space ∨
      ∃ type, First earlier space run.registry type := by
  obtain ⟨waiting, types, own⟩ := h.waiting
  have queue : run.registry.pending = waiting.map (·.schema) := by
    refine List.append_cancel_left (h.sound.queue.trans ?_)
    rw [Registry.ids, types, List.map_append]
  cases waiting with
  | nil => exact .inl ⟨by simpa using queue, by simpa using types⟩
  | cons type waiting =>
    have registered : type ∈ run.registry.types := by simp [types]
    refine .inr ⟨type, ?_, Registry.lookup_of_mem h.sound.distinct registered, own type (by simp),
      waiting, types, fun type mem => own type (by simp [mem])⟩
    simp [Registry.nextPending, queue]

/-- Where nothing waits any more, all registered types are defined. -/
theorem Draining.types_of_idle (h : Draining source earlier space run)
    (idle : run.registry.pending = []) : run.registry.types = earlier ++ references space := by
  rcases h.next with ⟨-, types⟩ | ⟨type, first⟩
  · exact types
  · have waits := first.handedOut
    simp [Registry.nextPending, idle] at waits

/-- The name of the first in the queue is free. -/
theorem Draining.free (h : Draining source earlier space run) {type : TypeRef}
    (first : First earlier space run.registry type) : type.name ∉ space.names := by
  obtain ⟨waiting, types, -⟩ := first.others
  have apart := h.sound.apart
  rw [types, List.map_append] at apart
  have other := (List.nodup_append.1 apart).2.2
  intro taken
  obtain ⟨definition, mem, same⟩ := List.mem_map.1 taken
  have placed : definition.reference space.fullName ∈ earlier ++ references space :=
    List.mem_append_right _ (List.mem_map_of_mem mem)
  refine other _ (List.mem_map_of_mem placed) (type.space, type.name) (by simp) ?_
  rw [← first.own, ← same]
  rfl

/-- The first in the queue may be handed out and defined. -/
theorem Draining.place (h : Draining source earlier space run) {type : TypeRef}
    (first : First earlier space run.registry type) {definition : ModelDefinition}
    (defines : definition.Defines type) (same : after.registry = run.registry.nextPending.2) :
    Draining source earlier (space.extend definition) after := by
  obtain ⟨waiting, types, owned⟩ := first.others
  have grown := references_extend defines first.own
  have kept : after.registry.types = run.registry.types := by rw [same, Registry.types_nextPending]
  refine ⟨h.phase, ?_, ?_, ⟨waiting, ?_, owned⟩, ?_⟩
  · rw [same, Registry.owner_nextPending, h.owner]
    rfl
  · have sound := h.sound.nextPending
    rw [first.handedOut] at sound
    rw [same, grown, ← List.append_assoc, List.map_append]
    exact sound
  · rw [kept, types, grown]
    simp
  · rw [kept]
    exact h.inRange

/-- What roots bring when they are declared and the queue is drained: the namespace has got the
definitions of these schemas, nothing waits, and what was declared are the roots and the members of the
new definitions. -/
structure Drained (source : Source) (earlier : List TypeRef) (roots : List SchemaId)
    (space : Namespace ModelDefinition) (run : Run) (done : Namespace ModelDefinition) (after : Run)
    (defined declared : List SchemaId) : Prop where
  draining : Draining source earlier done after
  idle : after.registry.pending = []
  types : after.registry.types = earlier ++ references done
  named : Named source after.registry done
  fullName : done.fullName = space.fullName
  schemas : schemas done = schemas space ++ defined
  met : Met source declared run after
  whole : declared.Perm (roots ++ defined.flatMap source.model.members)
  inside : ∀ good, source.Saturated good → (∀ id ∈ run.registry.ids, good id) →
    (∀ id ∈ source.targets roots, good id) → ∀ id ∈ after.registry.ids, good id

/-- Nothing is brought where nothing waits. -/
theorem Drained.refl (h : Draining source earlier space run) (idle : run.registry.pending = [])
    (named : Named source run.registry space) :
    Drained source earlier [] space run space run [] [] := by
  exact ⟨h, idle, h.types_of_idle idle, named, rfl, by simp, .idle h.sound.distinct rfl rfl, .refl _,
    fun _ _ start _ => start⟩

theorem Drained.trans {roots roots' defined defined' declared declared' : List SchemaId}
    {middle : Run} {half done : Namespace ModelDefinition}
    (first : Drained source earlier roots space run half middle defined declared)
    (second : Drained source earlier roots' half middle done after defined' declared') :
    Drained source earlier (roots ++ roots') space run done after (defined ++ defined')
      (declared ++ declared') := by
  refine ⟨second.draining, second.idle, second.types, second.named,
    second.fullName.trans first.fullName, ?_, first.met.trans second.met, ?_, ?_⟩
  · rw [second.schemas, first.schemas, List.append_assoc]
  · refine (first.whole.append second.whole).trans ?_
    rw [List.flatMap_append]
    simp only [List.append_assoc]
    refine List.Perm.append_left roots ?_
    rw [← List.append_assoc, ← List.append_assoc]
    exact List.perm_append_comm.append_right _
  · intro good saturated start targets
    rw [source.targets_append] at targets
    have middle := first.inside good saturated start fun id mem =>
      targets id (List.mem_append_left _ mem)
    exact second.inside good saturated middle fun id mem => targets id (List.mem_append_right _ mem)

/-- More roots may be declared before. -/
theorem Drained.declared {roots first defined declared : List SchemaId} {middle : Run}
    {done : Namespace ModelDefinition} (met : Met source first run middle)
    (drained : Drained source earlier roots space middle done after defined declared) :
    Drained source earlier (first ++ roots) space run done after defined (first ++ declared) := by
  refine ⟨drained.draining, drained.idle, drained.types, drained.named, drained.fullName,
    drained.schemas, met.trans drained.met, ?_, ?_⟩
  · rw [List.append_assoc]
    exact drained.whole.append_left first
  · intro good saturated start targets
    rw [source.targets_append] at targets
    have begun := met.inside start fun id mem => targets id (List.mem_append_left _ mem)
    exact drained.inside good saturated begun fun id mem => targets id (List.mem_append_right _ mem)

/-- **The drain.** It ends, and nothing waits any more. -/
theorem ends_drain (closed : source.model.Closed) {steps : Nat}
    (h : Draining source earlier space run) (named : Named source run.registry space)
    (enough : source.model.size < steps + (earlier ++ references space).length) :
    Ends source run (drain steps space) fun done after => ∃ defined,
      Drained source earlier [] space run done after defined
        (defined.flatMap source.model.members) := by
  induction steps generalizing space run with
  | zero =>
    have most := h.length_le
    omega
  | succ steps ih =>
    refine ends_nextPending.bind ?_
    rintro _ handed ⟨rfl, rfl⟩
    rcases h.next with ⟨idle, -⟩ | ⟨type, first⟩
    · have none : run.registry.nextPending = (none, run.registry) := by
        simp [Registry.nextPending, idle]
      rw [none]
      exact .pure ⟨[], .refl h idle named⟩
    · rw [first.handedOut]
      have bound : type.schema < source.model.size := by
        obtain ⟨waiting, types, -⟩ := first.others
        exact h.inRange type (by simp [types])
      obtain ⟨schema, found⟩ := Model.exists_schema bound
      have known : run.registry.nextPending.2.lookup type.schema = some type := by
        rw [← first.found, Registry.lookup, Registry.types_nextPending]
        rfl
      refine .get ?_
      simp only [known]
      refine .schema found ((ends_note _).bind fun _ noted start => ?_)
      refine (ends_define closed found).bind ?_
      rintro definition middle ⟨members, defines, grounded⟩
      have declared := start.nil_trans members
      have placed := (h.place first defines rfl).declared declared
      have free := h.free first
      rw [← defines.name] at free
      refine .orFail (Namespace.insert_of_fresh h.phase free) ?_
      · have same : run.registry.nextPending.2.types = run.registry.types :=
          Registry.types_nextPending
        have kept := declared.grew.kept
        rw [same] at kept
        have idle : Met source [] run { run with registry := run.registry.nextPending.2 } :=
          .idle h.sound.distinct same rfl
        have met : Met source schema.members run middle := by
          refine idle.nil_trans (declared.met ?_)
          rw [Registry.ids, same]
          exact h.sound.distinct
        refine (ih placed (named.extend kept defines first.own grounded) ?_).mono ?_
        · rw [references_extend defines first.own, ← List.append_assoc, List.length_append,
            List.length_singleton]
          omega
        · rintro done after ⟨defined, drained⟩
          refine ⟨type.schema :: defined, drained.draining, drained.idle, drained.types,
            drained.named, drained.fullName, ?_, ?_, .refl _, ?_⟩
          · rw [drained.schemas]
            simp [schemas, Namespace.extend, defines.schema]
          · rw [List.flatMap_cons, Model.members_eq found]
            exact met.trans drained.met
          · intro good saturated start none
            have here : type.schema ∈ run.registry.ids :=
              List.mem_map_of_mem (Registry.lookup_spec first.found).1
            have members := saturated type.schema (start type.schema here)
            rw [Model.members_eq found] at members
            exact drained.inside good saturated (met.inside start members) none

theorem ends_drainAll (closed : source.model.Closed) (h : Draining source earlier space run)
    (named : Named source run.registry space) :
    Ends source run (drainAll space) fun done after => ∃ defined,
      Drained source earlier [] space run done after defined
        (defined.flatMap source.model.members) :=
  .read (ends_drain closed h named (by omega))

end CmdletForge.Models
