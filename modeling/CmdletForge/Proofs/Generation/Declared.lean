import CmdletForge.Generation.Synthesis
import CmdletForge.Proofs.Generation.Checkpoint
import CmdletForge.Proofs.Types.Resolution

/-!
# What declaring does to a generation

All that a generation does while it looks at schemas is to declare them, one after the other. `Declared`
names the schemas between two states. What is known of the later state follows from this list: types are
only added, under the owner and at the end, and they are the types that the schemas lead to, in order
of first occurrence; and the failures of the schemas are recorded.
-/

namespace CmdletForge

/-! ## The registry -/

namespace Registry

variable {model : Model} {resolver : Resolver} {before middle after : Registry}

/-- Between two states of the registry types of the model were added, all under the same owner. Books
that agreed still agree. -/
structure Grew (model : Model) (before after : Registry) : Prop where
  owner : after.owner = before.owner
  fresh : ∃ fresh, after.types = before.types ++ fresh ∧
    ∀ type ∈ fresh, type.space = before.owner ∧ type.schema < model.size
  sound : ∀ handed, Sound before handed → Sound after handed

theorem Grew.refl (model : Model) (registry : Registry) : Grew model registry registry :=
  ⟨rfl, ⟨[], by simp, by simp⟩, fun _ sound => sound⟩

theorem Grew.trans (first : Grew model before middle) (second : Grew model middle after) :
    Grew model before after := by
  obtain ⟨fresh, types, owned⟩ := first.fresh
  obtain ⟨more, types', owned'⟩ := second.fresh
  refine ⟨second.owner.trans first.owner, ⟨fresh ++ more, ?_, ?_⟩, ?_⟩
  · rw [types', types, List.append_assoc]
  · intro type mem
    rcases List.mem_append.1 mem with mem | mem
    · exact owned type mem
    · exact first.owner ▸ owned' type mem
  · exact fun handed sound => second.sound handed (first.sound handed sound)

theorem Grew.kept (grew : Grew model before after) : before.types <+: after.types := by
  obtain ⟨fresh, types, -⟩ := grew.fresh
  exact ⟨fresh, types.symm⟩

theorem Grew.enroll (registry : Registry) (id : SchemaId) :
    Grew model registry (registry.enroll (resolver.type? model id)) := by
  cases found : resolver.type? model id with
  | none => exact .refl model registry
  | some core =>
    refine ⟨?_, ?_, fun handed sound => sound.register core.id core.schema⟩
    · rcases registry.register_cases core.id core.schema with ⟨_, -, same⟩ | ⟨-, same⟩ <;>
        simp only [Registry.enroll, same, extend]
    · rcases registry.register_cases core.id core.schema with ⟨_, -, same⟩ | ⟨-, same⟩
      · exact ⟨[], by simp only [Registry.enroll, same, List.append_nil], by simp⟩
      · refine ⟨[registry.newType core.id core.schema], by simp only [Registry.enroll, same, extend], ?_⟩
        intro type mem
        obtain rfl := List.mem_singleton.1 mem
        exact ⟨rfl, Model.lt_size_of_schema? (Resolver.schema?_of_type? found)⟩

theorem ids_enroll (resolver : Resolver) (model : Model) (distinct : before.ids.Nodup)
    (id : SchemaId) :
    (before.enroll (resolver.type? model id)).ids =
      (before.ids ++ (resolver.target? model id).toList).eraseDups := by
  cases found : resolver.type? model id with
  | none => simp [Registry.enroll, Resolver.target?, found, eraseDups_eq_self distinct]
  | some core =>
    simp only [Registry.enroll, Resolver.target?, found, Option.map_some, Option.toList_some]
    rw [ids_register, eraseDups_concat, eraseDups_eq_self distinct]

end Registry

namespace Source

/-- The registry after schemas were declared. -/
def enrollAll (source : Source) (registry : Registry) (ids : List SchemaId) : Registry :=
  ids.foldl (fun registry id => registry.enroll (source.resolver.type? source.model id)) registry

/-- The failures met on declaring schemas. -/
def failures (source : Source) (ids : List SchemaId) : List Failure :=
  ids.filterMap (source.resolver.failure? source.model)

/-- The schemas whose types are met on declaring schemas. -/
def targets (source : Source) (ids : List SchemaId) : List SchemaId :=
  ids.filterMap (source.resolver.target? source.model)

/-- A property of types that all types that are met at the members of one inherit. -/
def Saturated (source : Source) (good : SchemaId → Prop) : Prop :=
  ∀ id, good id → ∀ target ∈ source.targets (source.model.members id), good target

variable (source : Source) (registry : Registry) (ids more : List SchemaId)

theorem enrollAll_append : source.enrollAll registry (ids ++ more) =
    source.enrollAll (source.enrollAll registry ids) more :=
  List.foldl_append

theorem failures_append : source.failures (ids ++ more) = source.failures ids ++ source.failures more :=
  List.filterMap_append

theorem targets_append : source.targets (ids ++ more) = source.targets ids ++ source.targets more :=
  List.filterMap_append

theorem grew_enrollAll : Registry.Grew source.model registry (source.enrollAll registry ids) := by
  induction ids generalizing registry with
  | nil => exact .refl source.model registry
  | cons id rest ih => exact (Registry.Grew.enroll registry id).trans (ih _)

theorem ids_enrollAll (distinct : registry.ids.Nodup) :
    (source.enrollAll registry ids).ids = (registry.ids ++ source.targets ids).eraseDups := by
  induction ids generalizing registry with
  | nil => simp [enrollAll, targets, eraseDups_eq_self distinct]
  | cons id rest ih =>
    have first := Registry.ids_enroll source.resolver source.model distinct id
    have distinct' : (registry.enroll (source.resolver.type? source.model id)).ids.Nodup := by
      rw [first]
      exact nodup_eraseDups _
    rw [show source.enrollAll registry (id :: rest) = source.enrollAll
        (registry.enroll (source.resolver.type? source.model id)) rest from rfl,
      ih _ distinct', first, eraseDups_append_eraseDups, List.append_assoc]
    congr 2
    rw [← List.singleton_append, targets_append]
    cases found : source.resolver.target? source.model id <;> simp [targets, found]

end Source

/-! ## The state -/

/-- From one state to another, schemas were declared in this order, and nothing else was done. -/
structure Declared (source : Source) (ids : List SchemaId) (before after : Run) : Prop where
  registry : after.registry = source.enrollAll before.registry ids
  checkpoint : after.report.checkpoint = before.report.checkpoint.recordAll (source.failures ids)

/-- From one state to another, schemas were declared in this order, and among other things that
registered no type and recorded no failure. -/
structure Met (source : Source) (declared : List SchemaId) (before after : Run) : Prop where
  types : before.registry.types <+: after.registry.types
  ids : after.registry.ids = (before.registry.ids ++ source.targets declared).eraseDups
  checkpoint : after.report.checkpoint = before.report.checkpoint.recordAll (source.failures declared)

variable {source : Source} {ids more : List SchemaId} {before middle after : Run}

theorem Declared.refl (run : Run) : Declared source [] run run := ⟨rfl, rfl⟩

theorem Declared.trans (first : Declared source ids before middle)
    (second : Declared source more middle after) : Declared source (ids ++ more) before after := by
  constructor
  · rw [second.registry, first.registry, source.enrollAll_append]
  · rw [second.checkpoint, first.checkpoint, source.failures_append, Checkpoint.recordAll_append]

/-- Steps that declare nothing before or after do not count. -/
theorem Declared.nil_trans (first : Declared source [] before middle)
    (second : Declared source ids middle after) : Declared source ids before after := by
  simpa using first.trans second

theorem Declared.trans_nil (first : Declared source ids before middle)
    (second : Declared source [] middle after) : Declared source ids before after := by
  simpa using first.trans second

theorem Declared.grew (declared : Declared source ids before after) :
    Registry.Grew source.model before.registry after.registry := by
  rw [declared.registry]
  exact source.grew_enrollAll before.registry ids

theorem Declared.met (declared : Declared source ids before after)
    (distinct : before.registry.ids.Nodup) : Met source ids before after := by
  refine ⟨declared.grew.kept, ?_, declared.checkpoint⟩
  rw [declared.registry, source.ids_enrollAll before.registry ids distinct]

/-- Steps that leave the types and the checkpoint alone do not count. -/
theorem Met.idle (distinct : before.registry.ids.Nodup)
    (types : after.registry.types = before.registry.types)
    (checkpoint : after.report.checkpoint = before.report.checkpoint) :
    Met source [] before after := by
  have ids : after.registry.ids = before.registry.ids := by rw [Registry.ids, types, Registry.ids]
  refine ⟨by rw [types], ?_, checkpoint⟩
  rw [ids]
  simpa [Source.targets] using (eraseDups_eq_self distinct).symm

theorem Met.trans (first : Met source ids before middle) (second : Met source more middle after) :
    Met source (ids ++ more) before after := by
  refine ⟨first.types.trans second.types, ?_, ?_⟩
  · rw [second.ids, first.ids, eraseDups_append_eraseDups, source.targets_append, List.append_assoc]
  · rw [second.checkpoint, first.checkpoint, source.failures_append, Checkpoint.recordAll_append]

/-- What holds of the types that are registered and of those that are met holds of all. -/
theorem Met.inside (met : Met source ids before after) {good : SchemaId → Prop}
    (start : ∀ id ∈ before.registry.ids, good id) (targets : ∀ id ∈ source.targets ids, good id) :
    ∀ id ∈ after.registry.ids, good id := by
  intro id mem
  rw [met.ids, List.mem_eraseDups] at mem
  rcases List.mem_append.1 mem with mem | mem
  · exact start id mem
  · exact targets id mem

theorem Met.nil_trans (first : Met source [] before middle) (second : Met source ids middle after) :
    Met source ids before after := by
  simpa using first.trans second

end CmdletForge
