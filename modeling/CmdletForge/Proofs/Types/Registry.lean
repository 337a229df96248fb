import CmdletForge.Proofs.Naming.Characters
import CmdletForge.Proofs.Order.FirstSeen
import CmdletForge.Types.Registry

/-!
# The books of the registry

A registry keeps three books: the types, the names that they took in their namespaces, and the queue
of those that wait. `Sound` ties them together, and every call keeps it. What a user of a registry can
rely on follows for any sequence of calls, and is stated for the transcript of such a sequence: who
asked for what, and what the registry answered.
-/

namespace CmdletForge

/-- No separator stands in the name that a schema's type would like to have. -/
theorem Schema.not_mem_typeName {x : Char} (sep : Naming.Separator x) (schema : Schema) :
    x ∉ schema.typeName.toList := by
  have low := sep.below
  simp only [Schema.typeName]
  split
  · cases schema.name with
    | none => simp
    | some name => exact Naming.not_mem_toPascalCase sep.outside name
  · split
    · intro mem
      have letters : ∀ c ∈ "AnonymousType".toList, 0x41 ≤ c.toNat := by simp
      have bound := letters x mem
      omega
    · refine Naming.not_mem_pascalCase sep.outside fun word mem => ?_
      obtain ⟨segment, -, mem⟩ := List.mem_flatMap.1 mem
      exact Naming.not_mem_of_mem_words sep.outside mem

/-- A full name with a last part free of dots says what namespace and what name it joins. -/
theorem TypeRef.fullName_inj {type type' : TypeRef} (free : '.' ∉ type.name.toList)
    (free' : '.' ∉ type'.name.toList) (same : type.fullName = type'.fullName) :
    type.space = type'.space ∧ type.name = type'.name := by
  have chars : type.space.toList ++ '.' :: type.name.toList =
      type'.space.toList ++ '.' :: type'.name.toList := by
    simpa [TypeRef.fullName] using congrArg String.toList same
  obtain ⟨spaces, names⟩ := Naming.append_separator_inj free free' chars
  exact ⟨String.toList_inj.1 spaces, String.toList_inj.1 names⟩

namespace Registry

variable {registry : Registry} {handed : List SchemaId} {id : SchemaId} {schema : Schema}

/-- The schemas that are registered, in order of registration. -/
def ids (registry : Registry) : List SchemaId := registry.types.map (·.schema)

/-! ## Looking up -/

theorem lookup_spec {type : TypeRef} (found : registry.lookup id = some type) :
    type ∈ registry.types ∧ type.schema = id :=
  ⟨List.mem_of_find?_eq_some found, by simpa using List.find?_some found⟩

theorem lookup_eq_none : registry.lookup id = none ↔ id ∉ registry.ids := by
  simp [lookup, ids]

theorem lookup_of_mem (distinct : registry.ids.Nodup) {type : TypeRef}
    (mem : type ∈ registry.types) : registry.lookup type.schema = some type := by
  cases found : registry.lookup type.schema with
  | none => exact absurd (List.mem_map_of_mem mem) (lookup_eq_none.1 found)
  | some other =>
    obtain ⟨mem', same⟩ := lookup_spec found
    rw [List.inj_on_of_nodup_map distinct mem' mem same]

/-! ## Registering -/

/-- The registry with a new type at the end of both lists. -/
def extend (registry : Registry) (type : TypeRef) : Registry :=
  { registry with types := registry.types ++ [type], pending := registry.pending ++ [type.schema] }

/-- All that a registration does: it finds the type, or adds a new one. -/
theorem register_cases (registry : Registry) (id : SchemaId) (schema : Schema) :
    (∃ type, registry.lookup id = some type ∧ registry.register id schema = (type, registry)) ∨
      id ∉ registry.ids ∧ registry.register id schema =
        (registry.newType id schema, registry.extend (registry.newType id schema)) := by
  unfold register
  cases found : registry.lookup id with
  | some type => exact .inl ⟨type, rfl, rfl⟩
  | none => exact .inr ⟨lookup_eq_none.1 found, rfl⟩

theorem ids_extend (type : TypeRef) : (registry.extend type).ids = registry.ids ++ [type.schema] := by
  simp [ids, extend]

theorem ids_register : (registry.register id schema).2.ids =
    if id ∈ registry.ids then registry.ids else registry.ids ++ [id] := by
  rcases register_cases registry id schema with ⟨type, found, same⟩ | ⟨fresh, same⟩
  · obtain ⟨mem, rfl⟩ := lookup_spec found
    have known : type.schema ∈ registry.ids := List.mem_map_of_mem mem
    rw [same, if_pos known]
  · rw [same, if_neg fresh, ids_extend]
    rfl

/-- A type stays what it is when others are registered. -/
theorem lookup_register_of_lookup {other : SchemaId} {type : TypeRef}
    (found : registry.lookup other = some type) :
    (registry.register id schema).2.lookup other = some type := by
  rcases register_cases registry id schema with ⟨_, -, same⟩ | ⟨-, same⟩
  · rw [same, found]
  · rw [same, lookup, extend, List.find?_append]
    rw [lookup] at found
    simp [found]

theorem lookup_register : (registry.register id schema).2.lookup id =
    some (registry.register id schema).1 := by
  rcases register_cases registry id schema with ⟨type, found, same⟩ | ⟨fresh, same⟩
  · rw [same, found]
  · have absent := lookup_eq_none.2 fresh
    rw [lookup] at absent
    rw [same, lookup, extend, List.find?_append, absent]
    simp [newType]

/-! ## Handing out -/

theorem types_nextPending : registry.nextPending.2.types = registry.types := by
  unfold Registry.nextPending
  split <;> rfl

theorem owner_nextPending : registry.nextPending.2.owner = registry.owner := by
  unfold Registry.nextPending
  split <;> rfl

/-! ## The invariant -/

/-- The three books agree: every schema is registered once, the queue holds what was registered and
not handed out, in order, and names are kept apart in every namespace and are free of dots. -/
structure Sound (registry : Registry) (handed : List SchemaId) : Prop where
  distinct : registry.ids.Nodup
  queue : handed ++ registry.pending = registry.ids
  apart : (registry.types.map fun type => (type.space, type.name)).Nodup
  dotFree : ∀ type ∈ registry.types, '.' ∉ type.name.toList

theorem Sound.empty (owner : String) : Sound { owner } [] := by
  constructor <;> simp [ids]

theorem mem_namesIn {type : TypeRef} (mem : type ∈ registry.types) :
    type.name ∈ registry.namesIn type.space :=
  List.mem_map_of_mem (List.mem_filter.2 ⟨mem, by simp⟩)

theorem Sound.register (sound : Sound registry handed) (id : SchemaId) (schema : Schema) :
    Sound (registry.register id schema).2 handed := by
  rcases register_cases registry id schema with ⟨_, -, same⟩ | ⟨fresh, same⟩
  · rw [same]
    exact sound
  rw [same]
  have free := Naming.uniqueName_not_mem (registry.namesIn registry.owner) schema.typeName
  have plain : '.' ∉ (registry.newType id schema).name.toList :=
    Naming.not_mem_uniqueName Naming.separator_dot.outside (schema.not_mem_typeName Naming.separator_dot)
  constructor
  · rw [ids_extend]
    refine List.nodup_append.2 ⟨sound.distinct, by simp, ?_⟩
    rintro known mem _ new rfl
    obtain rfl := List.mem_singleton.1 new
    exact fresh mem
  · rw [ids_extend, ← sound.queue, List.append_assoc]
    rfl
  · simp only [extend, List.map_append, List.map_cons, List.map_nil]
    refine List.nodup_append.2 ⟨sound.apart, by simp, ?_⟩
    rintro place mem _ new rfl
    obtain ⟨type, known, rfl⟩ := List.mem_map.1 mem
    obtain ⟨space, name⟩ := Prod.mk.inj (List.mem_singleton.1 new)
    have taken := mem_namesIn known
    rw [space, name] at taken
    exact free taken
  · intro type mem
    rcases List.mem_append.1 mem with mem | mem
    · exact sound.dotFree type mem
    · obtain rfl := List.mem_singleton.1 mem
      exact plain

theorem Sound.setOwner (sound : Sound registry handed) (space : String) :
    Sound (registry.setOwner space) handed :=
  ⟨sound.distinct, sound.queue, sound.apart, sound.dotFree⟩

/-- Handing out moves the first of the queue to the end of what was handed out. -/
theorem Sound.nextPending (sound : Sound registry handed) :
    Sound registry.nextPending.2 (handed ++ registry.nextPending.1.toList) := by
  unfold Registry.nextPending
  cases waiting : registry.pending with
  | nil => simpa [waiting] using sound
  | cons first rest =>
    refine ⟨sound.distinct, ?_, sound.apart, sound.dotFree⟩
    have queue := sound.queue
    rw [waiting] at queue
    simpa [ids] using queue

/-- Types of different schemas differ in place and in full name. -/
theorem Sound.separate (sound : Sound registry handed) {type type' : TypeRef}
    (mem : type ∈ registry.types) (mem' : type' ∈ registry.types)
    (differ : type.schema ≠ type'.schema) :
    (type.space, type.name) ≠ (type'.space, type'.name) ∧ type.fullName ≠ type'.fullName := by
  have place : (type.space, type.name) ≠ (type'.space, type'.name) := by
    intro same
    exact differ (congrArg _ (List.inj_on_of_nodup_map sound.apart mem mem' same))
  refine ⟨place, fun same => place ?_⟩
  obtain ⟨space, name⟩ :=
    TypeRef.fullName_inj (sound.dotFree type mem) (sound.dotFree type' mem') same
  rw [space, name]

end Registry
end CmdletForge
