import CmdletForge.Proofs.Types.Registry

/-!
# What a registry answers over time

Any calls on a registry that starts empty, in any order: schemas are registered, again or for the
first time, namespaces become owners, left ones too, and waiting types are handed out. The transcript
is what was asked and answered. `Recorded` says what a transcript tells of the state of the registry;
one call keeps it, and so does a whole sequence.
-/

namespace CmdletForge

/-- A call on a registry. -/
inductive RegistryCall where
  | register (id : SchemaId)
  | setOwner (space : String)
  | nextPending
deriving DecidableEq

/-- The answer to a call. -/
inductive RegistryAnswer where
  | type (type : TypeRef)
  | owned
  | next (id : Option SchemaId)
deriving DecidableEq

namespace RegistryCall

/-- A call, with its answer and the registry after it. A schema that is registered must be there. -/
def perform (model : Model) (registry : Registry) : RegistryCall → Option (RegistryAnswer × Registry)
  | register id =>
    (model.schema? id).map fun schema =>
      let (type, after) := registry.register id schema
      (.type type, after)
  | setOwner space => some (.owned, registry.setOwner space)
  | nextPending =>
    let (id, after) := registry.nextPending
    some (.next id, after)

/-- Calls one after the other, with their transcript. -/
def performAll (model : Model) (registry : Registry) :
    List RegistryCall → Option (List (RegistryCall × RegistryAnswer) × Registry)
  | [] => some ([], registry)
  | call :: rest => do
    let (answer, after) ← call.perform model registry
    let (transcript, last) ← performAll model after rest
    return ((call, answer) :: transcript, last)

/-- The schemas that calls register, as often as they do. -/
def registered (calls : List RegistryCall) : List SchemaId :=
  calls.filterMap fun
    | register id => some id
    | _ => none

theorem registered_append (calls more : List RegistryCall) :
    registered (calls ++ more) = registered calls ++ registered more :=
  List.filterMap_append

end RegistryCall

namespace Registry

/-- A transcript of calls. -/
abbrev Transcript := List (RegistryCall × RegistryAnswer)

namespace Transcript

/-- The schemas that were registered, with the types that were answered. -/
def types (transcript : Transcript) : List (SchemaId × TypeRef) :=
  transcript.filterMap fun
    | (.register id, .type type) => some (id, type)
    | _ => none

/-- The schemas that were handed out. -/
def handedOut (transcript : Transcript) : List SchemaId :=
  transcript.filterMap fun
    | (_, .next id) => id
    | _ => none

theorem types_append (transcript more : Transcript) :
    types (transcript ++ more) = types transcript ++ types more :=
  List.filterMap_append

theorem handedOut_append (transcript more : Transcript) :
    handedOut (transcript ++ more) = handedOut transcript ++ handedOut more :=
  List.filterMap_append

end Transcript

variable {model : Model} {registry after : Registry} {transcript : Transcript}

/-- What a transcript tells of the registry: its books agree, it holds exactly what was registered, in
order, and it still has every answer. -/
structure Recorded (transcript : Transcript) (registry : Registry) : Prop where
  sound : Sound registry transcript.handedOut
  ids : registry.ids = (transcript.types.map Prod.fst).eraseDups
  known : ∀ entry ∈ transcript.types, registry.lookup entry.1 = some entry.2

theorem Recorded.empty (owner : String) : Recorded [] { owner } :=
  ⟨Sound.empty owner, rfl, by simp [Transcript.types]⟩

theorem Recorded.register (h : Recorded transcript registry) (id : SchemaId) (schema : Schema) :
    Recorded (transcript ++ [(.register id, .type (registry.register id schema).1)])
      (registry.register id schema).2 := by
  constructor
  · rw [Transcript.handedOut_append]
    simpa [Transcript.handedOut] using h.sound.register id schema
  · have seen : id ∈ registry.ids ↔ id ∈ transcript.types.map Prod.fst := by
      rw [h.ids, List.mem_eraseDups]
    have last : ((Transcript.types [(.register id, .type (registry.register id schema).1)]).map
        Prod.fst) = [id] := rfl
    rw [Transcript.types_append, List.map_append, last, eraseDups_concat, ids_register, ← h.ids]
    simp only [seen]
  · intro entry mem
    rw [Transcript.types_append] at mem
    rcases List.mem_append.1 mem with mem | mem
    · exact lookup_register_of_lookup (h.known entry mem)
    · obtain rfl : entry = (id, (registry.register id schema).1) := List.mem_singleton.1 mem
      exact lookup_register

/-- A call that answers no type and leaves the types alone only has to keep the queue. -/
theorem Recorded.of_types_eq (h : Recorded transcript registry) {call : RegistryCall}
    {answer : RegistryAnswer} (same : after.types = registry.types)
    (silent : Transcript.types [(call, answer)] = [])
    (sound : Sound after (transcript.handedOut ++ Transcript.handedOut [(call, answer)])) :
    Recorded (transcript ++ [(call, answer)]) after := by
  have types : Transcript.types (transcript ++ [(call, answer)]) = transcript.types := by
    rw [Transcript.types_append, silent, List.append_nil]
  constructor
  · rw [Transcript.handedOut_append]
    exact sound
  · rw [types, ← h.ids, Registry.ids, same]
    rfl
  · rw [types]
    intro entry mem
    rw [← h.known entry mem, lookup, same]
    rfl

/-- One call keeps what the transcript tells. -/
theorem Recorded.perform (h : Recorded transcript registry) {call : RegistryCall}
    {answer : RegistryAnswer} (performed : call.perform model registry = some (answer, after)) :
    Recorded (transcript ++ [(call, answer)]) after := by
  cases call with
  | register id =>
    obtain ⟨schema, -, same⟩ := Option.map_eq_some_iff.1 performed
    obtain ⟨rfl, rfl⟩ := Prod.mk.inj same
    exact h.register id schema
  | setOwner space =>
    obtain ⟨rfl, rfl⟩ := Prod.mk.inj (Option.some.inj performed)
    exact h.of_types_eq rfl rfl (by simpa [Transcript.handedOut] using h.sound.setOwner space)
  | nextPending =>
    obtain ⟨rfl, rfl⟩ := Prod.mk.inj (Option.some.inj performed)
    have out : Transcript.handedOut [(.nextPending, .next registry.nextPending.1)] =
        registry.nextPending.1.toList := by
      cases registry.nextPending.1 <;> rfl
    exact h.of_types_eq types_nextPending rfl (out ▸ h.sound.nextPending)

/-- Calls that register schemas of the model are all answered, each registration by a type, and keep
what the transcript tells. -/
theorem Recorded.performAll (h : Recorded transcript registry) (calls : List RegistryCall)
    (inRange : ∀ id ∈ RegistryCall.registered calls, id < model.size) :
    ∃ more after, RegistryCall.performAll model registry calls = some (more, after) ∧
      more.map Prod.fst = calls ∧
      (Transcript.types more).map Prod.fst = RegistryCall.registered calls ∧
      Recorded (transcript ++ more) after := by
  induction calls generalizing transcript registry with
  | nil => exact ⟨[], registry, rfl, rfl, rfl, by simpa using h⟩
  | cons call rest ih =>
    have later : ∀ id ∈ RegistryCall.registered rest, id < model.size := by
      intro id mem
      refine inRange id ?_
      rw [← List.singleton_append, RegistryCall.registered_append]
      exact List.mem_append_right _ mem
    obtain ⟨answer, next, performed, first⟩ : ∃ answer next,
        call.perform model registry = some (answer, next) ∧
          (Transcript.types [(call, answer)]).map Prod.fst = RegistryCall.registered [call] := by
      cases call with
      | register id =>
        have bound : id < model.size := inRange id (by simp [RegistryCall.registered])
        obtain ⟨schema, found⟩ : ∃ schema, model.schema? id = some schema :=
          ⟨_, List.getElem?_eq_getElem bound⟩
        exact ⟨_, _, by simp [RegistryCall.perform, found]; exact ⟨rfl, rfl⟩, rfl⟩
      | setOwner space => exact ⟨_, _, rfl, rfl⟩
      | nextPending => exact ⟨_, _, rfl, rfl⟩
    obtain ⟨more, after, run, asked, types, recorded⟩ := ih (h.perform performed) later
    refine ⟨(call, answer) :: more, after, ?_, by simp [asked], ?_, by simpa using recorded⟩
    · simp [RegistryCall.performAll, performed, run]
    · have joined := Transcript.types_append [(call, answer)] more
      rw [List.singleton_append] at joined
      rw [joined, List.map_append, first, types]
      exact (RegistryCall.registered_append [call] rest).symm

/-- What a registry guarantees for the calls that were made on it. -/
structure Guarantees (calls : List RegistryCall) (transcript : Transcript) (registry : Registry) :
    Prop where
  answered : transcript.map Prod.fst = calls
  typed : transcript.types.map Prod.fst = RegistryCall.registered calls
  /-- A schema has one type, whatever namespace was the owner. -/
  same : ∀ id type type', (id, type) ∈ transcript.types → (id, type') ∈ transcript.types →
    type = type'
  /-- Two schemas never have the same place or the same full name. -/
  apart : ∀ id id' type type', (id, type) ∈ transcript.types → (id', type') ∈ transcript.types →
    id ≠ id' → (type.space, type.name) ≠ (type'.space, type'.name) ∧ type.fullName ≠ type'.fullName
  /-- What was handed out and what still waits is what was registered, each schema once, in order. -/
  queue : transcript.handedOut ++ registry.pending = (RegistryCall.registered calls).eraseDups
  size : registry.size = (RegistryCall.registered calls).toFinset.card

/-- **The registry over time.** Any calls on an empty registry that register schemas of the model are
answered, and the registry keeps its guarantees. -/
theorem guarantees_of_calls (model : Model) (owner : String) (calls : List RegistryCall)
    (inRange : ∀ id ∈ RegistryCall.registered calls, id < model.size) :
    ∃ transcript registry,
      RegistryCall.performAll model { owner } calls = some (transcript, registry) ∧
      Guarantees calls transcript registry := by
  obtain ⟨transcript, registry, run, asked, types, recorded⟩ :=
    (Recorded.empty owner).performAll calls inRange
  rw [List.nil_append] at recorded
  have ids := recorded.ids
  rw [types] at ids
  refine ⟨transcript, registry, run, asked, types, ?_, ?_, ?_, ?_⟩
  · intro id type type' mem mem'
    have known := recorded.known _ mem
    rw [recorded.known _ mem'] at known
    exact (Option.some.inj known).symm
  · intro id id' type type' mem mem' differ
    obtain ⟨found, schema⟩ := lookup_spec (recorded.known (id, type) mem)
    obtain ⟨found', schema'⟩ := lookup_spec (recorded.known (id', type') mem')
    exact recorded.sound.separate found found' (by rwa [schema, schema'])
  · rw [recorded.sound.queue, ids]
  · rw [← length_eraseDups, ← ids]
    simp [size, Registry.ids]

/-- Two schemas that are alike, registered under two owners: the second is numbered, and neither
moves. -/
theorem guarantees_of_twins :
    let widget : Schema := { kind := .object, path := "/schemas/Widget", name := some "widget" }
    let calls : List RegistryCall :=
      [.register 0, .register 1, .nextPending, .setOwner "Api.Cmdlets.Models", .register 0,
        .nextPending, .nextPending]
    (∀ id ∈ RegistryCall.registered calls, id < ({ schemas := [widget, widget] } : Model).size) ∧
      ∃ transcript registry,
        RegistryCall.performAll { schemas := [widget, widget] } { owner := "Api.Models" } calls =
          some (transcript, registry) ∧
        Guarantees calls transcript registry :=
  ⟨by decide, guarantees_of_calls _ _ _ (by decide)⟩

end Registry
end CmdletForge
