import CmdletForge.Proofs.Generation.Yields
import CmdletForge.Proofs.Types.Extension

/-!
# New types

All that a generation does to the types is to register new ones. Each is made for a schema of the model, in
the state that the registry has at that time: under its owner, and by the name that the schema would like to
have, kept apart from others. `Adds` says this of two states of the registry and `Registers` of a step, and a
sequence of steps registers if each of them does.
-/

namespace CmdletForge

/-- A type that was made for a schema of the model. -/
def TypeRef.Made (model : Model) (type : TypeRef) : Prop :=
  ∃ (registry : Registry) (schema : Schema), model.schema? type.schema = some schema ∧
    type = registry.newType type.schema schema

namespace Registry

variable {model : Model} {before middle after : Registry}

/-- The types that are new in a later state were made for schemas of the model. -/
def Adds (model : Model) (before after : Registry) : Prop :=
  ∀ type ∈ after.types, type ∈ before.types ∨ type.Made model

theorem Adds.of_types (same : after.types = before.types) : Adds model before after :=
  fun _ mem => .inl (same ▸ mem)

theorem Adds.trans (first : Adds model before middle) (second : Adds model middle after) :
    Adds model before after := by
  intro type mem
  rcases second type mem with mem | made
  · exact first type mem
  · exact .inr made

theorem Adds.register (registry : Registry) {id : SchemaId} {schema : Schema}
    (found : model.schema? id = some schema) : Adds model registry (registry.register id schema).2 := by
  rcases registry.register_cases id schema with ⟨type, -, same⟩ | ⟨-, same⟩
  · rw [same]
    exact .of_types rfl
  · rw [same]
    intro type mem
    rcases List.mem_append.1 mem with mem | mem
    · exact .inl mem
    · obtain rfl := List.mem_singleton.1 mem
      exact .inr ⟨registry, schema, found, rfl⟩

theorem Adds.enroll (registry : Registry) (resolver : Resolver) (id : SchemaId) :
    Adds model registry (registry.enroll (resolver.type? model id)) := by
  cases found : resolver.type? model id with
  | none => exact .of_types rfl
  | some core => exact .register registry (Resolver.schema?_of_type? found)

theorem Adds.enrollAll (source : Source) (registry : Registry) (ids : List SchemaId) :
    Adds source.model registry (source.enrollAll registry ids) := by
  induction ids generalizing registry with
  | nil => exact .of_types rfl
  | cons id rest ih => exact (Adds.enroll registry source.resolver id).trans (ih _)

end Registry

namespace Synthesis

variable {α β : Type} {source : Source}

/-- Whenever the step ends, the types that are new were made for schemas of the model. -/
def Registers (source : Source) (step : Synthesis α) : Prop :=
  ∀ run, Yields source run step fun _ after => run.registry.Adds source.model after.registry

/-! ## Sequences -/

theorem Registers.pure (x : α) : Registers source (pure x) :=
  fun _ => Yields.pure (.of_types rfl)

theorem Registers.bind {step : Synthesis α} {next : α → Synthesis β} (first : Registers source step)
    (rest : ∀ x, Registers source (next x)) : Registers source (step >>= next) :=
  fun run => (first run).bind fun x middle adds =>
    (rest x middle).mono fun _ _ more => adds.trans more

theorem Registers.schema {id : SchemaId} {next : Schema → Synthesis β}
    (rest : ∀ schema, Registers source (next schema)) :
    Registers source (Synthesis.schema id >>= next) :=
  fun run => .schema fun schema _ => rest schema run

/-- What else is known of a step that registers. -/
theorem Registers.and {step : Synthesis α} {run : Run} {post : α → Run → Prop}
    (registers : Registers source step) (yields : Yields source run step post) :
    Yields source run step fun x after => run.registry.Adds source.model after.registry ∧ post x after :=
  fun x after ran => ⟨registers run x after ran, yields x after ran⟩

/-! ## Single steps -/

/-- A step that declares schemas registers what they lead to. -/
theorem Registers.of_declared {step : Synthesis α} {ids : List SchemaId}
    (declared : ∀ run, Yields source run step fun _ after => Declared source ids run after) :
    Registers source step := by
  intro run
  refine (declared run).mono fun _ after declared => ?_
  rw [declared.registry]
  exact .enrollAll source run.registry ids

theorem registers_report (reporting : Reporting α) : Registers source (report reporting) := by
  rintro run x after ⟨⟩
  exact .of_types rfl

theorem registers_note (line : LogLine) : Registers source (note line) :=
  registers_report _

theorem Registers.noteIf {line : LogLine} {c : Prop} [Decidable c] {next : Unit → Synthesis β}
    (rest : Registers source (next ())) : Registers source (if c then note line >>= next else next ()) := by
  split
  · exact (registers_note line).bind fun _ => rest
  · exact rest

theorem registers_nextPending : Registers source nextPending := by
  intro run
  refine ends_nextPending.yields.mono ?_
  rintro _ after ⟨-, rfl⟩
  exact .of_types Registry.types_nextPending

theorem registers_setOwner (space : String) : Registers source (setOwner space) := by
  intro run
  refine (ends_setOwner space).yields.mono ?_
  rintro _ after ⟨owner, -⟩
  exact .of_types (by rw [owner]; rfl)

section Namespaces

variable {δ : Type} [Named δ]

theorem registers_begin (space : Namespace δ) : Registers source (Synthesis.begin space) :=
  .of_declared fun _ => yields_begin.mono fun _ _ => And.right

theorem registers_finalize (space : Namespace δ) : Registers source (Synthesis.finalize space) :=
  .of_declared fun _ => yields_finalize.mono fun _ _ => And.right

end Namespaces

end Synthesis
end CmdletForge
