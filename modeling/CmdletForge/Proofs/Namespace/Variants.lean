import CmdletForge.Namespace.Commands
import CmdletForge.Proofs.Generation.Yields
import Mathlib.Data.List.Forall2

/-!
# The variant of an operation

An operation always gets a variant. Its parameters are those of the operation, in order and without the
ones that could not be declared; so in a clean state they are all there, and so is the output.
-/

namespace CmdletForge

/-- The definition of a parameter. -/
structure ParameterDefinition.Of (parameter : Parameter) (definition : ParameterDefinition) : Prop where
  wireName : definition.wireName = parameter.name
  location : definition.location = parameter.location
  required : definition.required = parameter.required

/-- The definition of a parameter, with a declaration of what it takes. -/
structure ParameterDefinition.Complete (source : Source) (registry : Registry) (parameter : Parameter)
    (definition : ParameterDefinition) : Prop where
  its : definition.Of parameter
  declaration : source.Declares registry parameter.schema parameter.required definition.declaration

/-- The variant of an operation, which may lack parameters and the output. -/
structure CommandVariant.Of (operation : Operation) (variant : CommandVariant) : Prop where
  origin : variant.operation = some operation.id
  parameters : ∃ kept, kept.Sublist operation.parameters ∧
    List.Forall₂ ParameterDefinition.Of kept variant.parameters
  output : operation.response = none → variant.output = none

/-- A variant that has a parameter for every parameter of an operation, in order, and an output if and
only if the operation answers. -/
structure CommandVariant.Complete (source : Source) (registry : Registry) (operation : Operation)
    (variant : CommandVariant) : Prop where
  parameters : List.Forall₂ (ParameterDefinition.Complete source registry) operation.parameters
    variant.parameters
  output : Option.Rel (fun id declaration => source.Declares registry id true declaration)
    operation.response variant.output

/-- In a clean state the variant of an operation is complete. -/
structure CommandVariant.Renders (source : Source) (run : Run) (operation : Operation)
    (variant : CommandVariant) : Prop where
  its : variant.Of operation
  complete : run.Clean → variant.Complete source run.registry operation

section Mono

variable {source : Source} {before after : Registry}

theorem ParameterDefinition.Complete.mono {parameter : Parameter} {definition : ParameterDefinition}
    (kept : before.types <+: after.types) (h : definition.Complete source before parameter) :
    definition.Complete source after parameter :=
  ⟨h.its, h.declaration.mono kept⟩

theorem CommandVariant.Complete.mono {operation : Operation} {variant : CommandVariant}
    (kept : before.types <+: after.types) (h : variant.Complete source before operation) :
    variant.Complete source after operation := by
  refine ⟨h.parameters.imp fun _ _ parameter => parameter.mono kept, ?_⟩
  have output := h.output
  generalize operation.response = response, variant.output = declared at output ⊢
  cases output with
  | some declares => exact .some (declares.mono kept)
  | none => exact .none

theorem CommandVariant.Renders.later {source : Source} {run after : Run} {operation : Operation}
    {variant : CommandVariant} (later : Later run after)
    (h : variant.Renders source run operation) : variant.Renders source after operation :=
  ⟨h.its, fun clean => (h.complete (later.clean clean)).mono later.types⟩

/-- A variant is still that of its operation when it is named anew. -/
theorem CommandVariant.Renders.rename {source : Source} {run : Run} {operation : Operation}
    {variant : CommandVariant} (h : variant.Renders source run operation) (name className : String) :
    ({ variant with name, className } : CommandVariant).Renders source run operation :=
  ⟨⟨h.its.origin, h.its.parameters, h.its.output⟩,
    fun clean => ⟨(h.complete clean).parameters, (h.complete clean).output⟩⟩

end Mono

namespace Commands

open Synthesis

variable {source : Source} {run : Run}

theorem yields_defineParameters (operation : String) {taken : List String} {position : Nat}
    {parameters : List Parameter} :
    Yields source run (defineParameters operation taken position parameters) fun defined after =>
      Later run after ∧
      (∃ kept, kept.Sublist parameters ∧ List.Forall₂ ParameterDefinition.Of kept defined) ∧
      (after.Clean → List.Forall₂ (ParameterDefinition.Complete source after.registry) parameters
        defined) := by
  induction parameters generalizing run taken position with
  | nil => exact .pure ⟨.refl run, ⟨[], .slnil, .nil⟩, fun _ => .nil⟩
  | cons parameter rest ih =>
    refine (yields_declare? _ _).bind ?_
    rintro answer declared ⟨first, made⟩
    cases answer with
    | none =>
      refine ih.mono ?_
      rintro defined after ⟨second, ⟨kept, sub, its⟩, -⟩
      refine ⟨first.trans second, ⟨kept, sub.cons parameter, its⟩, fun clean => ?_⟩
      obtain ⟨_, skipped, -⟩ := made (second.clean clean)
      contradiction
    | some declaration =>
      refine .noteIf fun noted quiet => ih.bind ?_
      rintro defined after ⟨second, ⟨kept, sub, its⟩, others⟩
      have later := quiet.later.trans second
      refine .pure ⟨first.trans later, ?_, fun clean => .cons ⟨⟨rfl, rfl, rfl⟩, ?_⟩ (others clean)⟩
      · exact ⟨parameter :: kept, sub.cons_cons parameter, .cons ⟨rfl, rfl, rfl⟩ its⟩
      · obtain ⟨_, same, declares⟩ := made (later.clean clean)
        obtain rfl := Option.some.inj same
        exact declares.mono later.types

theorem yields_declareOutput (response : Option SchemaId) :
    Yields source run (declareOutput response) fun output after => Later run after ∧
      (response = none → output = none) ∧
      (after.Clean → Option.Rel (fun id declaration =>
        source.Declares after.registry id true declaration) response output) := by
  cases response with
  | none => exact .pure ⟨.refl run, fun _ => rfl, fun _ => .none⟩
  | some id =>
    refine (yields_declare? id true).mono ?_
    rintro output after ⟨later, made⟩
    refine ⟨later, nofun, fun clean => ?_⟩
    obtain ⟨declaration, rfl, declares⟩ := made clean
    exact .some declares

/-- **The variant of an operation.** It is complete if nothing has failed. -/
theorem yields_defineVariant (operation : Operation) (name : CommandName) :
    Yields source run (defineVariant operation name) fun variant after =>
      Later run after ∧ variant.Renders source after operation := by
  refine (yields_defineParameters _).bind ?_
  rintro parameters declared ⟨first, kept, defined⟩
  refine (yields_declareOutput _).bind ?_
  rintro output after ⟨second, silent, answered⟩
  refine .pure ⟨first.trans second, ⟨rfl, kept, silent⟩, fun clean => ⟨?_, answered clean⟩⟩
  exact (defined (second.clean clean)).imp fun _ _ parameter => parameter.mono second.types

end Commands
end CmdletForge
