import CmdletForge.Proofs.Generation.Yields
import CmdletForge.Proofs.Namespace.Basic
import CmdletForge.Proofs.Namespace.Definitions
import Mathlib.Data.List.Forall2

/-!
# Definitions that leave nothing out

A definition is complete when it has all that its schema has, in the same order: the properties of a
class, the values of an enumeration, the variants of a union. A member that cannot be declared is skipped,
so a definition may well be incomplete; but then the state is not clean, and never will be again.
-/

namespace CmdletForge

/-- The form of the type of a schema. -/
def Schema.form (schema : Schema) : ModelForm :=
  match schema.kind with
  | .enumeration => .enumeration
  | .union => .union
  | _ => .record

/-- The definition of a property of a schema, with a declaration of what the property holds. -/
structure PropertyDefinition.Of (source : Source) (registry : Registry) (schema : Schema)
    (property : Property) (definition : PropertyDefinition) : Prop where
  wireName : definition.wireName = property.name
  required : definition.required = schema.requires property.name
  declaration : source.Declares registry property.schema definition.required definition.declaration

/-- The text of a declaration of a schema, as the variant of a union has it. -/
def Source.DeclaresText (source : Source) (registry : Registry) (id : SchemaId) (text : String) : Prop :=
  ∃ declaration, source.Declares registry id true declaration ∧ declaration.text = text

/-- The definition of a registered type that has all that the schema of the type has. -/
structure ModelDefinition.Complete (source : Source) (registry : Registry)
    (definition : ModelDefinition) (schema : Schema) : Prop where
  registered : ∃ type ∈ registry.types, definition.Defines type
  form : definition.form = schema.form
  properties : schema.form = .record →
    List.Forall₂ (PropertyDefinition.Of source registry schema) schema.properties definition.properties
  values : schema.form = .enumeration → definition.values = schema.values
  variants : schema.form = .union →
    List.Forall₂ (source.DeclaresText registry) schema.variants definition.variants

/-- All definitions of a namespace are complete. -/
def Source.Completes (source : Source) (registry : Registry) (space : Namespace ModelDefinition) : Prop :=
  ∀ definition ∈ space.definitions, ∃ schema,
    source.model.schema? definition.schema = some schema ∧ definition.Complete source registry schema

section Mono

variable {source : Source} {before after : Registry}

theorem PropertyDefinition.Of.mono {schema : Schema} {property : Property}
    {definition : PropertyDefinition} (kept : before.types <+: after.types)
    (h : definition.Of source before schema property) : definition.Of source after schema property :=
  ⟨h.wireName, h.required, h.declaration.mono kept⟩

theorem Source.DeclaresText.mono {id : SchemaId} {text : String} (kept : before.types <+: after.types)
    (h : source.DeclaresText before id text) : source.DeclaresText after id text := by
  obtain ⟨declaration, declares, same⟩ := h
  exact ⟨declaration, declares.mono kept, same⟩

/-- What is complete in a state is complete in a later one. -/
theorem ModelDefinition.Complete.mono {definition : ModelDefinition} {schema : Schema}
    (kept : before.types <+: after.types) (h : definition.Complete source before schema) :
    definition.Complete source after schema := by
  obtain ⟨type, mem, defines⟩ := h.registered
  refine ⟨⟨type, kept.subset mem, defines⟩, h.form, fun form => ?_, h.values, fun form => ?_⟩
  · exact (h.properties form).imp fun _ _ property => property.mono kept
  · exact (h.variants form).imp fun _ _ variant => variant.mono kept

theorem Source.Completes.mono {space : Namespace ModelDefinition} (kept : before.types <+: after.types)
    (h : source.Completes before space) : source.Completes after space := by
  intro definition mem
  obtain ⟨schema, found, complete⟩ := h definition mem
  exact ⟨schema, found, complete.mono kept⟩

end Mono

namespace Models

open Synthesis

variable {source : Source} {run : Run}

/-! ## Members -/

theorem yields_defineProperties (schema : Schema) (typeName : String) {taken : List String}
    {properties : List Property} :
    Yields source run (defineProperties schema typeName taken properties) fun defined after =>
      Later run after ∧ (after.Clean →
        List.Forall₂ (PropertyDefinition.Of source after.registry schema) properties defined) := by
  induction properties generalizing run taken with
  | nil => exact .pure ⟨.refl run, fun _ => .nil⟩
  | cons property rest ih =>
    refine (yields_declare? _ _).bind ?_
    rintro answer declared ⟨first, made⟩
    cases answer with
    | none =>
      -- The property is skipped, which the state keeps a record of.
      refine ih.mono ?_
      rintro defined after ⟨second, -⟩
      refine ⟨first.trans second, fun clean => ?_⟩
      obtain ⟨_, skipped, -⟩ := made (second.clean clean)
      contradiction
    | some declaration =>
      refine .noteIf fun noted quiet => .schema fun described _ => ih.bind ?_
      rintro defined after ⟨second, others⟩
      have later := quiet.later.trans second
      refine .pure ⟨first.trans later, fun clean => .cons ⟨rfl, rfl, ?_⟩ (others clean)⟩
      obtain ⟨_, same, declares⟩ := made (later.clean clean)
      obtain rfl := Option.some.inj same
      exact declares.mono later.types

theorem yields_declareVariants {variants : List SchemaId} :
    Yields source run (declareVariants variants) fun texts after => Later run after ∧
      (after.Clean → List.Forall₂ (source.DeclaresText after.registry) variants texts) := by
  induction variants generalizing run with
  | nil => exact .pure ⟨.refl run, fun _ => .nil⟩
  | cons id rest ih =>
    refine (yields_declare? _ _).bind ?_
    rintro answer declared ⟨first, made⟩
    cases answer with
    | none =>
      refine ih.mono ?_
      rintro texts after ⟨second, -⟩
      refine ⟨first.trans second, fun clean => ?_⟩
      obtain ⟨_, skipped, -⟩ := made (second.clean clean)
      contradiction
    | some declaration =>
      refine ih.bind ?_
      rintro texts after ⟨second, others⟩
      refine .pure ⟨first.trans second, fun clean => .cons ⟨declaration, ?_, rfl⟩ (others clean)⟩
      obtain ⟨_, same, declares⟩ := made (second.clean clean)
      obtain rfl := Option.some.inj same
      exact declares.mono second.types

/-! ## Types -/

/-- A definition of a registered type is complete if nothing has failed. -/
theorem yields_define {type : TypeRef} {schema : Schema} (known : type ∈ run.registry.types) :
    Yields source run (define type schema) fun definition after => Later run after ∧
      definition.schema = type.schema ∧
      (after.Clean → definition.Complete source after.registry schema) := by
  unfold define
  cases kind : schema.kind with
  | enumeration =>
    have form : schema.form = .enumeration := by rw [Schema.form, kind]
    refine .pure ⟨.refl run, rfl, fun _ => ⟨⟨type, known, rfl, rfl, rfl⟩, form.symm, ?_, ?_, ?_⟩⟩
    all_goals simp [form]
  | union =>
    have form : schema.form = .union := by rw [Schema.form, kind]
    refine yields_declareVariants.bind ?_
    rintro variants after ⟨later, declared⟩
    refine .pure ⟨later, rfl, fun clean => ?_⟩
    refine ⟨⟨type, later.types.subset known, rfl, rfl, rfl⟩, form.symm, ?_, ?_, fun _ => declared clean⟩
    all_goals simp [form]
  | _ =>
    have form : schema.form = .record := by rw [Schema.form, kind]
    refine (yields_defineProperties _ _).bind ?_
    rintro properties after ⟨later, defined⟩
    refine .pure ⟨later, rfl, fun clean => ?_⟩
    refine ⟨⟨type, later.types.subset known, rfl, rfl, rfl⟩, form.symm, fun _ => defined clean, ?_, ?_⟩
    all_goals simp [form]

/-- What a drain adds are definitions of types that wait: all that can be said of such a definition holds
of all that is added. -/
theorem yields_added {good : ModelDefinition → Prop}
    (defines : ∀ (run : Run) (type : TypeRef) (schema : Schema),
      source.model.schema? type.schema = some schema →
        Yields source run (define type schema) fun definition _ => good definition)
    {steps : Nat} {space : Namespace ModelDefinition} :
    Yields source run (drain steps space) fun done _ => ∃ added,
      done.definitions = space.definitions ++ added ∧ ∀ definition ∈ added, good definition := by
  induction steps generalizing run space with
  | zero => exact .pure ⟨[], by simp, by simp⟩
  | succ steps ih =>
    refine (Yields.any _).bind fun next handed _ => ?_
    cases next with
    | none => exact .pure ⟨[], by simp, by simp⟩
    | some id =>
      refine .get ?_
      split
      next => exact ih
      next type found =>
        obtain ⟨-, rfl⟩ := Registry.lookup_spec found
        refine .schema fun schema its => (Yields.any _).bind fun _ noted _ => ?_
        refine (defines noted type schema its).bind fun definition defined holds => .orFail fun grown added => ?_
        obtain rfl := Namespace.insert_ok added
        refine ih.mono ?_
        rintro done after ⟨added, more, others⟩
        refine ⟨definition :: added, ?_, by simpa using ⟨holds, others⟩⟩
        rw [more, Namespace.extend, List.append_assoc, List.singleton_append]

/-- In a clean state all definitions of the namespace are complete. -/
def Whole (source : Source) (run : Run) (space : Namespace ModelDefinition) : Prop :=
  run.Clean → source.Completes run.registry space

theorem Whole.later {after : Run} {space : Namespace ModelDefinition} (whole : Whole source run space)
    (later : Later run after) : Whole source after space :=
  fun clean => (whole (later.clean clean)).mono later.types

/-- One more complete definition. -/
theorem Whole.insert {space grown : Namespace ModelDefinition} {definition : ModelDefinition}
    {schema : Schema} (whole : Whole source run space) (added : space.insert definition = .ok grown)
    (its : source.model.schema? definition.schema = some schema)
    (complete : run.Clean → definition.Complete source run.registry schema) :
    Whole source run grown := by
  obtain rfl := Namespace.insert_ok added
  intro clean other mem
  rcases List.mem_append.1 mem with mem | mem
  · exact whole clean other mem
  · obtain rfl := List.mem_singleton.1 mem
    exact ⟨schema, its, complete clean⟩

theorem yields_drain {steps : Nat} {space : Namespace ModelDefinition}
    (whole : Whole source run space) :
    Yields source run (drain steps space) fun done after =>
      Later run after ∧ Whole source after done := by
  induction steps generalizing run space with
  | zero => exact .pure ⟨.refl run, whole⟩
  | succ steps ih =>
    refine yields_nextPending.bind fun next handed first => ?_
    cases next with
    | none => exact .pure ⟨first, whole.later first⟩
    | some id =>
      refine .get ?_
      split
      next =>
        refine (ih (whole.later first)).mono ?_
        rintro done after ⟨second, whole⟩
        exact ⟨first.trans second, whole⟩
      next type found =>
        obtain ⟨known, rfl⟩ := Registry.lookup_spec found
        refine .schema fun schema its => (ends_note _).yields.bind fun _ noted quiet => ?_
        have begun := first.trans quiet.later
        refine (yields_define (quiet.later.types.subset known)).bind ?_
        rintro definition defined ⟨second, same, complete⟩
        refine .orFail fun grown added => ?_
        -- What was there before is still complete, and so is what is added.
        have held := whole.later (begun.trans second)
        refine (ih (held.insert added (by rw [same, its]) complete)).mono ?_
        rintro done after ⟨third, whole⟩
        exact ⟨begun.trans (second.trans third), whole⟩

theorem yields_drainAll {space : Namespace ModelDefinition} (whole : Whole source run space) :
    Yields source run (drainAll space) fun done after =>
      Later run after ∧ Whole source after done :=
  .read (yields_drain whole)

theorem yields_visit {entries : List (String × SchemaId)} :
    Yields source run (visit entries) fun _ after => Later run after := by
  induction entries generalizing run with
  | nil => exact .pure (.refl run)
  | cons entry rest ih =>
    refine (ends_note _).yields.bind fun _ noted quiet => ?_
    have one : Yields source noted (Functor.discard (declare? entry.2 true)) fun _ after =>
        Later noted after :=
      (yields_declare? _ _).bind fun _ _ declared => .pure declared.1
    refine one.bind fun _ declared first => ih.mono fun _ after second => ?_
    exact quiet.later.trans (first.trans second)

/-- **Nothing is left out.** The namespace of model types has complete definitions only, unless a failure
was recorded. -/
theorem yields_build (service : Service) :
    Yields source run (build service) fun space after =>
      Later run after ∧ Whole source after space := by
  refine yields_begin.bind ?_
  rintro _ opened ⟨rfl, first⟩
  refine (yields_setOwner _).bind fun _ owned second => ?_
  refine .read (yields_visit.bind fun _ visited third => ?_)
  have bare : Whole source visited
      { fullName := service.child "Models", phase := .initializing } := by
    intro _ definition mem
    exact absurd mem (by simp)
  refine (yields_drainAll bare).bind ?_
  rintro space drained ⟨fourth, whole⟩
  refine yields_finalize.mono ?_
  rintro _ after ⟨rfl, quiet⟩
  refine ⟨first.later.trans (second.trans (third.trans (fourth.trans quiet.later))), ?_⟩
  exact whole.later quiet.later

end Models
end CmdletForge
