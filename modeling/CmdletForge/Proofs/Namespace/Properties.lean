import CmdletForge.Proofs.Namespace.Completeness
import CmdletForge.Proofs.Namespace.Models
import CmdletForge.Proofs.Naming.Unique

/-!
# The names of properties

The properties of a class are named in order. What a property is called on the wire is made the name of a
member, and this is moved out of the way twice: a word is put behind it if it is the name of the class, and
then a number if an earlier property has it. `Titled` is this rule. The number comes last, and nobody looks
at the name of the class again: it may lead back to it, and `Apart` says when exactly it does.
-/

namespace CmdletForge

/-- The name that a property would like to have is not that of its type. -/
theorem Models.propertyCandidate_ne (wireName typeName : String) :
    propertyCandidate wireName typeName ≠ typeName := by
  unfold propertyCandidate
  dsimp only
  split
  next same =>
    rw [same]
    exact fun longer => by simpa using congrArg String.length longer
  next other => exact other

namespace ModelDefinition

/-- The name that a property of a type would like to have. -/
def candidate (definition : ModelDefinition) (property : PropertyDefinition) : String :=
  Models.propertyCandidate property.wireName definition.name

/-- The properties of a type are some of those of its schema, in order, and each is named beside those
before it. -/
structure Titled (schema : Schema) (definition : ModelDefinition) : Prop where
  wireNames : (definition.properties.map (·.wireName)).Sublist (schema.properties.map (·.name))
  names : definition.properties.map (·.name) =
    Naming.uniqueNames [] (definition.properties.map definition.candidate)

/-- The names of the properties of a type are kept apart from each other. They are kept apart from the name of
the type but where the number of one makes it that name. -/
structure Apart (definition : ModelDefinition) : Prop where
  distinct : (definition.properties.map (·.name)).Nodup
  clash : ∀ earlier property later, definition.properties = earlier ++ property :: later →
    (property.name = definition.name ↔
      ∃ n, Naming.NumberedTo (earlier.map (·.name)) (definition.candidate property) definition.name n)
  clear : (∀ c ∈ definition.name.toList.getLast?, c.isDigit = false) →
    ∀ property ∈ definition.properties, property.name ≠ definition.name

theorem Titled.apart {schema : Schema} {definition : ModelDefinition} (titled : definition.Titled schema) :
    definition.Apart := by
  have clash : ∀ earlier property later, definition.properties = earlier ++ property :: later →
      (property.name = definition.name ↔
        ∃ n, Naming.NumberedTo (earlier.map (·.name)) (definition.candidate property) definition.name n) := by
    intro earlier property later split
    have names := titled.names
    rw [split] at names
    have name : property.name = _ := Naming.eq_uniqueName_of_split names
    rw [name]
    exact Naming.uniqueName_eq_iff (Models.propertyCandidate_ne _ _)
  refine ⟨?_, clash, fun plain property mem same => ?_⟩
  · rw [titled.names]
    exact (Naming.nodup_uniqueNames _ _).1
  · obtain ⟨earlier, later, split⟩ := List.append_of_mem mem
    obtain ⟨n, numbered⟩ := (clash earlier property later split).1 same
    obtain ⟨c, last, digit⟩ := numbered.digit
    rw [plain c last] at digit
    contradiction

end ModelDefinition

namespace Models

open Synthesis

variable {source : Source} {run : Run} {earlier : List TypeRef} {space : Namespace ModelDefinition}

/-! ## A definition -/

/-- Properties are named in order, each beside those before it. -/
theorem yields_titles (schema : Schema) (typeName : String) {taken : List String}
    {properties : List Property} :
    Yields source run (defineProperties schema typeName taken properties) fun defined _ =>
      (defined.map (·.wireName)).Sublist (properties.map (·.name)) ∧
      defined.map (·.name) =
        Naming.uniqueNames taken (defined.map fun property => propertyCandidate property.wireName typeName) := by
  induction properties generalizing run taken with
  | nil => exact .pure ⟨.slnil, rfl⟩
  | cons property rest ih =>
    refine (Yields.any _).bind fun answer declared _ => ?_
    cases answer with
    | none =>
      -- The property is left out, and takes no name from those after it.
      exact ih.mono fun defined _ ⟨wireNames, names⟩ => ⟨wireNames.cons _, names⟩
    | some declaration =>
      refine .noteIf fun noted _ => .schema fun described _ => ih.bind ?_
      rintro defined after ⟨wireNames, names⟩
      refine .pure ⟨wireNames.cons_cons _, ?_⟩
      rw [List.map_cons, List.map_cons, names, Naming.uniqueNames]

theorem yields_titled (type : TypeRef) (schema : Schema) :
    Yields source run (define type schema) fun definition _ =>
      definition.schema = type.schema ∧ definition.Titled schema := by
  unfold define
  cases schema.kind with
  | enumeration => exact .pure ⟨rfl, List.nil_sublist _, rfl⟩
  | union => exact (Yields.any _).bind fun _ _ _ => .pure ⟨rfl, List.nil_sublist _, rfl⟩
  | _ =>
    refine (yields_titles schema type.name).bind ?_
    rintro properties after ⟨wireNames, names⟩
    exact .pure ⟨rfl, wireNames, names⟩

/-! ## All definitions -/

/-- A namespace has got definitions of schemas of the model, with the properties named by the rule. -/
def Titles (source : Source) (space done : Namespace ModelDefinition) : Prop :=
  ∃ added, done.definitions = space.definitions ++ added ∧ ∀ definition ∈ added, definition.Apart ∧
    ∃ schema, source.model.schema? definition.schema = some schema ∧ definition.Titled schema

/-- **The names of properties.** Whatever a drain defines has properties of different names, and the name of
the type is among them if and only if the number of a property leads to it. In a closed model the drain
ends. -/
theorem drainAll_titles (source : Source) (run : Run) (space : Namespace ModelDefinition) :
    Yields source run (drainAll space) (fun done _ => Titles source space done) ∧
    (source.model.Closed → ∀ earlier, Draining source earlier space run →
      Named source run.registry space →
        Ends source run (drainAll space) fun done _ => Titles source space done) := by
  have titles : Yields source run (drainAll space) fun done _ => Titles source space done := by
    refine .read (yields_added fun _ type schema found => ?_)
    refine (yields_titled type schema).mono ?_
    rintro definition after ⟨same, titled⟩
    exact ⟨titled.apart, schema, by rw [same, found], titled⟩
  exact ⟨titles, fun closed _ draining named => (ends_drainAll closed draining named).of_yields titles⟩

/-- A class with two properties of one word. It is named as the second of them when that has a number. -/
def widgets : Model where
  schemas :=
    [{ kind := .primitive .string, path := "schemas/Widget1/properties/widget" },
      { kind := .object, path := "schemas/Widget1", name := some "Widget1",
        properties := [⟨"widget", 0⟩, ⟨"Widget", 0⟩] }]
  table := [("Widget1", 1)]
  operations := []

/-- The class waits to be defined. -/
def widgetWaits : Run where
  registry := { types := [⟨1, "Api.Models", "Widget1"⟩], pending := [1], owner := "Api.Models" }

theorem widgets_titles :
    widgets.Closed ∧
      Draining ⟨widgets, ⟨[]⟩⟩ [] { fullName := "Api.Models", phase := .initializing } widgetWaits ∧
      Named ⟨widgets, ⟨[]⟩⟩ widgetWaits.registry { fullName := "Api.Models", phase := .initializing } ∧
      Ends ⟨widgets, ⟨[]⟩⟩ widgetWaits (drainAll { fullName := "Api.Models", phase := .initializing })
        fun done _ => Titles ⟨widgets, ⟨[]⟩⟩ { fullName := "Api.Models", phase := .initializing } done := by
  have closed : widgets.Closed := by decide
  have draining : Draining ⟨widgets, ⟨[]⟩⟩ [] { fullName := "Api.Models", phase := .initializing }
      widgetWaits := by
    refine ⟨rfl, rfl, ?_, ⟨_, rfl, by simp⟩, by simp [widgetWaits, widgets, Model.size]⟩
    constructor <;> simp [widgetWaits, Registry.ids, references]
  have named : Named ⟨widgets, ⟨[]⟩⟩ widgetWaits.registry
      { fullName := "Api.Models", phase := .initializing } := by
    constructor <;> simp
  exact ⟨closed, draining, named, (drainAll_titles _ _ _).2 closed [] draining named⟩

/-- A property has the name of its class. -/
theorem widgets_shadowed : Ends ⟨widgets, ⟨[]⟩⟩ {} (build ⟨"Api", "Api"⟩) fun space _ =>
    ∃ definition ∈ space.definitions, ∃ property ∈ definition.properties,
      property.name = definition.name := by
  have checked : (((build ⟨"Api", "Api"⟩).run ⟨widgets, ⟨[]⟩⟩).run.run {}).1.toOption.any (fun space =>
      space.definitions.any fun definition =>
        definition.properties.any fun property => property.name = definition.name) = true := by
    decide +kernel
  exact (Ends.of_any checked).mono fun space _ found => by simpa using found

end Models
end CmdletForge
