import CmdletForge.Proofs.Namespace.Partition
import CmdletForge.Proofs.Project.Assembly
import CmdletForge.Proofs.Schema.Validation

/-!
# An assembled project is complete

A member that cannot be declared is left out where it is met. But what is left out is on record, and a
project is handed over only if nothing is on record: so no project lacks a property, a value, a variant
or a parameter. No schema need be there for this; where one is missing there is no project.
-/

namespace CmdletForge

/-! ## Identifiers of a valid model -/

namespace Model

/-- In a model without faults no two operations have one identifier. -/
theorem nodup_ids {model : Model} (valid : model.issues = []) : (model.operations.map (·.id)).Nodup := by
  have operations : operationIssues [] model.operations = [] := (List.append_eq_nil_iff.1 valid).2
  have trimmed := (operationIssues_eq_nil_iff.1 operations).2
  rw [← Function.comp_def Text.trim, ← List.map_map] at trimmed
  exact .of_map _ trimmed

end Model

/-! ## The other namespaces -/

namespace ModelCommands

open Synthesis

variable {source : Source} {run : Run} {space : Namespace CommandDefinition}
  {spaces : Commands.CommandSpaces}

theorem yields_addAll {models : List ModelDefinition} :
    Yields source run (addAll spaces models space) fun _ after => Declared source [] run after := by
  induction models generalizing run space with
  | nil => exact .pure (.refl run)
  | cons model rest ih =>
    refine (ends_note _).yields.bind fun _ noted first => .orFail fun grown _ => ?_
    exact ih.mono fun _ _ second => first.nil_trans second

theorem yields_build {models : Namespace ModelDefinition} :
    Yields source run (build space models spaces) fun _ after => Declared source [] run after := by
  refine yields_begin.bind ?_
  rintro opened begun ⟨-, first⟩
  refine yields_addAll.bind fun added filled second => ?_
  refine yields_finalize.mono ?_
  rintro _ after ⟨-, third⟩
  exact (first.nil_trans second).nil_trans third

theorem yields_skip :
    Yields source run (skip space) fun _ after => Declared source [] run after := by
  refine (ends_note _).yields.bind fun _ noted first => ?_
  refine yields_finalize.mono ?_
  rintro _ after ⟨-, second⟩
  exact first.nil_trans second

end ModelCommands

theorem Support.yields_build {source : Source} {run : Run} (service : Service) :
    Synthesis.Yields source run (build service) fun _ after => Declared source [] run after := by
  by_cases distinct : (names source.resolver).Nodup
  · exact (ends_build distinct service).yields.mono fun _ _ => And.right
  · exact (fails_build distinct service).yields

/-! ## Projects -/

/-- The variants of the commands of a project. -/
def Project.variants (project : Project) : List CommandVariant :=
  project.commands.commands.definitions.flatMap (·.variants)

/-- A project that has all there is in the model it comes from: every definition has all that its schema
has, and every operation has one variant, with all its parameters and its output. -/
structure Project.Complete (source : Source) (registry : Registry) (project : Project) : Prop where
  models : source.Completes registry project.models
  commandModels : source.Completes registry project.commands.models
  operations : ∀ operation ∈ source.model.operations, ∃ variant,
    (project.variants.filter fun variant => variant.operation = some operation.id) = [variant] ∧
      variant.Complete source registry operation

namespace Commands

/-- Lists that are related part by part are related as a whole. -/
theorem forall₂_flatMap {α β γ : Type} {related : β → γ → Prop} {items : List α} {f : α → List β}
    {g : α → List γ} (parts : ∀ x ∈ items, List.Forall₂ related (f x) (g x)) :
    List.Forall₂ related (items.flatMap f) (items.flatMap g) := by
  have diagonal : List.Forall₂ (fun x y => x = y ∧ x ∈ items) items items :=
    List.forall₂_same.2 fun x mem => ⟨rfl, mem⟩
  refine List.rel_flatMap diagonal ?_
  rintro x _ ⟨rfl, mem⟩
  exact parts x mem

/-- Where no two operations have one identifier, every operation has one variant. -/
theorem Partition.exists_variant {name : Operation → CommandName} {operations : List Operation}
    {commands : List CommandDefinition} {related : Operation → CommandVariant → Prop}
    (partition : Partition name operations commands) (groups : Groups related name operations commands)
    (origin : ∀ operation variant, related operation variant → variant.operation = some operation.id)
    (distinct : (operations.map (·.id)).Nodup) {operation : Operation} (mem : operation ∈ operations) :
    ∃ variant, ((commands.flatMap (·.variants)).filter fun variant =>
      variant.operation = some operation.id) = [variant] ∧ related operation variant := by
  let grouped := commands.flatMap fun command => group name operations command.name
  have all : List.Forall₂ related grouped (commands.flatMap (·.variants)) :=
    forall₂_flatMap groups.variants
  have own : List.Forall₂ related (group (·.id) grouped operation.id)
      ((commands.flatMap (·.variants)).filter fun variant => variant.operation = some operation.id) := by
    refine List.rel_filter ?_ all
    intro other variant its
    simp [origin other variant its]
  -- The operations of all groups are those there are, so one group by identifier is one operation.
  have single : group (·.id) grouped operation.id = [operation] := by
    have perm := partition.whole.filter fun other => decide (other.id = operation.id)
    rw [show operations.filter _ = [operation] from group_of_nodup distinct mem] at perm
    exact List.perm_singleton.1 perm
  rw [single] at own
  generalize (commands.flatMap (·.variants)).filter _ = variants at own
  obtain ⟨variant, rest, its, none, rfl⟩ := List.forall₂_cons_left_iff.1 own
  obtain rfl := List.forall₂_nil_left_iff.1 none
  exact ⟨variant, rfl, its⟩

end Commands

/-- The project of an outcome, if there is one. -/
def Outcome.project? : Outcome → Option Project
  | .assembled project => some project
  | _ => none

/-- What is checked of the project of an outcome holds of a project that comes out. -/
theorem Outcome.exists_of_any {outcome : Outcome} {check : Project → Bool}
    (checked : outcome.project?.any check = true) :
    ∃ project, outcome = .assembled project ∧ check project = true := by
  cases outcome with
  | assembled project => exact ⟨project, rfl, checked⟩
  | _ => contradiction

namespace Assembly

open Synthesis

variable {source : Source} {run : Run} {config : Config}

theorem yields_opening : Yields source run (opening config) fun _ after =>
    Later run after ∧ (after.Clean → source.model.issues = []) := by
  refine ends_opening.yields.mono ?_
  rintro settings after ⟨same, checkpoint⟩
  refine ⟨.of_recorded _ (by rw [same]) checkpoint, fun clean => ?_⟩
  rw [Run.Clean, checkpoint] at clean
  have nothing := (Checkpoint.nil_of_recordAll clean).2
  exact List.map_eq_nil_iff.1 (List.append_eq_nil_iff.1 nothing).1

theorem yields_modelCommands (settings : ProjectSettings) (service : Service)
    (models : Namespace ModelDefinition) (commands : Commands.CommandSpaces) :
    Yields source run (modelCommands settings service models commands) fun _ after =>
      Declared source [] run after := by
  unfold modelCommands
  split
  · exact ModelCommands.yields_skip
  · exact ModelCommands.yields_build

/-- The namespaces are complete if nothing has failed and the model is valid. -/
theorem yields_namespaces (settings : ProjectSettings) :
    Yields source run (namespaces config settings) fun project after => Later run after ∧
      (source.model.issues = [] → after.Clean → project.Complete source after.registry) := by
  refine (Support.yields_build _).bind fun support first quiet => ?_
  refine (Models.yields_build _).bind ?_
  rintro models second ⟨modelled, whole⟩
  refine (Commands.yields_build _ config).bind ?_
  rintro commands third ⟨commanded, rendered, whole'⟩
  refine (yields_modelCommands settings _ models commands).bind fun modelCommands after quiet' => ?_
  refine .pure ⟨quiet.later.trans (modelled.trans (commanded.trans quiet'.later)), ?_⟩
  intro valid clean
  have last := quiet'.later
  have rendered := rendered.imp fun _ _ its => its.later last
  have partition := (rendered.imp fun _ _ renders => renders.its).partition Commands.nameOf_inj
  refine ⟨whole.later (commanded.trans last) clean, whole'.later last clean, fun operation mem => ?_⟩
  obtain ⟨variant, only, renders⟩ := partition.exists_variant rendered
    (fun _ _ renders => renders.its.origin) (Model.nodup_ids valid) mem
  exact ⟨variant, only, renders.complete clean⟩

theorem yields_steps : Yields source run (steps config) fun project after =>
    after.Clean → project.Complete source after.registry := by
  rw [steps_eq]
  refine yields_opening.bind ?_
  rintro settings opened ⟨-, valid⟩
  refine (yields_namespaces settings).mono ?_
  rintro project after ⟨later, complete⟩ clean
  exact complete (valid (later.clean clean)) clean

/-- A project is assembled only in a clean state. -/
theorem exists_of_assembled {model : Model} {overrides : List TypeOverride} {project : Project}
    (assembled : (Assembly.run config model overrides).1 = .assembled project) :
    ∃ after : Run, ((steps config).run ⟨model, resolver overrides⟩).run.run {} = (.ok project, after) ∧
      after.Clean := by
  unfold Assembly.run at assembled
  generalize ((steps config).run ⟨model, resolver overrides⟩).run.run {} = ran at assembled ⊢
  obtain ⟨result, after⟩ := ran
  cases result with
  | ok made =>
    dsimp only at assembled
    by_cases clean : (after.report.note after.report.checkpoint.checkLine).checkpoint.isClean
    · rw [if_pos clean] at assembled
      obtain rfl := Outcome.assembled.inj assembled
      exact ⟨after, rfl, List.isEmpty_iff.1 clean⟩
    · rw [if_neg clean] at assembled
      exact Outcome.noConfusion assembled
  | error stop => cases stop <;> exact Outcome.noConfusion assembled

/-- **Nothing is silently dropped.** Whatever the configuration, the model and the overrides are, a project
that is assembled is complete. -/
theorem complete_of_assembled {model : Model} {overrides : List TypeOverride} {project : Project}
    (assembled : (Assembly.run config model overrides).1 = .assembled project) :
    ∃ registry, project.Complete ⟨model, resolver overrides⟩ registry := by
  obtain ⟨after, ran, clean⟩ := exists_of_assembled assembled
  exact ⟨after.registry, yields_steps project after ran clean⟩

/-- A valid model, of a class, an enumeration and a union, with two commands. -/
def kennel : Model where
  schemas :=
    [{ kind := .object, path := "/schemas/Dog", name := some "Dog",
       properties := [⟨"friend", 0⟩, ⟨"mood", 1⟩], required := ["mood"] },
      { kind := .enumeration, path := "/schemas/Mood", name := some "Mood", values := ["calm", "wild"] },
      { kind := .union, path := "/schemas/Guest", name := some "Guest", variants := [0, 0],
        discriminator := some "kind" },
      { kind := .boolean, path := "/operations/dogs_feed/parameters/force" }]
  table := [("Dog", 0)]
  operations :=
    [{ id := "dogs_feed",
       parameters := [{ name := "guest", location := .body, required := true, schema := 2 },
        { name := "force", schema := 3 }],
       response := some 1 },
      { id := "dogs_list" }]

/-- The keys that every configuration needs. -/
def leastConfig : Config :=
  ⟨[(.str "module-version", .str "1.0"), (.str "module-name", .str "Kennel"),
    (.str "dll-name", .str "Kennel")]⟩

theorem kennel_complete : ∃ project,
    (Assembly.run leastConfig kennel []).1 = .assembled project ∧
      ∃ registry, project.Complete ⟨kennel, resolver []⟩ registry := by
  have checked : (Assembly.run leastConfig kennel []).1.project?.any (fun _ => true) = true := by
    decide +kernel
  obtain ⟨project, assembled, -⟩ := Outcome.exists_of_any checked
  exact ⟨project, assembled, complete_of_assembled assembled⟩

end Assembly
end CmdletForge
