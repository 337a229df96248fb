import CmdletForge.Namespace.Commands
import CmdletForge.Proofs.Namespace.Models
import CmdletForge.Proofs.Settings.Keys

/-!
# How the namespaces of commands are filled

Every operation declares its parameters and its answer, in order, and then the types that they brought
are defined. A variant goes to the command of its name, which is added if there is none, so that adding
it never fails.
-/

namespace CmdletForge

/-- The declarations of a variant: those of its parameters and of its output. -/
def CommandVariant.declarations (variant : CommandVariant) : List Declaration :=
  variant.parameters.map (·.declaration) ++ variant.output.toList

/-- The declarations of the variants of a command. -/
def CommandDefinition.declarations (command : CommandDefinition) : List Declaration :=
  command.variants.flatMap CommandVariant.declarations

namespace Commands

open Synthesis

variable {source : Source} {run after : Run}

/-- The declarations of all commands. -/
def declarations (commands : Namespace CommandDefinition) : List Declaration :=
  commands.definitions.flatMap CommandDefinition.declarations

/-! ## Variants -/

theorem ends_defineParameters (closed : source.model.Closed) {operation : String}
    {taken : List String} {position : Nat} {parameters : List Parameter}
    (bound : ∀ parameter ∈ parameters, parameter.schema < source.model.size) :
    Ends source run (defineParameters operation taken position parameters) fun defined after =>
      Declared source (parameters.map (·.schema)) run after ∧
      (source.resolver.Foreign → ∀ parameter ∈ defined,
        parameter.declaration.Grounded after.registry) := by
  induction parameters generalizing run taken position with
  | nil => exact .pure ⟨.refl run, by simp⟩
  | cons parameter rest ih =>
    have later : ∀ parameter ∈ rest, parameter.schema < source.model.size :=
      fun parameter mem => bound parameter (by simp [mem])
    refine (ends_declare? closed (bound parameter (by simp)) _).bind ?_
    rintro declaration declared ⟨first, -, grounded⟩
    cases declaration with
    | none =>
      refine (ih later).mono ?_
      rintro defined after ⟨second, rest⟩
      exact ⟨first.trans second, rest⟩
    | some declaration =>
      refine .noteIf fun noted second => (ih later).bind ?_
      rintro defined after ⟨third, known⟩
      have all := second.nil_trans third
      refine .pure ⟨first.trans all, fun foreign parameter mem => ?_⟩
      rcases List.mem_cons.1 mem with rfl | mem
      · exact (grounded foreign declaration rfl).mono all.grew.kept
      · exact known foreign parameter mem

theorem ends_declareOutput (closed : source.model.Closed) {response : Option SchemaId}
    (bound : ∀ id ∈ response, id < source.model.size) :
    Ends source run (declareOutput response) fun output after =>
      Declared source response.toList run after ∧
      (source.resolver.Foreign → ∀ declaration ∈ output, declaration.Grounded after.registry) := by
  cases response with
  | none => exact .pure ⟨.refl run, by simp⟩
  | some id =>
    refine (ends_declare? closed (bound id rfl) true).mono ?_
    rintro output after ⟨declared, -, grounded⟩
    exact ⟨declared, grounded⟩

/-- The variant of an operation declares what the operation mentions, and nothing else is done. -/
theorem ends_defineVariant (closed : source.model.Closed) {operation : Operation}
    (mem : operation ∈ source.model.operations) (name : CommandName) :
    Ends source run (defineVariant operation name) fun variant after =>
      Declared source operation.mentions run after ∧
      (source.resolver.Foreign → ∀ declaration ∈ variant.declarations,
        declaration.Grounded after.registry) := by
  refine (ends_defineParameters closed (closed.parameters operation mem)).bind ?_
  rintro parameters declared ⟨first, grounded⟩
  refine (ends_declareOutput closed (closed.response operation mem)).bind ?_
  rintro output after ⟨second, grounded'⟩
  refine .pure ⟨first.trans second, fun foreign declaration its => ?_⟩
  rcases List.mem_append.1 its with its | its
  · obtain ⟨parameter, inside, rfl⟩ := List.mem_map.1 its
    exact (grounded foreign parameter inside).mono second.grew.kept
  · exact grounded' foreign declaration (Option.mem_toList.1 its)

/-! ## Commands -/

/-- The commands with a variant added to the one of a name, or to a new one. -/
def place (commands : Namespace CommandDefinition) (name : CommandName) (variant : CommandVariant) :
    Namespace CommandDefinition :=
  { commands with
    definitions :=
      if commands.contains name.text then
        Namespace.changeFirst name.text (·.addVariant variant) commands.definitions
      else commands.definitions ++ [({ name } : CommandDefinition).addVariant variant] }

/-- Adding a variant never fails in a namespace that is open. -/
theorem ends_addVariant {commands : Namespace CommandDefinition}
    (opened : commands.phase = .initializing) (name : CommandName) (variant : CommandVariant) :
    Ends source run (addVariant commands name variant) fun placed after =>
      placed = place commands name variant ∧ Declared source [] run after := by
  cases known : commands.contains name.text with
  | true =>
    have updated : commands.update name.text (·.addVariant variant) =
        .ok (some (place commands name variant)) := by
      simp [Namespace.update, place, opened, known]
    refine .orFail updated ?_
    cases commands.get? name.text with
    | none => exact .pure ⟨rfl, .refl run⟩
    | some command =>
      exact (ends_noteAll _).bind fun _ _ noted => .pure ⟨rfl, noted⟩
  | false =>
    have absent : commands.update name.text (·.addVariant variant) = .ok none := by
      simp [Namespace.update, opened, known]
    refine .orFail absent ?_
    have added : commands.insert (({ name } : CommandDefinition).addVariant variant) =
        .ok (place commands name variant) := by
      have same : Named.name (({ name } : CommandDefinition).addVariant variant) = name.text := rfl
      simp [Namespace.insert, place, opened, same, known]
    rw [added]
    exact .pure ⟨rfl, .refl run⟩

theorem declarations_addVariant (command : CommandDefinition) (variant : CommandVariant) :
    (command.addVariant variant).declarations = command.declarations ++ variant.declarations := by
  unfold CommandDefinition.addVariant CommandDefinition.declarations
  simp only [List.flatMap_append, List.flatMap_singleton]
  congr 1
  split <;> rfl

theorem mem_declarations_changeFirst {name : String} {variant : CommandVariant}
    {commands : List CommandDefinition} {declaration : Declaration}
    (mem : declaration ∈ (Namespace.changeFirst name (·.addVariant variant) commands).flatMap
      CommandDefinition.declarations) :
    declaration ∈ commands.flatMap CommandDefinition.declarations ∨
      declaration ∈ variant.declarations := by
  induction commands with
  | nil => exact .inl mem
  | cons command rest ih =>
    unfold Namespace.changeFirst at mem
    split at mem
    · rw [List.flatMap_cons, declarations_addVariant] at mem
      simp only [List.flatMap_cons, List.mem_append] at mem ⊢
      tauto
    · rw [List.flatMap_cons, List.mem_append] at mem
      simp only [List.flatMap_cons, List.mem_append]
      rcases mem with mem | mem
      · exact .inl (.inl mem)
      · exact (ih mem).imp_left .inr

/-- Whatever the commands declare was declared before or by the variant. -/
theorem mem_declarations_place {commands : Namespace CommandDefinition} {name : CommandName}
    {variant : CommandVariant} {declaration : Declaration}
    (mem : declaration ∈ declarations (place commands name variant)) :
    declaration ∈ declarations commands ∨ declaration ∈ variant.declarations := by
  unfold declarations place at mem
  dsimp only at mem
  split at mem
  · exact mem_declarations_changeFirst mem
  · rw [List.flatMap_append, List.flatMap_singleton, declarations_addVariant] at mem
    simpa [declarations, CommandDefinition.declarations] using mem

/-! ## The namespaces -/

variable {earlier : List TypeRef} {service : Service}

/-- The types of the operations go to the namespace beside the commands, and whatever the commands
declare is registered if it is generated. -/
theorem ends_addAll (closed : source.model.Closed) {operations : List Operation}
    (inside : operations ⊆ source.model.operations) {spaces : CommandSpaces}
    (opened : spaces.commands.phase = .initializing)
    (h : Models.Draining source earlier spaces.models run) (idle : run.registry.pending = [])
    (named : Models.Named source run.registry spaces.models)
    (grounded : source.resolver.Foreign → ∀ declaration ∈ declarations spaces.commands,
      declaration.Grounded run.registry) :
    Ends source run (addAll service operations spaces) fun done after =>
      done.commands.phase = .initializing ∧ done.commands.fullName = spaces.commands.fullName ∧
      (source.resolver.Foreign → ∀ declaration ∈ declarations done.commands,
        declaration.Grounded after.registry) ∧
      ∃ defined declared, Models.Drained source earlier (operations.flatMap Operation.mentions)
        spaces.models run done.models after defined declared := by
  induction operations generalizing run spaces with
  | nil => exact .pure ⟨opened, rfl, grounded, [], [], .refl h idle named⟩
  | cons operation rest ih =>
    have here : operation ∈ source.model.operations := inside (by simp)
    refine (ends_defineVariant closed here _).bind ?_
    rintro variant defined ⟨first, known⟩
    refine (ends_note _).bind fun _ noted second => ?_
    refine (ends_addVariant opened _ variant).bind ?_
    rintro _ added ⟨rfl, third⟩
    have declared := (first.trans_nil second).trans_nil third
    refine (Models.ends_drainAll closed (h.declared declared)
      (named.mono declared.grew.kept)).bind ?_
    rintro models drained ⟨types, finished⟩
    have one := finished.declared (declared.met h.sound.distinct)
    rw [List.append_nil] at one
    have kept : source.resolver.Foreign → ∀ name, ∀ declaration ∈
        declarations (place spaces.commands name variant), declaration.Grounded drained.registry := by
      intro foreign name declaration mem
      rcases mem_declarations_place mem with mem | mem
      · exact (grounded foreign declaration mem).mono one.met.types
      · have later := (second.nil_trans third).grew.kept.trans finished.met.types
        exact (known foreign declaration mem).mono later
    have later : rest ⊆ source.model.operations := fun _ mem => inside (by simp [mem])
    refine Ends.mono (ih later opened one.draining one.idle one.named fun foreign => kept foreign _) ?_
    rintro done after ⟨phase, fullName, all, types', declared', more⟩
    exact ⟨phase, fullName, all, _, _, one.trans more⟩

/-- The keys that are read for the commands. -/
def keys : List SettingKey := [.optional String "prefix", .optional String "subject-prefix"]

/-- What building the namespaces of commands comes to: they are sealed, the types beside the commands are
those that the operations brought, and the faults of the keys are recorded before all else. -/
structure Built (source : Source) (config : Config) (service : Service) (earlier : List TypeRef)
    (run : Run) (done : CommandSpaces) (after : Run) : Prop where
  commands : done.commands.phase = .finalized
  models : done.models.phase = .finalized
  fullName : done.models.fullName = service.child "Cmdlets.Models"
  grounded : source.resolver.Foreign → ∀ declaration ∈ declarations done.commands,
    declaration.Grounded after.registry
  filled : ∃ opened declared, opened.registry = run.registry ∧
    opened.report.checkpoint =
      run.report.checkpoint.recordAll (keys.filterMap (·.fault? config)) ∧
    Models.Filled source earlier source.model.mentions declared opened done.models after

/-- **The namespaces of commands.** They are built without a failure that stops. -/
theorem ends_build (closed : source.model.Closed) {config : Config}
    (settled : Models.Settled source earlier run.registry) :
    Ends source run (build service config) (Built source config service earlier run) := by
  refine (ends_reads (reads_valueOr "prefix" "")).bind ?_
  rintro namePrefix first ⟨same, checkpoint⟩
  refine (ends_reads (reads_valueOr "subject-prefix" "")).bind ?_
  rintro subjectPrefix second ⟨same', checkpoint'⟩
  refine (ends_begin rfl).bind ?_
  rintro _ third ⟨rfl, begun⟩
  refine (ends_begin rfl).bind ?_
  rintro _ fourth ⟨rfl, begun'⟩
  refine (ends_setOwner _).bind ?_
  rintro _ owned ⟨owner, quiet⟩
  have registry : fourth.registry = run.registry := by
    rw [begun'.registry, begun.registry]
    exact same'.trans same
  have faults : fourth.report.checkpoint =
      run.report.checkpoint.recordAll (keys.filterMap (·.fault? config)) := by
    have split : keys = [.optional String "prefix"] ++ [.optional String "subject-prefix"] := rfl
    rw [split, List.filterMap_append, Checkpoint.recordAll_append, ← checkpoint, ← checkpoint',
      ← show third.report.checkpoint = second.report.checkpoint from begun.checkpoint]
    exact begun'.checkpoint
  rw [registry] at owner
  have ready : Models.Draining source earlier
      { fullName := service.child "Cmdlets.Models", phase := .initializing } owned :=
    settled.draining rfl rfl owner
  have idle : owned.registry.pending = [] := by
    rw [owner]
    exact settled.idle
  refine .read (Ends.bind (ends_addAll closed (fun _ mem => mem) rfl ready idle ⟨by simp, by simp⟩
    (by simp [declarations])) ?_)
  rintro done filled ⟨phase, -, grounded, defined, declared, drained⟩
  refine (ends_finalize (by rw [phase]; simp)).bind ?_
  rintro _ sealed ⟨rfl, fifth⟩
  refine (ends_finalize (by rw [drained.draining.phase]; simp)).bind ?_
  rintro _ after ⟨rfl, sixth⟩
  have rest := fifth.nil_trans sixth
  refine .pure ⟨rfl, rfl, drained.fullName, ?_, fourth, declared, registry, faults, ?_⟩
  · exact fun foreign declaration mem => (grounded foreign declaration mem).mono rest.grew.kept
  · have quiet : Met source [] fourth owned :=
      .idle (registry ▸ settled.distinct) (by rw [owner, registry]; rfl) quiet
    have filled := (drained.declared quiet).filled rfl
    exact filled.enter rest .finalized

end Commands
end CmdletForge
