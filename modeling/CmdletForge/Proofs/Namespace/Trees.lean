import CmdletForge.Proofs.Namespace.Commands

/-!
# Trees of one generation

The namespaces of a generation share its registry, whatever is built, in which order, and how often.
`Consistent` says how the trees and the registry fit together. One more call keeps this, and so it holds
after every call of a sequence.
-/

namespace CmdletForge

/-- A call that builds namespaces. -/
inductive Build where
  | models
  | commands (config : Config)

/-- What a call builds: the namespace of model types, or those of the commands and their types. -/
inductive Tree where
  | models (space : Namespace ModelDefinition)
  | commands (spaces : Commands.CommandSpaces)

namespace Tree

/-- The namespace of types of a tree. -/
def space : Tree → Namespace ModelDefinition
  | models space => space
  | commands spaces => spaces.models

/-- The types that a tree defines, each with the full name of its namespace. -/
def definitions (tree : Tree) : List (String × ModelDefinition) :=
  tree.space.definitions.map fun definition => (tree.space.fullName, definition)

/-- All declarations in a tree: those of properties, of parameters and of outputs. -/
def declarations (tree : Tree) : List Declaration :=
  tree.space.definitions.flatMap ModelDefinition.declarations ++
    match tree with
    | models _ => []
    | commands spaces => Commands.declarations spaces.commands

end Tree

namespace Build

/-- Makes a call. -/
def perform (service : Service) : Build → Synthesis Tree
  | models => return .models (← Models.build service)
  | commands config => return .commands (← Commands.build service config)

/-- Makes calls one after the other. The transcript has every tree, with the registry right after its
call. -/
def performAll (service : Service) : List Build → Synthesis (List (Tree × Registry))
  | [] => pure []
  | build :: rest => do
    let tree ← perform service build
    let registry := (← get).registry
    return (tree, registry) :: (← performAll service rest)

end Build

namespace Trees

/-- The types that trees define. -/
def definitions (trees : List Tree) : List (String × ModelDefinition) := trees.flatMap Tree.definitions

/-- All declarations in trees. -/
def declarations (trees : List Tree) : List Declaration := trees.flatMap Tree.declarations

/-- The trees of a generation fit its registry. -/
structure Consistent (trees : List Tree) (registry : Registry) : Prop where
  idle : registry.pending = []
  /-- Every registered type is defined once, in its namespace and under its name. -/
  defined : ∀ type ∈ registry.types,
    ((definitions trees).countP fun placed => placed.2.schema = type.schema) = 1 ∧
    ∃ placed ∈ definitions trees, placed.2.reference placed.1 = type ∧
      placed.2.fullName = placed.1 ++ "." ++ placed.2.name
  distinct : ((definitions trees).map fun placed => placed.2.fullName).Nodup
  /-- What is declared as generated is defined. -/
  known : ∀ declaration ∈ declarations trees, ∀ type, declaration.generated = some type →
    ∃ placed ∈ definitions trees, placed.2.reference placed.1 = type

/-- After every call of a transcript, the trees so far fit the registry. -/
def AlwaysConsistent : (trees : List Tree) → List (Tree × Registry) → Prop
  | _, [] => True
  | trees, (tree, registry) :: rest =>
    Consistent (trees ++ [tree]) registry ∧ AlwaysConsistent (trees ++ [tree]) rest

variable {source : Source} {trees : List Tree} {run : Run} {service : Service}

/-- The types of trees, in order. -/
def references (trees : List Tree) : List TypeRef :=
  trees.flatMap fun tree => Models.references tree.space

/-- What every call keeps: the types of the trees are the registered ones, in order, under their full
names, and what is declared is registered if it is generated. -/
structure Kept (source : Source) (trees : List Tree) (registry : Registry) : Prop where
  settled : Models.Settled source (references trees) registry
  fullName : ∀ placed ∈ definitions trees, placed.2.fullName = placed.1 ++ "." ++ placed.2.name
  grounded : ∀ declaration ∈ declarations trees, declaration.Grounded registry

theorem map_reference_definitions :
    (definitions trees).map (fun placed => placed.2.reference placed.1) = references trees := by
  simp [definitions, references, Tree.definitions, Models.references, List.map_flatMap,
    Function.comp_def]

theorem Kept.consistent {registry : Registry} (kept : Kept source trees registry) :
    Consistent trees registry := by
  have types : registry.types =
      (definitions trees).map fun placed => placed.2.reference placed.1 := by
    rw [map_reference_definitions, kept.settled.types]
  have ids : registry.ids = (definitions trees).map fun placed => placed.2.schema := by
    rw [Registry.ids, types, List.map_map]
    rfl
  refine ⟨kept.settled.idle, fun type mem => ⟨?_, ?_⟩, ?_, ?_⟩
  · have once := List.count_eq_one_of_mem kept.settled.distinct (List.mem_map_of_mem mem)
    rw [ids, List.count, List.countP_map] at once
    refine Eq.trans (List.countP_congr fun placed _ => ?_) once
    simp
  · rw [types] at mem
    obtain ⟨placed, inside, same⟩ := List.mem_map.1 mem
    exact ⟨placed, inside, same, kept.fullName placed inside⟩
  · have names : ((definitions trees).map fun placed => placed.2.fullName) =
        registry.types.map TypeRef.fullName := by
      rw [types, List.map_map]
      exact List.map_congr_left kept.fullName
    rw [names]
    refine List.Nodup.map_on ?_ (List.Nodup.of_map _ kept.settled.distinct)
    intro type mem type' mem' same
    by_contra differ
    refine (kept.settled.sound.separate mem mem' fun schema => differ ?_).2 same
    exact List.inj_on_of_nodup_map kept.settled.distinct mem mem' schema
  · intro declaration mem type generated
    have registered := kept.grounded declaration mem type generated
    rw [types] at registered
    obtain ⟨placed, inside, same⟩ := List.mem_map.1 registered
    exact ⟨placed, inside, same⟩

/-- One more filled tree. -/
theorem Kept.add (kept : Kept source trees run.registry) {tree : Tree} {after opened : Run}
    {roots declared : List SchemaId} (same : opened.registry = run.registry)
    (filled : Models.Filled source (references trees) roots declared opened tree.space after)
    (grounded : ∀ declaration ∈ tree.declarations, declaration.Grounded after.registry) :
    Kept source (trees ++ [tree]) after.registry := by
  refine ⟨?_, ?_, ?_⟩
  · simpa [references] using filled.settled
  · intro placed mem
    unfold definitions at mem
    rw [List.flatMap_append, List.flatMap_singleton] at mem
    rcases List.mem_append.1 mem with mem | mem
    · exact kept.fullName placed mem
    · obtain ⟨definition, its, rfl⟩ := List.mem_map.1 mem
      exact filled.named.fullName definition its
  · intro declaration mem
    unfold declarations at mem
    rw [List.flatMap_append, List.flatMap_singleton] at mem
    rcases List.mem_append.1 mem with mem | mem
    · refine (kept.grounded declaration mem).mono ?_
      rw [← same]
      exact filled.met.types
    · exact grounded declaration mem

/-- **One call.** It ends, and its tree joins the others. -/
theorem Kept.perform (closed : source.model.Closed) (foreign : source.resolver.Foreign)
    (kept : Kept source trees run.registry) (build : Build) :
    Synthesis.Ends source run (build.perform service) fun tree after =>
      Kept source (trees ++ [tree]) after.registry := by
  cases build with
  | models =>
    refine (Models.ends_build closed kept.settled).bind ?_
    rintro space after ⟨-, -, filled⟩
    refine .pure (kept.add rfl filled fun declaration mem => ?_)
    simp only [Tree.declarations, Tree.space, List.append_nil] at mem
    obtain ⟨definition, its, mem⟩ := List.mem_flatMap.1 mem
    exact filled.named.grounded foreign definition its declaration mem
  | commands config =>
    refine (Commands.ends_build closed kept.settled).bind ?_
    intro spaces after built
    obtain ⟨opened, declared, same, -, filled⟩ := built.filled
    refine .pure (kept.add same filled fun declaration mem => ?_)
    rcases List.mem_append.1 mem with mem | mem
    · obtain ⟨definition, its, mem⟩ := List.mem_flatMap.1 mem
      exact filled.named.grounded foreign definition its declaration mem
    · exact built.grounded foreign declaration mem

theorem Kept.performAll (closed : source.model.Closed) (foreign : source.resolver.Foreign)
    (kept : Kept source trees run.registry) (calls : List Build) :
    Synthesis.Ends source run (Build.performAll service calls) fun transcript _ =>
      transcript.length = calls.length ∧ AlwaysConsistent trees transcript := by
  induction calls generalizing trees run with
  | nil => exact .pure ⟨rfl, trivial⟩
  | cons build rest ih =>
    refine (kept.perform closed foreign build).bind fun tree after next => .get ?_
    refine (ih next).bind ?_
    rintro transcript last ⟨length, later⟩
    exact .pure ⟨by simp [length], next.consistent, later⟩

/-- **Any calls.** In a closed model, where no override declares a generated type, any calls on a fresh
context end, and after every one of them the trees so far fit the registry. -/
theorem performAll_alwaysConsistent {model : Model} (closed : model.Closed) {resolver : Resolver}
    (foreign : resolver.Foreign) (service : Service) (owner : String) (report : Report)
    (calls : List Build) :
    Synthesis.Ends ⟨model, resolver⟩ { registry := { owner }, report }
      (Build.performAll service calls) fun transcript _ =>
      transcript.length = calls.length ∧ AlwaysConsistent [] transcript := by
  have start : Kept ⟨model, resolver⟩ [] { owner } :=
    ⟨.empty _ owner, by simp [definitions], by simp [declarations]⟩
  exact start.performAll closed foreign calls

/-- Builds of both kinds, repeated, over types on a cycle that both kinds reach. -/
theorem petStore_alwaysConsistent :
    petStore.Closed ∧ (⟨[.switch]⟩ : Resolver).Foreign ∧
      Synthesis.Ends ⟨petStore, ⟨[.switch]⟩⟩ { registry := { owner := "" }, report := {} }
        (Build.performAll ⟨"Pets", "PetStore"⟩ [.commands {}, .models, .commands {}, .models])
        fun transcript _ => transcript.length = 4 ∧ AlwaysConsistent [] transcript := by
  have foreign : (⟨[.switch]⟩ : Resolver).Foreign := by
    intro override mem schema required
    obtain rfl := List.mem_singleton.1 mem
    rfl
  exact ⟨by decide, foreign, performAll_alwaysConsistent (by decide) foreign _ _ _ _⟩

end Trees
end CmdletForge
