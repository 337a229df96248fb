import CmdletForge.Proofs.Namespace.Beginnings
import CmdletForge.Proofs.Namespace.ClassNames

/-!
# Members are told apart by their names

The properties of a type and the variants of a command are found by their names. Both get their names in a row,
each beside those before it, so no two of them share one, whatever the numbers lead to. A variant that is named
anew has its class named anew: `variants_ofVariants` says what variants that are added one after the other come
to, and no other way leads to a command.
-/

namespace CmdletForge

open Naming Synthesis

/-! ## The variants of a command -/

/-- The class of a variant is named after a command and after the variant. -/
def CommandVariant.NamedIn (name : CommandName) (variant : CommandVariant) : Prop :=
  variant.className = name.verb ++ name.noun ++ "_" ++ variant.name

/-- A variant under another name, with its class. -/
def CommandVariant.under (name : CommandName) (unique : String) (variant : CommandVariant) : CommandVariant :=
  { variant with name := unique, className := name.verb ++ name.noun ++ "_" ++ unique }

namespace CommandDefinition

variable {command : CommandDefinition} {name : CommandName} {variant : CommandVariant}
  {variants : List CommandVariant}

/-- The variants of a command have different names, and their classes are named after the command and them. -/
structure VariantsApart (command : CommandDefinition) : Prop where
  distinct : (command.variants.map (·.name)).Nodup
  classNames : ∀ variant ∈ command.variants,
    variant.className = command.name.verb ++ command.name.noun ++ "_" ++ variant.name

/-- A command whose variants were added one after the other. -/
def ofVariants (name : CommandName) (variants : List CommandVariant) : CommandDefinition :=
  variants.foldl addVariant { name }

/-- **One more variant.** It goes to the end, under a name that is free. -/
theorem addVariant_eq_under (its : variant.NamedIn command.name) :
    command.addVariant variant =
      { command with variants :=
          command.variants ++ [variant.under command.name (command.variantName variant.name)] } := by
  unfold addVariant
  dsimp only
  split
  next same =>
    -- The name is free, and the class has it already.
    rw [same, CommandVariant.under, ← its]
  next => rfl

theorem name_ofVariants (name : CommandName) (variants : List CommandVariant) :
    (ofVariants name variants).name = name := by
  induction variants using List.reverseRecOn with
  | nil => rfl
  | append_singleton variants variant ih =>
    rw [ofVariants, List.foldl_concat]
    exact ih

theorem length_names (variants : List CommandVariant) :
    (uniqueNames [] (variants.map (·.name))).length = variants.length := by
  rw [length_uniqueNames, List.length_map]

theorem map_name_under (name : CommandName) (variants : List CommandVariant) :
    (((uniqueNames [] (variants.map (·.name))).zip variants).map fun entry =>
      entry.2.under name entry.1).map (·.name) = uniqueNames [] (variants.map (·.name)) := by
  rw [List.map_map]
  exact List.map_fst_zip (Nat.le_of_eq (length_names variants))

/-- **All variants.** They are those that were added, in order, each under the name that it gets beside those
before it. -/
theorem variants_ofVariants (its : ∀ variant ∈ variants, variant.NamedIn name) :
    (ofVariants name variants).variants =
      ((uniqueNames [] (variants.map (·.name))).zip variants).map fun entry => entry.2.under name entry.1 := by
  induction variants using List.reverseRecOn with
  | nil => rfl
  | append_singleton variants variant ih =>
    obtain ⟨others, last⟩ := List.forall_mem_append.1 its
    have own := name_ofVariants name variants
    have before := ih others
    have taken : (ofVariants name variants).variants.map (·.name) =
        uniqueNames [] (variants.map (·.name)) := by
      rw [before, map_name_under]
    have here : variant.NamedIn (ofVariants name variants).name := by
      rw [own]
      exact last variant (List.mem_singleton_self variant)
    have step : ofVariants name (variants ++ [variant]) = (ofVariants name variants).addVariant variant :=
      List.foldl_concat ..
    rw [step, addVariant_eq_under here, own, variantName, taken, before, List.map_append, List.map_singleton,
      uniqueNames_append, List.append_nil, uniqueNames, uniqueNames, uniqueName_reverse,
      List.zip_append (length_names variants), List.map_append]
    rfl

/-- Variants that are added one after the other are told apart by their names. -/
theorem variantsApart_ofVariants (its : ∀ variant ∈ variants, variant.NamedIn name) :
    (ofVariants name variants).VariantsApart := by
  have whole := variants_ofVariants its
  constructor
  · rw [whole, map_name_under]
    exact (nodup_uniqueNames [] _).1
  · intro variant mem
    rw [whole] at mem
    obtain ⟨entry, -, rfl⟩ := List.mem_map.1 mem
    rw [name_ofVariants]
    rfl

/-- A command that adding variants leads to. -/
def Composed (command : CommandDefinition) : Prop :=
  ∃ variants, (∀ variant ∈ variants, variant.NamedIn command.name) ∧ command = ofVariants command.name variants

theorem composed_start (name : CommandName) : Composed { name } := ⟨[], by simp, rfl⟩

theorem Composed.addVariant (composed : command.Composed) (its : variant.NamedIn command.name) :
    (command.addVariant variant).Composed := by
  obtain ⟨variants, named, same⟩ := composed
  have all : ∀ other ∈ variants ++ [variant], other.NamedIn command.name :=
    List.forall_mem_append.2 ⟨named, List.forall_mem_singleton.2 its⟩
  refine ⟨variants ++ [variant], all, ?_⟩
  calc command.addVariant variant = (ofVariants command.name variants).addVariant variant := by rw [← same]
    _ = ofVariants command.name (variants ++ [variant]) := (List.foldl_concat ..).symm

theorem Composed.variantsApart (composed : command.Composed) : command.VariantsApart := by
  obtain ⟨variants, named, same⟩ := composed
  rw [same]
  exact variantsApart_ofVariants named

end CommandDefinition

namespace Commands

variable {source : Source} {run : Run}

/-- Commands in groups that adding variants leads to. -/
structure ComposedGroups (name : Operation → CommandName) (operations : List Operation)
    (commands : List CommandDefinition) : Prop where
  groups : Groups (fun _ _ => True) name operations commands
  composed : ∀ command ∈ commands, command.Composed

/-- Every operation adds a variant to a command. -/
theorem invariant_composed (source : Source) (service : Service) (namePrefix subjectPrefix : String) :
    Invariant source (nameOf service namePrefix subjectPrefix)
      (fun operation variant => variant.NamedIn (nameOf service namePrefix subjectPrefix operation))
      (ComposedGroups (nameOf service namePrefix subjectPrefix)) := by
  refine ⟨⟨.empty, by simp⟩, fun run operation => ?_, fun earlier operation commands variant holds its => ?_⟩
  · exact (Yields.any _).bind fun parameters _ _ => (Yields.any _).bind fun output _ _ => .pure rfl
  · refine ⟨holds.groups.place nameOf_inj fun _ _ => trivial, ?_⟩
    refine holds.groups.forall_mem_place nameOf_inj (CommandDefinition.composed_start _) ?_ holds.composed
    intro command own composed
    rw [← own] at its
    exact composed.addVariant its

end Commands

namespace ModelCommands

variable {source : Source} {run : Run}

theorem yields_composed_addAll {spaces : Commands.CommandSpaces} {models : List ModelDefinition}
    {space : Namespace CommandDefinition} (holds : ∀ command ∈ space.definitions, command.Composed) :
    Yields source run (addAll spaces models space) fun done _ =>
      ∀ command ∈ done.definitions, command.Composed := by
  induction models generalizing run space with
  | nil => exact .pure holds
  | cons model rest ih =>
    refine (Yields.any _).bind fun _ noted _ => .orFail fun grown added => ih ?_
    obtain rfl := Namespace.insert_ok added
    intro command mem
    rcases List.mem_append.1 mem with mem | mem
    · exact holds command mem
    · obtain rfl := List.mem_singleton.1 mem
      exact (CommandDefinition.composed_start _).addVariant rfl

/-- The command of a class has one variant, which was added to it. -/
theorem yields_composed_build (service : Service) (models : Namespace ModelDefinition)
    (spaces : Commands.CommandSpaces) :
    Yields source run (build (start service) models spaces) fun done _ =>
      ∀ command ∈ done.definitions, command.Composed := by
  refine yields_begin.bind ?_
  rintro _ opened ⟨rfl, -⟩
  refine (yields_composed_addAll (by simp [start])).bind fun filled added holds => ?_
  refine yields_finalize.mono ?_
  rintro _ after ⟨rfl, -⟩
  exact holds

end ModelCommands

/-! ## The properties of types -/

/-- The properties of a type have different names, and none is empty. -/
structure ModelDefinition.PropertiesApart (definition : ModelDefinition) : Prop where
  nonempty : ∀ property ∈ definition.properties, property.name ≠ ""
  distinct : (definition.properties.map (·.name)).Nodup

section Properties

variable {source : Source} {run : Run} {service : Service}

namespace Models

theorem yields_propertiesApart (type : TypeRef) (schema : Schema) :
    Yields source run (define type schema) fun definition _ => definition.PropertiesApart := by
  refine (yields_titled type schema).mono ?_
  rintro definition after ⟨-, titled⟩
  exact ⟨fun property mem => (titled.begins property mem).nonempty, titled.apart.distinct⟩

theorem yields_propertiesApart_drainAll {space : Namespace ModelDefinition}
    (holds : ∀ definition ∈ space.definitions, definition.PropertiesApart) :
    Yields source run (drainAll space) fun done _ =>
      ∀ definition ∈ done.definitions, definition.PropertiesApart := by
  refine .read ((yields_added fun _ type schema _ => yields_propertiesApart type schema).mono ?_)
  rintro done after ⟨added, same, others⟩
  rw [same]
  exact List.forall_mem_append.2 ⟨holds, others⟩

theorem yields_propertiesApart_build :
    Yields source run (build service) fun space _ =>
      ∀ definition ∈ space.definitions, definition.PropertiesApart := by
  refine yields_begin.bind ?_
  rintro _ opened ⟨rfl, -⟩
  refine (Yields.any _).bind fun _ owned _ => .read ((Yields.any _).bind fun _ visited _ => ?_)
  refine (yields_propertiesApart_drainAll (by simp)).bind fun done drained holds => ?_
  refine yields_finalize.mono ?_
  rintro _ after ⟨rfl, -⟩
  exact holds

end Models

namespace Commands

theorem yields_propertiesApart_addAll {operations : List Operation} {spaces : CommandSpaces}
    (holds : ∀ definition ∈ spaces.models.definitions, definition.PropertiesApart) :
    Yields source run (addAll service operations spaces) fun done _ =>
      ∀ definition ∈ done.models.definitions, definition.PropertiesApart := by
  induction operations generalizing run spaces with
  | nil => exact .pure holds
  | cons operation rest ih =>
    refine (Yields.any _).bind fun variant defined _ => (Yields.any _).bind fun _ noted _ => ?_
    refine (Yields.any _).bind fun commands added _ => ?_
    exact (Models.yields_propertiesApart_drainAll holds).bind fun models drained holds => ih holds

theorem yields_propertiesApart_build (config : Config) :
    Yields source run (build service config) fun spaces _ =>
      ∀ definition ∈ spaces.models.definitions, definition.PropertiesApart := by
  refine (Yields.any _).bind fun namePrefix first _ => (Yields.any _).bind fun subjectPrefix second _ => ?_
  refine (Yields.any _).bind fun commands third _ => yields_begin.bind ?_
  rintro _ fourth ⟨rfl, -⟩
  refine (Yields.any _).bind fun _ owned _ => .read ?_
  refine Yields.bind (yields_propertiesApart_addAll (by simp)) fun done filled holds => ?_
  refine (Yields.any _).bind fun commands' sealed _ => yields_finalize.bind ?_
  rintro _ after ⟨rfl, -⟩
  exact .pure holds

end Commands
end Properties

/-! ## Generations -/

namespace Trees

variable {source : Source} {run : Run} {service : Service}

/-- The members of what a call builds are told apart by their names: the properties of the types, and the
variants of the commands. -/
structure MembersApart (source : Source) (service : Service) (tree : Tree) : Prop where
  properties : ∀ definition ∈ tree.space.definitions, definition.PropertiesApart
  variants : ∀ command ∈ tree.commandDefinitions, command.Composed ∧ command.VariantsApart
  /-- So are those of the commands that make objects of the types of the tree. -/
  modelCommands : ∀ run spaces,
    Yields source run (ModelCommands.build (ModelCommands.start service) tree.space spaces) fun done _ =>
      ∀ command ∈ done.definitions, command.Composed ∧ command.VariantsApart

theorem MembersApart.of_composed {tree : Tree}
    (properties : ∀ definition ∈ tree.space.definitions, definition.PropertiesApart)
    (composed : ∀ command ∈ tree.commandDefinitions, command.Composed) : MembersApart source service tree := by
  refine ⟨properties, fun command mem => ?_, fun run spaces => ?_⟩
  · exact ⟨composed command mem, (composed command mem).variantsApart⟩
  · refine (ModelCommands.yields_composed_build service tree.space spaces).mono fun done _ composed => ?_
    exact fun command mem => ⟨composed command mem, (composed command mem).variantsApart⟩

theorem yields_membersApart_perform (build : Build) :
    Yields source run (build.perform service) fun tree _ => MembersApart source service tree := by
  cases build with
  | models =>
    refine Models.yields_propertiesApart_build.bind fun space after properties => .pure ?_
    exact .of_composed properties (by simp [Tree.commandDefinitions])
  | commands config =>
    have both : Yields source run (Commands.build service config) fun spaces _ =>
        (∀ definition ∈ spaces.models.definitions, definition.PropertiesApart) ∧
          ∀ command ∈ spaces.commands.definitions, command.Composed :=
      fun spaces after ran => ⟨Commands.yields_propertiesApart_build config spaces after ran,
        ((Commands.invariant_composed source service _ _).yields_build spaces after ran).composed⟩
    refine both.bind ?_
    rintro spaces after ⟨properties, composed⟩
    exact .pure (.of_composed properties composed)

theorem yields_membersApart_performAll (calls : List Build) :
    Yields source run (Build.performAll service calls) fun transcript _ =>
      ∀ entry ∈ transcript, MembersApart source service entry.1 := by
  induction calls generalizing run with
  | nil => exact .pure (by simp)
  | cons build rest ih =>
    refine (yields_membersApart_perform build).bind fun tree after apart => .get ?_
    refine ih.bind fun transcript last others => .pure ?_
    exact List.forall_mem_cons.2 ⟨apart, others⟩

/-- **Members.** Whatever is built, in whatever order and state, the properties of every type have different
names and none is empty, and the variants of every command have different names and classes that are named
after these. In a closed model the calls end. Any variants lead to such a command, and all of them are in it. -/
theorem performAll_membersApart (source : Source) (run : Run) (service : Service) (calls : List Build) :
    Yields source run (Build.performAll service calls) (fun transcript _ =>
      ∀ entry ∈ transcript, MembersApart source service entry.1) ∧
    (source.model.Closed → ∀ earlier, Models.Settled source earlier run.registry →
      Ends source run (Build.performAll service calls) fun transcript _ =>
        transcript.length = calls.length ∧ ∀ entry ∈ transcript, MembersApart source service entry.1) ∧
    ∀ (name : CommandName) (variants : List CommandVariant), (∀ variant ∈ variants, variant.NamedIn name) →
      (CommandDefinition.ofVariants name variants).VariantsApart ∧
      (CommandDefinition.ofVariants name variants).variants =
        ((uniqueNames [] (variants.map (·.name))).zip variants).map fun entry =>
          entry.2.under name entry.1 := by
  have apart : Yields source run (Build.performAll service calls) fun transcript _ =>
      ∀ entry ∈ transcript, MembersApart source service entry.1 := yields_membersApart_performAll calls
  refine ⟨apart, fun closed earlier settled => ?_, fun name variants named => ⟨?_, ?_⟩⟩
  · obtain ⟨transcript, after, ran, length⟩ := ends_performAll closed settled calls
    exact ⟨transcript, after, ran, length, apart transcript after ran⟩
  · exact CommandDefinition.variantsApart_ofVariants named
  · exact CommandDefinition.variants_ofVariants named

/-- Three properties of a class, and three operations of a command. The last of each would be numbered as the one
before it is called. -/
def leashes : Model where
  schemas :=
    [{ kind := .primitive .string, path := "schemas/Leash/properties/size" },
      { kind := .object, path := "schemas/Leash", name := some "Leash",
        properties := [⟨"size", 0⟩, ⟨"size1", 0⟩, ⟨"Size", 0⟩] }]
  table := [("Leash", 1)]
  operations := [{ id := "Leash_get" }, { id := "Leash_get_1" }, { id := "leash_get" }]

/-- A variant of the command of the three operations. -/
def leashVariant (name : String) : CommandVariant :=
  { name, operation := none, className := "GetLeash_" ++ name, parameters := [], output := none,
    description := none }

theorem leashes_membersApart :
    (leashes.Closed ∧ Models.Settled ⟨leashes, ⟨[]⟩⟩ [] { owner := "" } ∧
      Ends ⟨leashes, ⟨[]⟩⟩ { registry := { owner := "" } }
        (Build.performAll ⟨"Api", "Api"⟩ [.models, .commands {}]) fun transcript _ =>
          transcript.length = 2 ∧
            ∀ entry ∈ transcript, MembersApart ⟨leashes, ⟨[]⟩⟩ ⟨"Api", "Api"⟩ entry.1) ∧
    (∀ variant ∈ ["LeashGet", "LeashGet1", "LeashGet"].map leashVariant, variant.NamedIn ⟨"Get", "Leash"⟩) ∧
      (CommandDefinition.ofVariants ⟨"Get", "Leash"⟩
        (["LeashGet", "LeashGet1", "LeashGet"].map leashVariant)).VariantsApart ∧
      (CommandDefinition.ofVariants ⟨"Get", "Leash"⟩
        (["LeashGet", "LeashGet1", "LeashGet"].map leashVariant)).variants =
          ["LeashGet", "LeashGet1", "LeashGet2"].map leashVariant := by
  have closed : leashes.Closed := by decide
  have named : ∀ variant ∈ ["LeashGet", "LeashGet1", "LeashGet"].map leashVariant,
      variant.NamedIn ⟨"Get", "Leash"⟩ := by
    intro variant mem
    obtain ⟨name, -, rfl⟩ := List.mem_map.1 mem
    exact congrArg (· ++ name) (by decide : "GetLeash_" = "Get" ++ "Leash" ++ "_")
  obtain ⟨-, ends, built⟩ := performAll_membersApart ⟨leashes, ⟨[]⟩⟩ { registry := { owner := "" } }
    ⟨"Api", "Api"⟩ [.models, .commands {}]
  obtain ⟨apart, whole⟩ := built _ _ named
  refine ⟨⟨closed, .empty _ _, ends closed [] (.empty _ _)⟩, named, apart, ?_⟩
  rw [whole]
  decide +kernel

end Trees
end CmdletForge
