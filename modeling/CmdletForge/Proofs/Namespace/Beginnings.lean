import CmdletForge.Namespace.ModelCommands
import CmdletForge.Proofs.Generation.NewTypes
import CmdletForge.Proofs.Namespace.Growth
import CmdletForge.Proofs.Namespace.Parameters
import CmdletForge.Proofs.Namespace.Properties
import CmdletForge.Proofs.Namespace.Trees
import CmdletForge.Proofs.Naming.Beginnings

/-!
# How the names of types and members begin

Types, properties and parameters are named by three rules, each with a fallback of its own, and each keeps
its names apart by numbers. Whatever the model calls things, no name is empty, and each begins with the first
letter or number of what it was made of, made a capital. That is also where names can go wrong: there is a
fallback for names without words, but none for a word that begins with a digit.
-/

namespace CmdletForge

open Naming

/-! ## Single definitions -/

/-- A type begins as its schema is called. -/
def TypeRef.BeginsIn (model : Model) (type : TypeRef) : Prop :=
  ∃ schema, model.schema? type.schema = some schema ∧ Begins schema.beginning? type.name

theorem TypeRef.Made.beginsIn {model : Model} {type : TypeRef} (made : type.Made model) :
    type.BeginsIn model := by
  obtain ⟨registry, schema, found, same⟩ := made
  refine ⟨schema, found, ?_⟩
  rw [same]
  exact schema.begins_typeName.uniqueName _

/-- A definition and its properties begin as the schema and its properties are called. -/
structure ModelDefinition.BeginsIn (model : Model) (definition : ModelDefinition) : Prop where
  type : ∃ schema, model.schema? definition.schema = some schema ∧ Begins schema.beginning? definition.name
  properties : ∀ property ∈ definition.properties, Begins (firstOf property.wireName) property.name

theorem Models.begins_propertyCandidate (wireName typeName : String) :
    Begins (firstOf wireName) (propertyCandidate wireName typeName) := by
  have word : Begins none "Property" := .of_word rfl (by decide) (by decide +kernel)
  have name := begins_pascalOr word wireName
  unfold propertyCandidate
  dsimp only
  split
  · exact name.append _
  · exact name

theorem ModelDefinition.Titled.begins {schema : Schema} {definition : ModelDefinition}
    (titled : definition.Titled schema) :
    ∀ property ∈ definition.properties, Begins (firstOf property.wireName) property.name :=
  .of_uniqueNames titled.names fun _ _ => Models.begins_propertyCandidate _ _

/-- The parameters of a variant begin as those of its operation are called. -/
def CommandVariant.ParametersBegin (variant : CommandVariant) : Prop :=
  ∀ parameter ∈ variant.parameters, Begins (firstOf parameter.wireName) parameter.name

/-- The parameters of all variants of a command do. -/
def CommandDefinition.ParametersBegin (command : CommandDefinition) : Prop :=
  ∀ variant ∈ command.variants, variant.ParametersBegin

theorem Commands.Listed.begins {taken : List String} {kept : List Parameter}
    {defined : List ParameterDefinition} (listed : Listed taken kept defined) :
    ∀ definition ∈ defined, Begins (firstOf definition.wireName) definition.name := by
  have candidates : kept.map (fun parameter => pascalOr "Parameter" parameter.name) =
      defined.map fun definition => pascalOr "Parameter" definition.wireName := by
    rw [← List.forall₂_eq_eq_eq, List.forall₂_map_left_iff, List.forall₂_map_right_iff]
    exact listed.each.imp fun _ _ its => by rw [its.1]
  have word : Begins none "Parameter" := .of_word rfl (by decide) (by decide +kernel)
  have names := listed.names
  rw [candidates] at names
  exact .of_uniqueNames names fun definition _ => begins_pascalOr word definition.wireName

/-! ## Steps that register -/

open Synthesis

variable {source : Source} {run : Run}

theorem Synthesis.registers_declare? (id : SchemaId) (required : Bool) :
    Registers source (declare? id required) :=
  .of_declared fun _ => (Commands.yields_declares id required).mono fun _ _ => And.left

namespace Models

theorem registers_defineProperties (schema : Schema) (typeName : String) (taken : List String)
    (properties : List Property) :
    Registers source (defineProperties schema typeName taken properties) := by
  induction properties generalizing taken with
  | nil => exact .pure _
  | cons property rest ih =>
    refine (registers_declare? _ _).bind fun answer => ?_
    cases answer with
    | none => exact ih _
    | some declaration => exact .noteIf (.schema fun _ => (ih _).bind fun _ => .pure _)

theorem registers_declareVariants (variants : List SchemaId) :
    Registers source (declareVariants variants) := by
  induction variants with
  | nil => exact .pure _
  | cons id rest ih =>
    refine (registers_declare? _ _).bind fun answer => ?_
    cases answer with
    | none => exact ih
    | some declaration => exact ih.bind fun _ => .pure _

theorem registers_define (type : TypeRef) (schema : Schema) : Registers source (define type schema) := by
  unfold define
  cases schema.kind with
  | enumeration => exact .pure _
  | union => exact (registers_declareVariants _).bind fun _ => .pure _
  | _ => exact (registers_defineProperties _ _ _ _).bind fun _ => .pure _

theorem registers_visit (entries : List (String × SchemaId)) : Registers source (visit entries) := by
  induction entries with
  | nil => exact .pure _
  | cons entry rest ih =>
    refine (registers_note _).bind fun _ => ?_
    exact Registers.bind ((registers_declare? _ _).bind fun _ => .pure _) fun _ => ih

/-! ## The namespaces of types -/

/-- All types that are registered, and all that are defined, begin as they are called. -/
structure Begun (model : Model) (registry : Registry) (space : Namespace ModelDefinition) : Prop where
  types : ∀ type ∈ registry.types, type.BeginsIn model
  definitions : ∀ definition ∈ space.definitions, definition.BeginsIn model

theorem Begun.adds {model : Model} {before after : Registry} {space : Namespace ModelDefinition}
    (begun : Begun model before space) (adds : before.Adds model after) : Begun model after space := by
  refine ⟨fun type mem => ?_, begun.definitions⟩
  rcases adds type mem with mem | made
  · exact begun.types type mem
  · exact made.beginsIn

/-- A definition of a registered type. -/
theorem yields_begins {type : TypeRef} (begins : type.BeginsIn source.model) (schema : Schema) :
    Yields source run (define type schema) fun definition _ => definition.BeginsIn source.model := by
  intro definition after ran
  have defines := yields_defines type schema definition after ran
  have titled := yields_titled type schema definition after ran
  refine ⟨?_, titled.2.begins⟩
  rw [defines.schema, defines.name]
  exact begins

theorem yields_begun {steps : Nat} {space : Namespace ModelDefinition}
    (begun : Begun source.model run.registry space) :
    Yields source run (drain steps space) fun done after => Begun source.model after.registry done := by
  induction steps generalizing run space with
  | zero => exact .pure begun
  | succ steps ih =>
    refine (registers_nextPending run).bind fun next handed first => ?_
    have begun := begun.adds first
    cases next with
    | none => exact .pure begun
    | some id =>
      refine .get ?_
      split
      next => exact ih begun
      next type found =>
        have known := begun.types type (Registry.lookup_spec found).1
        refine .schema fun schema _ => (registers_note _ handed).bind fun _ noted second => ?_
        refine ((registers_define type schema).and (yields_begins known schema)).bind ?_
        rintro definition defined ⟨third, begins⟩
        refine .orFail fun grown added => ih ?_
        obtain rfl := Namespace.insert_ok added
        obtain ⟨types, definitions⟩ := begun.adds (second.trans third)
        refine ⟨types, fun other mem => ?_⟩
        rcases List.mem_append.1 mem with mem | mem
        · exact definitions other mem
        · obtain rfl := List.mem_singleton.1 mem
          exact begins

theorem yields_begun_build {service : Service}
    (types : ∀ type ∈ run.registry.types, type.BeginsIn source.model) :
    Yields source run (build service) fun space after => Begun source.model after.registry space := by
  refine ((registers_begin _).and yields_begin).bind ?_
  rintro _ opened ⟨first, rfl, -⟩
  refine (registers_setOwner _ opened).bind fun _ owned second => .read ?_
  refine (registers_visit _ owned).bind fun _ visited third => ?_
  have start : Begun source.model run.registry
      { fullName := service.child "Models", phase := .initializing } := ⟨types, by simp⟩
  refine Yields.bind (.read (yields_begun (start.adds (first.trans (second.trans third))))) ?_
  intro done drained begun
  refine ((registers_finalize _).and yields_finalize).mono ?_
  rintro _ after ⟨fourth, rfl, -⟩
  exact ⟨(begun.adds fourth).types, begun.definitions⟩

end Models

/-! ## The namespaces of commands -/

namespace Commands

theorem registers_defineVariant (operation : Operation) (name : CommandName) :
    Registers source (defineVariant operation name) := by
  have parameters : Registers source (defineParameters operation.id [] 0 operation.parameters) :=
    .of_declared fun _ => (yields_bound _).mono fun _ _ bound => bound.declared
  have output : Registers source (declareOutput operation.response) := .of_declared fun _ => yields_output _
  exact parameters.bind fun _ => output.bind fun _ => .pure _

theorem registers_addVariant (commands : Namespace CommandDefinition) (name : CommandName)
    (variant : CommandVariant) : Registers source (addVariant commands name variant) :=
  .of_declared fun _ => (yields_addVariant commands name variant).mono fun _ _ => And.right

theorem yields_begun_addAll {service : Service} {operations : List Operation} {spaces : CommandSpaces}
    (begun : Models.Begun source.model run.registry spaces.models) :
    Yields source run (addAll service operations spaces) fun done after =>
      Models.Begun source.model after.registry done.models := by
  induction operations generalizing run spaces with
  | nil => exact .pure begun
  | cons operation rest ih =>
    refine (registers_defineVariant _ _ run).bind fun variant defined first => ?_
    refine (registers_note _ defined).bind fun _ noted second => ?_
    refine (registers_addVariant _ _ _ noted).bind fun commands added third => ?_
    have begun := begun.adds (first.trans (second.trans third))
    exact Yields.bind (.read (Models.yields_begun begun)) fun models drained begun => ih begun

theorem yields_begun_build {service : Service} {config : Config}
    (types : ∀ type ∈ run.registry.types, type.BeginsIn source.model) :
    Yields source run (build service config) fun spaces after =>
      Models.Begun source.model after.registry spaces.models := by
  refine (registers_report _ run).bind fun namePrefix first one => ?_
  refine (registers_report _ first).bind fun subjectPrefix second two => ?_
  refine (registers_begin _ second).bind fun commands third three => ?_
  refine ((registers_begin _).and yields_begin).bind ?_
  rintro _ fourth ⟨four, rfl, -⟩
  refine (registers_setOwner _ fourth).bind fun _ owned five => .read ?_
  have start : Models.Begun source.model run.registry
      { fullName := service.child "Cmdlets.Models", phase := .initializing } := ⟨types, by simp⟩
  have opened := start.adds (one.trans (two.trans (three.trans (four.trans five))))
  refine Yields.bind (yields_begun_addAll opened) fun done filled begun => ?_
  refine (registers_finalize _ filled).bind fun commands' sealed six => ?_
  refine ((registers_finalize _).and yields_finalize).bind ?_
  rintro _ after ⟨seven, rfl, -⟩
  exact .pure ⟨(begun.adds (six.trans seven)).types, begun.definitions⟩

/-- Every operation brings a variant whose parameters begin as they are called. -/
theorem invariant_begin (source : Source) (service : Service) (namePrefix subjectPrefix : String) :
    Invariant source (nameOf service namePrefix subjectPrefix) (fun _ variant => variant.ParametersBegin)
      (fun _ commands => ∀ command ∈ commands, command.ParametersBegin) := by
  refine ⟨by simp, fun run operation => ?_, fun earlier operation commands variant holds begins => ?_⟩
  · refine (yields_listed operation.id).bind ?_
    rintro parameters declared ⟨kept, -, listed⟩
    exact (Yields.any _).bind fun output _ _ => .pure listed.begins
  · intro command mem other its
    rcases mem_place mem with old | ⟨before, known, -, rfl⟩
    · exact holds command old other its
    · obtain ⟨named, className, more⟩ := exists_variants_addVariant before variant
      rw [more] at its
      rcases List.mem_append.1 its with its | its
      · rcases known with old | rfl
        · exact holds before old other its
        · simp at its
      · obtain rfl := List.mem_singleton.1 its
        exact begins

end Commands

namespace ModelCommands

/-- The command of a class has the properties of the class for its parameters. -/
theorem yields_begin_addAll {spaces : Commands.CommandSpaces} {models : List ModelDefinition}
    {space : Namespace CommandDefinition}
    (properties : ∀ model ∈ models, ∀ property ∈ model.properties,
      Begins (firstOf property.wireName) property.name)
    (holds : ∀ command ∈ space.definitions, command.ParametersBegin) :
    Yields source run (addAll spaces models space) fun done _ =>
      ∀ command ∈ done.definitions, command.ParametersBegin := by
  induction models generalizing run space with
  | nil => exact .pure holds
  | cons model rest ih =>
    obtain ⟨own, others⟩ := List.forall_mem_cons.1 properties
    refine (Yields.any _).bind fun _ noted _ => .orFail fun grown added => ih others ?_
    obtain rfl := Namespace.insert_ok added
    intro command mem variant its
    rcases List.mem_append.1 mem with mem | mem
    · exact holds command mem variant its
    · obtain rfl := List.mem_singleton.1 mem
      obtain rfl : variant = _ := List.mem_singleton.1 its
      intro parameter listed
      obtain ⟨property, inside, rfl⟩ := List.mem_map.1 listed
      exact own property inside

end ModelCommands

/-! ## Generations -/

/-- The commands of a tree. -/
def Tree.commandDefinitions : Tree → List CommandDefinition
  | models _ => []
  | commands spaces => spaces.commands.definitions

namespace Trees

/-- All names that came with a tree begin as they should. -/
structure Begun (source : Source) (service : Service) (tree : Tree) (registry : Registry) : Prop where
  types : ∀ type ∈ registry.types, type.BeginsIn source.model
  definitions : ∀ definition ∈ tree.space.definitions, definition.BeginsIn source.model
  parameters : ∀ command ∈ tree.commandDefinitions, command.ParametersBegin
  /-- So do those of the commands that make objects of the types of the tree. -/
  modelCommands : ∀ run spaces,
    Synthesis.Yields source run (ModelCommands.build (ModelCommands.start service) tree.space spaces)
      fun done _ => ∀ command ∈ done.definitions, command.ParametersBegin

variable {service : Service} {tree : Tree}

theorem Begun.of_models {registry : Registry} (begun : Models.Begun source.model registry tree.space)
    (parameters : ∀ command ∈ tree.commandDefinitions, command.ParametersBegin) :
    Begun source service tree registry := by
  refine ⟨begun.types, begun.definitions, parameters, fun run spaces => ?_⟩
  refine yields_begin.bind ?_
  rintro _ opened ⟨rfl, -⟩
  have properties : ∀ model ∈ tree.space.definitions.filter fun model => model.form = .record,
      ∀ property ∈ model.properties, Begins (firstOf property.wireName) property.name :=
    fun model mem => (begun.definitions model (List.mem_of_mem_filter mem)).properties
  refine (ModelCommands.yields_begin_addAll properties (by simp [ModelCommands.start])).bind
    fun filled added holds => ?_
  refine yields_finalize.mono ?_
  rintro _ after ⟨rfl, -⟩
  exact holds

/-- One call. -/
theorem yields_begun_perform (types : ∀ type ∈ run.registry.types, type.BeginsIn source.model)
    (build : Build) :
    Yields source run (build.perform service) fun tree after => Begun source service tree after.registry := by
  cases build with
  | models =>
    refine (Models.yields_begun_build types).bind fun space after begun => .pure ?_
    exact .of_models begun (by simp [Tree.commandDefinitions])
  | commands config =>
    have both : Yields source run (Commands.build service config) fun spaces after =>
        Models.Begun source.model after.registry spaces.models ∧
          ∀ command ∈ spaces.commands.definitions, command.ParametersBegin :=
      fun spaces after ran => ⟨Commands.yields_begun_build types spaces after ran,
        (Commands.invariant_begin source service _ _).yields_build spaces after ran⟩
    refine both.bind ?_
    rintro spaces after ⟨begun, parameters⟩
    exact .pure (.of_models begun parameters)

/-- Any calls, of which each finds the types of those before it. -/
theorem yields_begun_performAll (types : ∀ type ∈ run.registry.types, type.BeginsIn source.model)
    (calls : List Build) :
    Yields source run (Build.performAll service calls) fun transcript _ =>
      ∀ entry ∈ transcript, Begun source service entry.1 entry.2 := by
  induction calls generalizing run with
  | nil => exact .pure (by simp)
  | cons build rest ih =>
    refine (yields_begun_perform types build).bind fun tree after begun => .get ?_
    refine (ih begun.types).bind fun transcript last others => .pure ?_
    exact List.forall_mem_cons.2 ⟨begun, others⟩

/-- In a closed model calls end, whatever the overrides declare. -/
theorem ends_performAll (closed : source.model.Closed) {earlier : List TypeRef}
    (settled : Models.Settled source earlier run.registry) (calls : List Build) :
    Synthesis.Ends source run (Build.performAll service calls) fun transcript _ =>
      transcript.length = calls.length := by
  induction calls generalizing run earlier with
  | nil => exact .pure rfl
  | cons build rest ih =>
    have one : Synthesis.Ends source run (build.perform service) fun _ after =>
        ∃ earlier, Models.Settled source earlier after.registry := by
      cases build with
      | models =>
        refine (Models.ends_build closed settled).bind ?_
        rintro space after ⟨-, -, filled⟩
        exact .pure ⟨_, filled.settled⟩
      | commands config =>
        refine (Commands.ends_build closed settled).bind fun spaces after built => ?_
        obtain ⟨opened, declared, -, -, filled⟩ := built.filled
        exact .pure ⟨_, filled.settled⟩
    refine one.bind ?_
    rintro tree after ⟨earlier, settled⟩
    exact .get ((ih settled).bind fun transcript last length => .pure (by simp [length]))

/-- **How names begin.** Whatever is built on a fresh context, in whatever order, no type, property or
parameter has an empty name, and each begins with the first letter or number of what it is called in the
model: with a digit if that is one, and only then. In a closed model the calls end. -/
theorem performAll_begun (source : Source) (service : Service) (owner : String) (report : Report)
    (calls : List Build) :
    Synthesis.Yields source { registry := { owner }, report } (Build.performAll service calls)
      (fun transcript _ => ∀ entry ∈ transcript, Begun source service entry.1 entry.2) ∧
    (source.model.Closed →
      Synthesis.Ends source { registry := { owner }, report } (Build.performAll service calls)
        fun transcript _ => transcript.length = calls.length ∧
          ∀ entry ∈ transcript, Begun source service entry.1 entry.2) := by
  have begun : Yields source { registry := { owner }, report } (Build.performAll service calls)
      fun transcript _ => ∀ entry ∈ transcript, Begun source service entry.1 entry.2 :=
    yields_begun_performAll (by simp) calls
  refine ⟨begun, fun closed => ?_⟩
  have settled : Models.Settled source [] ({ registry := { owner }, report } : Run).registry :=
    .empty source owner
  obtain ⟨transcript, after, ran, length⟩ := ends_performAll closed settled calls
  exact ⟨transcript, after, ran, length, begun transcript after ran⟩

/-- Schemas, properties and parameters that begin with digits, and a type and a property without a letter. -/
def puzzles : Model where
  schemas :=
    [{ kind := .primitive .string, path := "schemas/3DPuzzle/properties/2fa" },
      { kind := .object, path := "schemas/3DPuzzle", name := some "3DPuzzle",
        properties := [⟨"2fa", 0⟩, ⟨"...", 2⟩] },
      { kind := .object, path := "schemas/items" }]
  table := [("3DPuzzle", 1)]
  operations := [{ id := "getPuzzle", parameters := [{ name := "3d", schema := 0 }, { name := "!", schema := 0 }] }]

theorem puzzles_begun : puzzles.Closed ∧
    Synthesis.Ends ⟨puzzles, ⟨[]⟩⟩ { registry := { owner := "" }, report := {} }
      (Build.performAll ⟨"Api", "Api"⟩ [.models, .commands {}])
      fun transcript _ => transcript.length = 2 ∧
        ∀ entry ∈ transcript, Begun ⟨puzzles, ⟨[]⟩⟩ ⟨"Api", "Api"⟩ entry.1 entry.2 := by
  have closed : puzzles.Closed := by decide
  exact ⟨closed, (performAll_begun _ _ _ _ _).2 closed⟩

/-- A name begins with a digit of ASCII. -/
def digital (name : String) : Bool := name.toList.head?.any Char.isDigit

/-- A class, a property of it and a parameter have names that begin with digits. -/
theorem puzzles_digital : Synthesis.Ends ⟨puzzles, ⟨[]⟩⟩ {}
    (Build.performAll ⟨"Api", "Api"⟩ [.models, .commands {}]) fun transcript _ => ∃ entry ∈ transcript,
      (∃ definition ∈ entry.1.space.definitions, digital definition.name = true ∧
        ∃ property ∈ definition.properties, digital property.name = true) ∧
      ∃ other ∈ transcript, ∃ command ∈ other.1.commandDefinitions, ∃ variant ∈ command.variants,
        ∃ parameter ∈ variant.parameters, digital parameter.name = true := by
  have checked : (((Build.performAll ⟨"Api", "Api"⟩ [.models, .commands {}]).run
      ⟨puzzles, ⟨[]⟩⟩).run.run {}).1.toOption.any (fun transcript => transcript.any fun entry =>
        (entry.1.space.definitions.any fun definition => digital definition.name &&
          definition.properties.any fun property => digital property.name) &&
        transcript.any fun other => other.1.commandDefinitions.any fun command =>
          command.variants.any fun variant => variant.parameters.any fun parameter =>
            digital parameter.name) = true := by
    decide +kernel
  refine (Ends.of_any checked).mono fun transcript _ found => ?_
  simpa only [List.any_eq_true, Bool.and_eq_true] using found

end Trees
end CmdletForge
