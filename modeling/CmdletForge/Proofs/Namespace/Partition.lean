import CmdletForge.Proofs.Namespace.Commands
import CmdletForge.Proofs.Namespace.Completeness
import CmdletForge.Proofs.Namespace.Variants
import CmdletForge.Proofs.Order.Groups

/-!
# How commands partition the operations

Every operation brings one variant, and it goes to the command of its verb and noun. Commands are found by
the joined text of the two. No noun has a dash in it, so two names with one text are one name, and the
commands are the groups of the operations by name. What else the placing of one more variant keeps is an
`Invariant`, and holds of all commands in the end.
-/

namespace CmdletForge

/-! ## Names -/

namespace Naming

theorem separator_dash : Separator '-' := by
  constructor <;> decide +kernel

end Naming

namespace CommandName

theorem not_mem_of_mem_groupAndAction {id word : String}
    (mem : word ∈ (groupAndAction id).1 ++ (groupAndAction id).2) : '-' ∉ word.toList := by
  have free : ∀ text, word ∈ Naming.words text → '-' ∉ word.toList :=
    fun _ its => Naming.not_mem_of_mem_words Naming.separator_dash.outside its
  unfold groupAndAction at mem
  split at mem
  next => exact free id (by simpa using mem)
  next parent action _ =>
    split at mem
    next => exact free id (by simpa using mem)
    next => exact (List.mem_append.1 mem).elim (free parent) (free action)

theorem not_mem_of_mem_subject {parent rest : List String} {service word : String}
    (free : ∀ word ∈ parent ++ rest, '-' ∉ word.toList) (mem : word ∈ subject parent rest service) :
    '-' ∉ word.toList := by
  have own : word ∈ Naming.words service ∨ word ∈ parent ∨ word ∈ rest := by
    unfold subject at mem
    by_cases whole : (if parent.isEmpty then rest else parent).isEmpty
    · rw [if_pos whole] at mem
      exact .inl mem
    · rw [if_neg whole] at mem
      split at mem
      next => exact .inr (.inr mem)
      next => exact .inr (.inl mem)
  rcases own with its | its
  · exact Naming.not_mem_of_mem_words Naming.separator_dash.outside its
  · exact free word (List.mem_append.2 its)

/-- No dash stands in the noun of an operation's command. -/
theorem not_mem_noun (id namePrefix subjectPrefix service : String) :
    '-' ∉ (ofOperation id namePrefix subjectPrefix service).noun.toList := by
  have beginning : ∀ text, '-' ∉ (Naming.toPascalCase text).toList :=
    Naming.not_mem_toPascalCase Naming.separator_dash.outside
  have words : ∀ word ∈ (groupAndAction id).1 ++ (groupAndAction id).2, '-' ∉ word.toList :=
    fun _ => not_mem_of_mem_groupAndAction
  unfold ofOperation
  generalize groupAndAction id = parts at words
  obtain ⟨parent, action⟩ := parts
  have joined : ∀ rest, rest ⊆ action →
      '-' ∉ (Naming.pascalCase (subject parent rest service)).toList := by
    intro rest part
    refine Naming.not_mem_pascalCase Naming.separator_dash.outside fun word mem => ?_
    refine not_mem_of_mem_subject (fun word its => words word ?_) mem
    exact List.mem_append.2 ((List.mem_append.1 its).imp_right fun its => part its)
  cases action with
  | nil => simpa [beginning] using joined [] (by simp)
  | cons verb rest => simpa [beginning] using joined rest (by simp)

/-- The text of the name of an operation's command says what the verb and the noun are. -/
theorem ofOperation_inj {id id' namePrefix subjectPrefix service : String}
    (same : (ofOperation id namePrefix subjectPrefix service).text =
      (ofOperation id' namePrefix subjectPrefix service).text) :
    ofOperation id namePrefix subjectPrefix service =
      ofOperation id' namePrefix subjectPrefix service := by
  have noun := not_mem_noun id namePrefix subjectPrefix service
  have noun' := not_mem_noun id' namePrefix subjectPrefix service
  generalize ofOperation id namePrefix subjectPrefix service = name at *
  generalize ofOperation id' namePrefix subjectPrefix service = name' at *
  have chars : name.verb.toList ++ '-' :: name.noun.toList =
      name'.verb.toList ++ '-' :: name'.noun.toList := by
    simpa [text] using congrArg String.toList same
  obtain ⟨verbs, nouns⟩ := Naming.append_separator_inj noun noun' chars
  cases name
  cases name'
  simp only [CommandName.mk.injEq]
  exact ⟨String.toList_inj.1 verbs, String.toList_inj.1 nouns⟩

end CommandName

namespace Commands

open Synthesis

variable {source : Source} {run : Run} {service : Service}

/-! ## Groups -/

/-- The commands are the groups of operations by name, in order of the first operation of each, and their
variants are related to the operations of the group one by one. -/
structure Groups (related : Operation → CommandVariant → Prop) (name : Operation → CommandName)
    (operations : List Operation) (commands : List CommandDefinition) : Prop where
  names : commands.map (·.name) = (operations.map name).eraseDups
  variants : ∀ command ∈ commands,
    List.Forall₂ related (group name operations command.name) command.variants

variable {related : Operation → CommandVariant → Prop} {name : Operation → CommandName}
  {operations : List Operation} {commands : Namespace CommandDefinition}

theorem Groups.empty : Groups related name [] [] := ⟨rfl, by simp⟩

theorem Groups.imp {related' : Operation → CommandVariant → Prop} {commands : List CommandDefinition}
    (groups : Groups related name operations commands)
    (weaker : ∀ operation variant, related operation variant → related' operation variant) :
    Groups related' name operations commands :=
  ⟨groups.names, fun command mem => (groups.variants command mem).imp weaker⟩

/-- The names of the commands are those of the operations. -/
theorem Groups.mem_iff {commands : List CommandDefinition}
    (groups : Groups related name operations commands) (own : CommandName) :
    own ∈ commands.map (·.name) ↔ own ∈ operations.map name := by
  rw [groups.names, List.mem_eraseDups]

/-- The variants of a command with one more. -/
theorem exists_variants_addVariant (command : CommandDefinition) (variant : CommandVariant) :
    ∃ named className, (command.addVariant variant).variants =
      command.variants ++ [{ variant with name := named, className }] := by
  unfold CommandDefinition.addVariant
  dsimp only
  split
  · exact ⟨variant.name, variant.className, rfl⟩
  · exact ⟨_, _, rfl⟩

/-- An operation of a new name: its variant is the first of a new command at the end. -/
theorem Groups.extend {commands : List CommandDefinition}
    (groups : Groups related name operations commands)
    {operation : Operation} {variant : CommandVariant} (its : ∀ named className,
      related operation { variant with name := named, className })
    (new : name operation ∉ operations.map name) :
    Groups related name (operations ++ [operation])
      (commands ++ [CommandDefinition.addVariant { name := name operation } variant]) := by
  constructor
  · rw [List.map_append, List.map_append, List.map_singleton, List.map_singleton, eraseDups_concat,
      if_neg new, groups.names]
    rfl
  · intro command mem
    rcases List.mem_append.1 mem with mem | mem
    · have known : command.name ∈ operations.map name :=
        (groups.mem_iff _).1 (List.mem_map_of_mem mem)
      have other : name operation ≠ command.name := fun same => new (same ▸ known)
      rw [group_concat_other operations other]
      exact groups.variants command mem
    · obtain rfl := List.mem_singleton.1 mem
      obtain ⟨named, className, more⟩ := exists_variants_addVariant { name := name operation } variant
      have first : group name (operations ++ [operation]) (name operation) =
          group name operations (name operation) ++ [operation] := group_concat_same operations rfl
      rw [group_eq_nil new, List.nil_append] at first
      rw [more, List.nil_append, show (CommandDefinition.addVariant { name := name operation }
        variant).name = name operation from rfl, first]
      exact .cons (its named className) .nil

section Keyed

variable (keyed : ∀ operation operation', (name operation).text = (name operation').text →
  name operation = name operation')

include keyed

/-- The texts of the names of the commands are different, as those of different names are. -/
theorem Groups.distinct {commands : List CommandDefinition}
    (groups : Groups related name operations commands) : (commands.map Named.name).Nodup := by
  have names : (commands.map (·.name)).Nodup := by
    rw [groups.names]
    exact nodup_eraseDups _
  have texts : commands.map Named.name = (commands.map (·.name)).map CommandName.text := by
    rw [List.map_map]
    rfl
  rw [texts]
  refine names.map_on fun a mem b mem' same => ?_
  rw [groups.mem_iff] at mem mem'
  obtain ⟨operation, -, rfl⟩ := List.mem_map.1 mem
  obtain ⟨operation', -, rfl⟩ := List.mem_map.1 mem'
  exact keyed operation operation' same

/-- A command is found by the text of an operation's name if and only if it has the name. -/
theorem Groups.text_iff {commands : List CommandDefinition}
    (groups : Groups related name operations commands)
    {command : CommandDefinition} (mem : command ∈ commands) (operation : Operation) :
    Named.name command = (name operation).text ↔ command.name = name operation := by
  constructor
  · intro same
    have known : command.name ∈ operations.map name :=
      (groups.mem_iff _).1 (List.mem_map_of_mem mem)
    obtain ⟨other, -, own⟩ := List.mem_map.1 known
    have text : (name other).text = (name operation).text := by
      rw [own]
      exact same
    rw [← own, keyed other operation text]
  · intro same
    exact congrArg CommandName.text same

/-- There is a command of an operation's name if and only if an earlier operation has the name. -/
theorem Groups.contains_iff (groups : Groups related name operations commands.definitions)
    (operation : Operation) :
    commands.contains (name operation).text = true ↔ name operation ∈ operations.map name := by
  rw [Namespace.contains_iff, ← groups.mem_iff]
  constructor
  · intro mem
    obtain ⟨command, its, same⟩ := List.mem_map.1 mem
    rw [← (groups.text_iff keyed its operation).1 same]
    exact List.mem_map_of_mem its
  · intro mem
    obtain ⟨command, its, same⟩ := List.mem_map.1 mem
    rw [← (groups.text_iff keyed its operation).2 same]
    exact List.mem_map_of_mem its

/-- An operation of a known name: its variant goes to the end of the command of the name. -/
theorem Groups.grow {commands : List CommandDefinition}
    (groups : Groups related name operations commands)
    {operation : Operation} {variant : CommandVariant} (its : ∀ named className,
      related operation { variant with name := named, className })
    (old : name operation ∈ operations.map name) :
    Groups related name (operations ++ [operation]) (commands.map fun command =>
      if Named.name command = (name operation).text then command.addVariant variant else command) := by
  constructor
  · rw [List.map_map, List.map_append, List.map_singleton, eraseDups_concat, if_pos old, ← groups.names]
    refine List.map_congr_left fun command _ => ?_
    simp only [Function.comp_apply]
    split <;> rfl
  · intro command mem
    obtain ⟨before, inside, rfl⟩ := List.mem_map.1 mem
    have held := groups.variants before inside
    have found := groups.text_iff keyed inside operation
    split
    next here =>
      obtain ⟨named, className, more⟩ := exists_variants_addVariant before variant
      have same : name operation = before.name := (found.1 here).symm
      have grown := group_concat_same operations same
      rw [more, show (before.addVariant variant).name = before.name from rfl, grown]
      exact List.rel_append held (.cons (its named className) .nil)
    next elsewhere =>
      have other : name operation ≠ before.name := fun same => elsewhere (found.2 same.symm)
      rw [group_concat_other operations other]
      exact held

/-- **One more operation.** Its variant goes to the end of the command of its name, or to a new command at
the end. -/
theorem Groups.place (groups : Groups related name operations commands.definitions)
    {operation : Operation} {variant : CommandVariant} (its : ∀ named className,
      related operation { variant with name := named, className }) :
    Groups related name (operations ++ [operation])
      (place commands (name operation) variant).definitions := by
  have known := groups.contains_iff keyed operation
  unfold Commands.place
  dsimp only
  split
  next there =>
    rw [Namespace.changeFirst_eq_map (groups.distinct keyed)]
    exact groups.grow keyed its (known.1 there)
  next absent => exact groups.extend its fun old => absent (known.2 old)

end Keyed

/-! ## The namespaces -/

/-- The name of the command of an operation. -/
def nameOf (service : Service) (namePrefix subjectPrefix : String) (operation : Operation) : CommandName :=
  CommandName.ofOperation operation.id namePrefix subjectPrefix service.name

theorem nameOf_inj {namePrefix subjectPrefix : String} (operation operation' : Operation)
    (same : (nameOf service namePrefix subjectPrefix operation).text =
      (nameOf service namePrefix subjectPrefix operation').text) :
    nameOf service namePrefix subjectPrefix operation =
      nameOf service namePrefix subjectPrefix operation' :=
  CommandName.ofOperation_inj same

/-- What a configuration sets for a key of the commands, or nothing. -/
def setting (config : Config) (key : String) : String := (config.getOr key "").toOption.getD ""

theorem yields_setting (config : Config) (key : String) :
    Yields source run (Synthesis.report (config.valueOr key "")) fun value after =>
      value = setting config key ∧ Later run after := by
  have value : ∀ report, ((config.valueOr key "").run report).1 = setting config key := by
    intro report
    unfold Config.valueOr setting
    cases config.getOr key "" <;> rfl
  rintro x after ⟨⟩
  exact ⟨value run.report, .of_recorded _ rfl (reads_valueOr key "" run.report)⟩

/-- Adding a variant places it, or the generation stops. -/
theorem yields_addVariant (commands : Namespace CommandDefinition) (name : CommandName)
    (variant : CommandVariant) :
    Yields source run (addVariant commands name variant) fun placed after =>
      placed = place commands name variant ∧ Declared source [] run after := by
  by_cases opened : commands.phase = .initializing
  · exact (ends_addVariant opened name variant).yields
  · refine .orFail fun _ answer => ?_
    rw [Namespace.update, if_neg opened] at answer
    contradiction

/-- The commands of operations, with the variants that they have in a state. -/
abbrev Rendered (source : Source) (run : Run) (name : Operation → CommandName)
    (operations : List Operation) (commands : List CommandDefinition) : Prop :=
  Groups (fun operation variant => variant.Renders source run operation) name operations commands

/-- **All operations.** Each comes to the groups of those before it. -/
theorem yields_addAll {earlier operations : List Operation} {spaces : CommandSpaces}
    (rendered : Rendered source run (nameOf service spaces.namePrefix spaces.subjectPrefix) earlier
      spaces.commands.definitions)
    (whole : Models.Whole source run spaces.models) :
    Yields source run (addAll service operations spaces) fun done after => Later run after ∧
      Rendered source after (nameOf service spaces.namePrefix spaces.subjectPrefix)
        (earlier ++ operations) done.commands.definitions ∧
      Models.Whole source after done.models := by
  induction operations generalizing run spaces earlier with
  | nil => exact .pure ⟨.refl run, by simpa using rendered, whole⟩
  | cons operation rest ih =>
    refine (yields_defineVariant operation _).bind ?_
    rintro variant defined ⟨first, its⟩
    refine (ends_note _).yields.bind fun _ noted second => ?_
    refine (yields_addVariant _ _ variant).bind ?_
    rintro _ added ⟨rfl, third⟩
    have before := first.trans (second.later.trans third.later)
    refine (Models.yields_drainAll (whole.later before)).bind ?_
    rintro models drained ⟨fourth, whole⟩
    have one := before.trans fourth
    -- The variant is older than the types that it brought, so it is carried to the state after them.
    have still : variant.Renders source drained operation :=
      its.later (second.later.trans (third.later.trans fourth))
    have placed := (rendered.imp fun _ _ its => its.later one).place nameOf_inj still.rename
    refine (ih placed whole).mono ?_
    rintro done after ⟨others, rendered, whole⟩
    rw [List.append_assoc] at rendered
    exact ⟨one.trans others, rendered, whole⟩

/-- What building the namespaces of commands leaves, in any model and any state. -/
theorem yields_build (service : Service) (config : Config) :
    Yields source run (build service config) fun done after => Later run after ∧
      Rendered source after (nameOf service (setting config "prefix") (setting config "subject-prefix"))
        source.model.operations done.commands.definitions ∧
      Models.Whole source after done.models := by
  refine (yields_setting config "prefix").bind ?_
  rintro _ first ⟨rfl, one⟩
  refine (yields_setting config "subject-prefix").bind ?_
  rintro _ second ⟨rfl, two⟩
  refine yields_begin.bind ?_
  rintro _ third ⟨rfl, three⟩
  refine yields_begin.bind ?_
  rintro _ fourth ⟨rfl, four⟩
  refine (yields_setOwner _).bind fun _ owned five => ?_
  have bare : Models.Whole source owned
      { fullName := service.child "Cmdlets.Models", phase := .initializing } := by
    intro _ definition mem
    exact absurd mem (by simp)
  refine .read (Yields.bind (yields_addAll .empty bare) ?_)
  rintro done filled ⟨six, rendered, whole⟩
  refine yields_finalize.bind ?_
  rintro _ sealed ⟨rfl, seven⟩
  refine yields_finalize.bind ?_
  rintro _ after ⟨rfl, eight⟩
  have last := seven.later.trans eight.later
  have opening := one.trans (two.trans (three.later.trans (four.later.trans five)))
  refine .pure ⟨opening.trans (six.trans last), ?_, whole.later last⟩
  exact rendered.imp fun _ _ its => its.later last

/-! ## What every operation keeps -/

/-- A command that there is after a variant was placed: one of those before, or one of the name with the
variant added, which was there or is new. -/
theorem mem_place {own : CommandName} {variant : CommandVariant} {command : CommandDefinition}
    (mem : command ∈ (place commands own variant).definitions) :
    command ∈ commands.definitions ∨ ∃ before, (before ∈ commands.definitions ∨ before = { name := own }) ∧
      before.name.text = own.text ∧ command = before.addVariant variant := by
  unfold place at mem
  dsimp only at mem
  split at mem
  next known =>
    obtain ⟨front, before, rest, split, named, changed⟩ :=
      Namespace.changeFirst_split (Namespace.contains_iff.1 known)
    have inside : before ∈ commands.definitions := by simp [split]
    rw [changed] at mem
    rcases List.mem_append.1 mem with mem | mem
    · exact .inl (by simp [split, mem])
    · rcases List.mem_cons.1 mem with rfl | mem
      · exact .inr ⟨before, .inl inside, named, rfl⟩
      · exact .inl (by simp [split, mem])
  next =>
    rcases List.mem_append.1 mem with mem | mem
    · exact .inl mem
    · exact .inr ⟨{ name := own }, .inr rfl, rfl, List.mem_singleton.1 mem⟩

/-- A property of commands that a new command has, and that the variant of an operation leaves to a command of
its name, holds of all commands with the variant placed. -/
theorem Groups.forall_mem_place
    (keyed : ∀ operation operation', (name operation).text = (name operation').text →
      name operation = name operation')
    (groups : Groups related name operations commands.definitions) {good : CommandDefinition → Prop}
    {operation : Operation} {variant : CommandVariant} (fresh : good { name := name operation })
    (step : ∀ command, command.name = name operation → good command → good (command.addVariant variant))
    (holds : ∀ command ∈ commands.definitions, good command) :
    ∀ command ∈ (Commands.place commands (name operation) variant).definitions, good command := by
  intro command mem
  rcases mem_place mem with old | ⟨before, known, same, rfl⟩
  · exact holds command old
  · rcases known with there | rfl
    · exact step before ((groups.text_iff keyed there operation).1 same) (holds before there)
    · exact step _ rfl fresh

/-- A property of operations and the commands that they have so far, which one more operation keeps: `made`
is known of its variant, and is enough for the commands with the variant placed. -/
structure Invariant (source : Source) (name : Operation → CommandName)
    (made : Operation → CommandVariant → Prop) (good : List Operation → List CommandDefinition → Prop) :
    Prop where
  start : good [] []
  defines : ∀ (run : Run) (operation : Operation),
    Yields source run (defineVariant operation (name operation)) fun variant _ => made operation variant
  placed : ∀ (earlier : List Operation) (operation : Operation) (commands : Namespace CommandDefinition)
    (variant : CommandVariant), good earlier commands.definitions → made operation variant →
      good (earlier ++ [operation]) (place commands (name operation) variant).definitions

section Invariant

variable {made : Operation → CommandVariant → Prop} {good : List Operation → List CommandDefinition → Prop}

theorem Invariant.yields_addAll (invariant : Invariant source name made good)
    {earlier operations : List Operation} {spaces : CommandSpaces}
    (named : nameOf service spaces.namePrefix spaces.subjectPrefix = name)
    (holds : good earlier spaces.commands.definitions) :
    Yields source run (addAll service operations spaces) fun done _ =>
      good (earlier ++ operations) done.commands.definitions := by
  induction operations generalizing run spaces earlier with
  | nil => exact .pure (by simpa using holds)
  | cons operation rest ih =>
    have own : CommandName.ofOperation operation.id spaces.namePrefix spaces.subjectPrefix service.name =
        name operation := congrFun named operation
    rw [addAll]
    simp only [own]
    refine (invariant.defines run operation).bind fun variant defined its => ?_
    refine (Yields.any _).bind fun _ noted _ => (yields_addVariant _ _ variant).bind ?_
    rintro _ added ⟨rfl, -⟩
    refine (Yields.any _).bind fun models drained _ => ?_
    have placed := invariant.placed earlier operation spaces.commands variant holds its
    refine Yields.mono (ih named placed) fun done _ holds => ?_
    rwa [List.append_assoc] at holds

/-- What every operation keeps holds of all commands in the end. -/
theorem Invariant.yields_build {config : Config}
    (invariant : Invariant source (nameOf service (setting config "prefix") (setting config "subject-prefix"))
      made good) :
    Yields source run (build service config) fun done _ =>
      good source.model.operations done.commands.definitions := by
  refine (yields_setting config "prefix").bind ?_
  rintro _ first ⟨rfl, -⟩
  refine (yields_setting config "subject-prefix").bind ?_
  rintro _ second ⟨rfl, -⟩
  refine yields_begin.bind ?_
  rintro _ third ⟨rfl, -⟩
  refine yields_begin.bind ?_
  rintro _ fourth ⟨rfl, -⟩
  refine (Yields.any _).bind fun _ owned _ => .read ?_
  refine Yields.bind (invariant.yields_addAll rfl invariant.start) fun done filled holds => ?_
  refine yields_finalize.bind ?_
  rintro _ sealed ⟨rfl, -⟩
  refine yields_finalize.bind ?_
  rintro _ after ⟨rfl, -⟩
  exact .pure holds

end Invariant

/-! ## The partition -/

/-- The commands partition the operations by name. -/
structure Partition (name : Operation → CommandName) (operations : List Operation)
    (commands : List CommandDefinition) : Prop
    extends Groups (fun operation variant => variant.Of operation) name operations commands where
  /-- The texts by which commands are found tell them apart. -/
  keys : (commands.map (·.name.text)).Nodup
  /-- The operations of all commands are those there are. -/
  whole : (commands.flatMap fun command => group name operations command.name).Perm operations

theorem Groups.partition {commands : List CommandDefinition}
    (groups : Groups (fun operation variant => variant.Of operation) name operations commands)
    (keyed : ∀ operation operation', (name operation).text = (name operation').text →
      name operation = name operation') : Partition name operations commands := by
  refine ⟨groups, groups.distinct keyed, ?_⟩
  have names : commands.flatMap (fun command => group name operations command.name) =
      (commands.map (·.name)).flatMap (group name operations) := by
    rw [List.flatMap_map]
  rw [names, groups.names]
  exact flatMap_group_eraseDups_perm name operations

/-- **Commands partition the operations.** Whatever the model and the state are, whenever the commands are
built there is one for every verb and noun, in order of the first operation that has them, and its
variants are those of the operations that have them, in order. In a closed model they are built. -/
theorem build_partitions (source : Source) (run : Run) (service : Service) (config : Config) :
    Yields source run (build service config) (fun done _ =>
      Partition (nameOf service (setting config "prefix") (setting config "subject-prefix"))
        source.model.operations done.commands.definitions) ∧
    (source.model.Closed → ∀ earlier, Models.Settled source earlier run.registry →
      Ends source run (build service config) fun done _ =>
        Partition (nameOf service (setting config "prefix") (setting config "subject-prefix"))
          source.model.operations done.commands.definitions) := by
  have partitions : Yields source run (build service config) fun done _ =>
      Partition (nameOf service (setting config "prefix") (setting config "subject-prefix"))
        source.model.operations done.commands.definitions := by
    refine (yields_build service config).mono ?_
    rintro done after ⟨-, rendered, -⟩
    exact (rendered.imp fun _ _ renders => renders.its).partition nameOf_inj
  exact ⟨partitions, fun closed earlier settled => (ends_build closed settled).of_yields partitions⟩

/-- Three operations of one verb and noun. The answer of the last cannot be declared. -/
def feedings : Model :=
  { petStore with
    operations := petStore.operations ++ [{ id := "Pets_Feed" }, { id := "feedPets", response := some 3 }] }

theorem feedings_partition :
    feedings.Closed ∧ Models.Settled ⟨feedings, ⟨[.switch]⟩⟩ [] { owner := "" } ∧
      Ends ⟨feedings, ⟨[.switch]⟩⟩ { registry := { owner := "" }, report := {} }
        (build ⟨"Pets", "PetStore"⟩ {})
        fun done _ => Partition (nameOf ⟨"Pets", "PetStore"⟩ (setting {} "prefix")
          (setting {} "subject-prefix")) feedings.operations done.commands.definitions := by
  have closed : feedings.Closed := by decide
  exact ⟨closed, .empty _ _, (build_partitions _ _ _ _).2 closed [] (.empty _ _)⟩

end Commands
end CmdletForge
