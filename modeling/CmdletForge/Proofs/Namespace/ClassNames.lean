import CmdletForge.Proofs.Namespace.Partition

/-!
# The names of classes

The class of a variant is named after the command, without the dash between verb and noun, and after the
variant behind an underscore. Variants of one command have different names, so their classes do too. Nobody
compares the classes of different commands: where two names of commands read the same without the dash, their
variants of one name have classes of one name. `Resplits` says when two names read so.
-/

namespace CmdletForge

namespace CommandName

/-- Two names that have the dash in different places of one text: the end of one verb is the beginning of the
other noun. -/
def Resplits (name name' : CommandName) : Prop :=
  ∃ moved, moved ≠ "" ∧
    (name'.verb = name.verb ++ moved ∧ name.noun = moved ++ name'.noun ∨
      name.verb = name'.verb ++ moved ∧ name'.noun = moved ++ name.noun)

/-- Two ways to cut a text differ by what moved from one part to the other. -/
theorem exists_moved {verb noun verb' noun' : String} (same : verb ++ noun = verb' ++ noun') :
    ∃ moved, verb' = verb ++ moved ∧ noun = moved ++ noun' ∨
      verb = verb' ++ moved ∧ noun' = moved ++ noun := by
  have chars : verb.toList ++ noun.toList = verb'.toList ++ noun'.toList := by
    simpa using congrArg String.toList same
  rcases List.append_eq_append_iff.1 chars with ⟨moved, verbs, nouns⟩ | ⟨moved, verbs, nouns⟩
  · refine ⟨String.ofList moved, .inl ⟨String.toList_inj.1 ?_, String.toList_inj.1 ?_⟩⟩
    · simpa using verbs
    · simpa using nouns
  · refine ⟨String.ofList moved, .inr ⟨String.toList_inj.1 ?_, String.toList_inj.1 ?_⟩⟩
    · simpa using verbs
    · simpa using nouns

/-- Names that read the same without the dash are one name, or they have the dash in different places. -/
theorem eq_or_resplits_iff (name name' : CommandName) :
    name.verb ++ name.noun = name'.verb ++ name'.noun ↔ name = name' ∨ name.Resplits name' := by
  obtain ⟨verb, noun⟩ := name
  obtain ⟨verb', noun'⟩ := name'
  constructor
  · intro same
    obtain ⟨moved, parts⟩ := exists_moved same
    by_cases none : moved = ""
    · -- Nothing moved, so the dash is in one place.
      subst none
      left
      rcases parts with ⟨verbs, nouns⟩ | ⟨verbs, nouns⟩ <;> simp_all
    · exact .inr ⟨moved, none, parts⟩
  · rintro (same | ⟨moved, -, ⟨verbs, nouns⟩ | ⟨verbs, nouns⟩⟩)
    · rw [same]
    · rw [verbs, nouns, String.append_assoc]
    · rw [verbs, nouns, String.append_assoc]

/-- The name of a class says what the variant is, and what the name of the command reads without the dash. -/
theorem className_eq_iff {name name' : CommandName} {variant variant' : String}
    (free : '_' ∉ variant.toList) (free' : '_' ∉ variant'.toList) :
    name.className variant = name'.className variant' ↔
      variant = variant' ∧ (name = name' ∨ name.Resplits name') := by
  rw [← eq_or_resplits_iff]
  constructor
  · intro same
    have chars : (name.verb ++ name.noun).toList ++ '_' :: variant.toList =
        (name'.verb ++ name'.noun).toList ++ '_' :: variant'.toList := by
      simpa [className] using congrArg String.toList same
    obtain ⟨command, variant⟩ := Naming.append_separator_inj free free' chars
    exact ⟨String.toList_inj.1 variant, String.toList_inj.1 command⟩
  · rintro ⟨rfl, same⟩
    rw [className, className, same]

end CommandName

/-! ## Commands -/

/-- The class of a variant is named after the command and the variant. -/
structure CommandVariant.Classed (name : CommandName) (variant : CommandVariant) : Prop where
  className : variant.className = name.className variant.name
  free : '_' ∉ variant.name.toList

/-- The variants of a command have different names, and their classes are named after them. -/
structure CommandDefinition.Classed (command : CommandDefinition) : Prop where
  variants : ∀ variant ∈ command.variants, variant.Classed command.name
  distinct : (command.variants.map (·.name)).Nodup

namespace CommandDefinition

variable {command : CommandDefinition}

/-- A variant whose name is taken gets another one, and its class with it. -/
theorem Classed.addVariant (classed : command.Classed) {variant : CommandVariant}
    (its : variant.Classed command.name) : (command.addVariant variant).Classed := by
  obtain ⟨placed, added, named, own⟩ : ∃ placed,
      command.addVariant variant = { command with variants := command.variants ++ [placed] } ∧
      placed.name = command.variantName variant.name ∧ placed.Classed command.name := by
    refine ⟨_, rfl, ?_⟩
    split
    next same => exact ⟨same.symm, its⟩
    next => exact ⟨rfl, rfl, Naming.not_mem_uniqueName Naming.outside_underscore its.free⟩
  rw [added]
  constructor
  · intro other mem
    rcases List.mem_append.1 mem with mem | mem
    · exact classed.variants other mem
    · obtain rfl := List.mem_singleton.1 mem
      exact own
  · rw [List.map_append, List.map_singleton, named, List.nodup_append]
    refine ⟨classed.distinct, by simp, ?_⟩
    rintro name known _ new rfl
    rw [List.mem_singleton.1 new] at known
    exact Naming.uniqueName_not_mem _ _ known

/-- When variants of two commands have classes of one name. -/
theorem Classed.className_iff {command' : CommandDefinition} (classed : command.Classed)
    (classed' : command'.Classed) {variant variant' : CommandVariant} (mem : variant ∈ command.variants)
    (mem' : variant' ∈ command'.variants) :
    variant.className = variant'.className ↔ variant.name = variant'.name ∧
      (command.name = command'.name ∨ command.name.Resplits command'.name) := by
  have own := classed.variants variant mem
  have own' := classed'.variants variant' mem'
  rw [own.className, own'.className, CommandName.className_eq_iff own.free own'.free]

theorem Classed.nodup (classed : command.Classed) : (command.variants.map (·.className)).Nodup := by
  have apart : command.variants.Pairwise fun variant variant' => variant.name ≠ variant'.name :=
    List.pairwise_map.1 classed.distinct
  refine List.pairwise_map.2 (apart.imp_of_mem fun mem mem' differ same => ?_)
  exact differ ((classed.className_iff classed mem mem').1 same).1

end CommandDefinition

namespace Commands

open Synthesis

variable {source : Source} {run : Run}

/-- The names of the classes of all variants. Only commands whose names read the same without the dash share
any, and these share one for every name that both have a variant of. -/
structure ClassNames (commands : List CommandDefinition) : Prop where
  built : ∀ command ∈ commands, ∀ variant ∈ command.variants,
    variant.className = command.name.className variant.name
  within : ∀ command ∈ commands, (command.variants.map (·.className)).Nodup
  across : commands.Pairwise fun command command' =>
    ∀ variant ∈ command.variants, ∀ variant' ∈ command'.variants,
      (variant.className = variant'.className ↔
        variant.name = variant'.name ∧ command.name.Resplits command'.name)
  distinct : (commands.Pairwise fun command command' => ¬ command.name.Resplits command'.name) →
    (commands.flatMap fun command => command.variants.map (·.className)).Nodup

theorem classNames_of_classed {commands : List CommandDefinition} (names : (commands.map (·.name)).Nodup)
    (classed : ∀ command ∈ commands, command.Classed) : ClassNames commands := by
  have apart : commands.Pairwise fun command command' => command.name ≠ command'.name :=
    List.pairwise_map.1 names
  have within : ∀ command ∈ commands, (command.variants.map (·.className)).Nodup :=
    fun command mem => (classed command mem).nodup
  refine ⟨fun command mem variant its => ((classed command mem).variants variant its).className, within,
    apart.imp_of_mem fun {command command'} mem mem' differ variant its variant' its' => ?_,
    fun other => ?_⟩
  · rw [(classed command mem).className_iff (classed command' mem') its its', or_iff_right differ]
  · refine List.nodup_flatMap.2 ⟨within, ?_⟩
    refine (apart.and other).imp_of_mem fun {command command'} mem mem' ⟨differ, whole⟩ className => ?_
    intro here there
    obtain ⟨variant, its, rfl⟩ := List.mem_map.1 here
    obtain ⟨variant', its', same⟩ := List.mem_map.1 there
    have shared := (classed command mem).className_iff (classed command' mem') its its'
    exact (shared.1 same.symm).2.elim differ whole

/-- The variant of an operation is named after the operation. -/
theorem yields_classed (operation : Operation) (name : CommandName) :
    Yields source run (defineVariant operation name) fun variant _ => variant.Classed name := by
  refine (Yields.any _).bind fun parameters _ _ => (Yields.any _).bind fun output _ _ => .pure ⟨rfl, ?_⟩
  exact Naming.not_mem_pascalOr Naming.outside_underscore (by simp) operation.id

/-- The commands of operations, with the names of their classes in order. -/
structure Labelled (name : Operation → CommandName) (operations : List Operation)
    (commands : List CommandDefinition) : Prop where
  groups : Groups (fun _ _ => True) name operations commands
  classed : ∀ command ∈ commands, command.Classed

/-- Every operation keeps the names of the classes in order. -/
theorem invariant_labelled (source : Source) (service : Service) (namePrefix subjectPrefix : String) :
    Invariant source (nameOf service namePrefix subjectPrefix)
      (fun operation variant => variant.Classed (nameOf service namePrefix subjectPrefix operation))
      (Labelled (nameOf service namePrefix subjectPrefix)) := by
  refine ⟨⟨.empty, by simp⟩, fun _ operation => yields_classed operation _, ?_⟩
  intro earlier operation commands variant labelled its
  refine ⟨labelled.groups.place nameOf_inj fun _ _ => trivial, ?_⟩
  refine labelled.groups.forall_mem_place nameOf_inj ⟨by simp, by simp⟩ ?_ labelled.classed
  intro command own classed
  rw [← own] at its
  exact classed.addVariant its

/-- **The names of classes.** Whenever the commands are built, two variants have classes of one name if and
only if they have one name themselves and belong to two commands whose names read the same without the dash.
In a closed model the commands are built. -/
theorem build_classNames (source : Source) (run : Run) (service : Service) (config : Config) :
    Yields source run (build service config) (fun done _ => ClassNames done.commands.definitions) ∧
    (source.model.Closed → ∀ earlier, Models.Settled source earlier run.registry →
      Ends source run (build service config) fun done _ => ClassNames done.commands.definitions) := by
  have classNames : Yields source run (build service config) fun done _ =>
      ClassNames done.commands.definitions := by
    refine (invariant_labelled source service _ _).yields_build.mono fun done _ labelled => ?_
    refine classNames_of_classed ?_ labelled.classed
    rw [labelled.groups.names]
    exact nodup_eraseDups _
  exact ⟨classNames, fun closed earlier settled => (ends_build closed settled).of_yields classNames⟩

/-- Two operations that differ in where a number begins a word. -/
def listings : Model where
  schemas := []
  table := []
  operations := [{ id := "list-1-x" }, { id := "list1-x" }]

theorem listings_classNames :
    listings.Closed ∧ Models.Settled ⟨listings, ⟨[]⟩⟩ [] { owner := "" } ∧
      Ends ⟨listings, ⟨[]⟩⟩ { registry := { owner := "" } } (build ⟨"Api", "Api"⟩ {})
        fun done _ => ClassNames done.commands.definitions := by
  have closed : listings.Closed := by decide
  exact ⟨closed, .empty _ _, (build_classNames _ _ _ _).2 closed [] (.empty _ _)⟩

/-- The two commands have classes of one name. -/
theorem listings_share : Ends ⟨listings, ⟨[]⟩⟩ {} (build ⟨"Api", "Api"⟩ {}) fun done _ =>
    ¬ (done.commands.definitions.flatMap fun command => command.variants.map (·.className)).Nodup := by
  have checked : (((build ⟨"Api", "Api"⟩ {}).run ⟨listings, ⟨[]⟩⟩).run.run {}).1.toOption.any (fun done =>
      !decide (done.commands.definitions.flatMap fun command =>
        command.variants.map (·.className)).Nodup) = true := by
    decide +kernel
  exact (Ends.of_any checked).mono fun done _ shared => by simpa using shared

end Commands
end CmdletForge
