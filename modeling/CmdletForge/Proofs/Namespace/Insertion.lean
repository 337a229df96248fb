import CmdletForge.Namespace.ModelCommands
import CmdletForge.Namespace.Support
import CmdletForge.Proofs.Namespace.Commands

/-!
# Namespaces that only get definitions

The namespaces of runtime types and of model commands get their definitions one after the other and
declare nothing. A namespace takes them all if and only if their names are different. The model commands
are named after the types of one namespace, and so they are; runtime types are named by the overrides,
and there a name may come twice.
-/

namespace CmdletForge

/-! ## Runtime types -/

namespace Support

open Synthesis

variable {source : Source} {run : Run} {space : Namespace SupportDefinition}
  {types : List SupportType}

theorem names_define (type : SupportType) (rest : List SupportType) :
    (space.extend (define space.fullName type)).names ++ rest.map (·.name) =
      space.names ++ (type :: rest).map (·.name) := by
  rw [Namespace.names_extend, List.append_assoc]
  rfl

theorem ends_addAll (opened : space.phase = .initializing)
    (distinct : (space.names ++ types.map (·.name)).Nodup) :
    Ends source run (addAll space types) fun done after =>
      done.phase = .initializing ∧ Declared source [] run after := by
  induction types generalizing run space with
  | nil => exact .pure ⟨opened, .refl run⟩
  | cons type rest ih =>
    have fresh : type.name ∉ space.names := by
      intro taken
      exact (List.nodup_append.1 distinct).2.2 _ taken type.name (by simp) rfl
    refine (ends_note _).bind fun _ noted first => ?_
    refine .orFail (Namespace.insert_of_fresh opened fresh) ?_
    rw [← names_define] at distinct
    have opened' : (space.extend (define space.fullName type)).phase = .initializing := opened
    refine (ih opened' distinct).mono ?_
    rintro done after ⟨phase, second⟩
    exact ⟨phase, first.nil_trans second⟩

/-- A stop by a name that a namespace has already. -/
def Repeats (space : String) (stop : Stop) : Prop :=
  ∃ name, stop = .failure (.duplicateDefinition space name)

theorem fails_addAll (opened : space.phase = .initializing) (held : space.names.Nodup)
    (repeats : ¬ (space.names ++ types.map (·.name)).Nodup) :
    Fails source run (addAll space types) fun stop after =>
      Repeats space.fullName stop ∧ Declared source [] run after := by
  induction types generalizing run space with
  | nil => exact absurd (by simpa using held) repeats
  | cons type rest ih =>
    refine (ends_note _).bind_fails fun _ noted first => ?_
    by_cases taken : type.name ∈ space.names
    · refine Fails.bind ((fails_orFail (Namespace.insert_of_taken opened taken)).mono ?_)
      rintro _ _ ⟨rfl, rfl⟩
      exact ⟨⟨type.name, rfl⟩, first⟩
    · have held' : (space.extend (define space.fullName type)).names.Nodup := by
        have apart : List.Disjoint space.names [type.name] := by simpa using taken
        rw [Namespace.names_extend]
        exact List.nodup_append.2 ⟨held, by simp, List.disjoint_iff_ne.1 apart⟩
      rw [← names_define] at repeats
      refine .orFail (Namespace.insert_of_fresh opened taken) ?_
      have opened' : (space.extend (define space.fullName type)).phase = .initializing := opened
      refine (ih opened' held' repeats).mono ?_
      rintro stop after ⟨repeats, second⟩
      exact ⟨repeats, first.nil_trans second⟩

/-- The names of the runtime types that overrides bring. -/
def names (resolver : Resolver) : List String :=
  (resolver.overrides.filterMap (·.support)).map (·.name)

/-- The namespace of runtime types is built if their names are different. -/
theorem ends_build (distinct : (names source.resolver).Nodup) (service : Service) :
    Ends source run (build service) fun space after =>
      space.phase = .finalized ∧ Declared source [] run after := by
  refine (ends_begin rfl).bind ?_
  rintro _ opened ⟨rfl, first⟩
  refine .read (Ends.bind (ends_addAll rfl distinct) ?_)
  rintro space added ⟨phase, second⟩
  refine (ends_finalize (by rw [phase]; simp)).mono ?_
  rintro _ after ⟨rfl, third⟩
  exact ⟨rfl, (first.nil_trans second).nil_trans third⟩

/-- If a name comes twice, the build of the namespace stops at its second occurrence. -/
theorem fails_build (repeats : ¬ (names source.resolver).Nodup) (service : Service) :
    Fails source run (build service) fun stop after =>
      Repeats (service.child "Support") stop ∧ Declared source [] run after := by
  refine (ends_begin rfl).bind_fails ?_
  rintro _ opened ⟨rfl, first⟩
  refine .read (Fails.bind (Fails.mono (fails_addAll rfl List.nodup_nil repeats) ?_))
  rintro stop after ⟨stops, second⟩
  exact ⟨stops, first.nil_trans second⟩

end Support

/-! ## Model commands -/

namespace ModelCommands

open Synthesis

variable {source : Source} {run : Run} {space : Namespace CommandDefinition}
  {spaces : Commands.CommandSpaces}

/-- Commands of types of different names have different names. -/
theorem nameOf_injective {model model' : ModelDefinition}
    (same : (nameOf spaces model).text = (nameOf spaces model').text) : model.name = model'.name := by
  have chars := congrArg String.toList same
  simp only [nameOf, CommandName.text, String.toList_append, List.append_assoc,
    List.append_cancel_left_eq, List.append_cancel_right_eq] at chars
  exact String.toList_inj.1 chars

theorem ends_addAll {models : List ModelDefinition} (opened : space.phase = .initializing)
    (distinct : (space.names ++ models.map fun model => (nameOf spaces model).text).Nodup) :
    Ends source run (addAll spaces models space) fun done after =>
      done.phase = .initializing ∧ Declared source [] run after := by
  induction models generalizing run space with
  | nil => exact .pure ⟨opened, .refl run⟩
  | cons model rest ih =>
    have fresh : (nameOf spaces model).text ∉ space.names := by
      intro taken
      exact (List.nodup_append.1 distinct).2.2 _ taken _ (by simp) rfl
    have split : (space.extend (define spaces model)).names ++
        rest.map (fun model => (nameOf spaces model).text) =
          space.names ++ (model :: rest).map fun model => (nameOf spaces model).text := by
      rw [Namespace.names_extend, List.append_assoc]
      rfl
    refine (ends_note _).bind fun _ noted first => ?_
    refine .orFail (Namespace.insert_of_fresh opened fresh) ?_
    rw [← split] at distinct
    have opened' : (space.extend (define spaces model)).phase = .initializing := opened
    refine (ih opened' distinct).mono ?_
    rintro done after ⟨phase, second⟩
    exact ⟨phase, first.nil_trans second⟩

/-- The model commands are built if the types have different names. -/
theorem ends_build {models : Namespace ModelDefinition} (new : space.phase = .constructed)
    (bare : space.definitions = []) (distinct : (models.definitions.map (·.name)).Nodup) :
    Ends source run (build space models spaces) fun done after =>
      done.phase = .finalized ∧ Declared source [] run after := by
  refine (ends_begin new).bind ?_
  rintro _ opened ⟨rfl, first⟩
  have names : ((models.definitions.filter fun model => model.form = .record).map fun model =>
      (nameOf spaces model).text).Nodup := by
    have records : ((models.definitions.filter fun model => model.form = .record).map
        (·.name)).Nodup := distinct.sublist (List.filter_sublist.map _)
    have injective := List.inj_on_of_nodup_map records
    exact (List.Nodup.of_map _ records).map_on fun model mem model' mem' same =>
      injective mem mem' (nameOf_injective same)
  refine Ends.bind (ends_addAll rfl (by simpa [Namespace.names, bare] using names)) ?_
  rintro done added ⟨phase, second⟩
  refine (ends_finalize (by rw [phase]; simp)).mono ?_
  rintro _ after ⟨rfl, third⟩
  exact ⟨rfl, (first.nil_trans second).nil_trans third⟩

end ModelCommands
end CmdletForge
