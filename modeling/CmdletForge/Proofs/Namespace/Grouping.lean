import CmdletForge.Namespace.Commands
import CmdletForge.Proofs.Generation.Yields
import CmdletForge.Proofs.Naming.Scanning

/-!
# Groups and actions

The identifier of an operation is read twice. The name of the command is made of the words of the group and those of
the action, which are cut apart at the first underscore; the name of the variant is made of the words of the whole.
Both readings find the same words, because no rule for the beginning of a word looks across a separator. Without
words of an action nothing is cut apart, and the whole is the action.
-/

namespace CmdletForge

open Naming

namespace CommandName

variable {id group action : String}

/-- The group ends at the first underscore. -/
theorem splitGroup?_eq_some_iff :
    splitGroup? id = some (group, action) ↔ id = group ++ "_" ++ action ∧ '_' ∉ group.toList := by
  constructor
  · intro split
    have whole := List.takeWhile_append_dropWhile (p := (· ≠ '_')) (l := id.toList)
    have head := List.head?_dropWhile_not (· ≠ '_') id.toList
    unfold splitGroup? at split
    cases rest : id.toList.dropWhile (· ≠ '_') with
    | nil =>
      rw [rest] at split
      contradiction
    | cons c own =>
      rw [rest] at split head whole
      obtain ⟨rfl, rfl⟩ := Prod.mk.inj (Option.some.inj split)
      obtain rfl : c = '_' := by simpa using head
      refine ⟨String.toList_inj.1 ?_, fun mem => ?_⟩
      · simpa using whole.symm
      · rw [String.toList_ofList] at mem
        simpa using List.all_eq_true.1 List.all_takeWhile '_' mem
  · rintro ⟨rfl, free⟩
    have before : ∀ c ∈ group.toList, decide (c ≠ '_') = true := by
      intro c mem
      rw [decide_eq_true_eq]
      rintro rfl
      exact free mem
    have chars : (group ++ "_" ++ action).toList = group.toList ++ '_' :: action.toList := by simp
    unfold splitGroup?
    rw [chars, List.dropWhile_append_of_pos before, List.takeWhile_append_of_pos before]
    simp

theorem words_of_split (split : splitGroup? id = some (group, action)) :
    words id = words group ++ words action := by
  obtain ⟨rfl, -⟩ := splitGroup?_eq_some_iff.1 split
  exact words_append outside_underscore.apart group action

theorem groupAndAction_of_split (split : splitGroup? id = some (group, action))
    (acts : words action ≠ []) : groupAndAction id = (words group, words action) := by
  simp [groupAndAction, split, acts]

/-- Group and action have the words of the whole. -/
theorem words_groupAndAction (id : String) : (groupAndAction id).1 ++ (groupAndAction id).2 = words id := by
  unfold groupAndAction
  dsimp only
  split
  next => rfl
  next group action split =>
    split
    next => rfl
    next => exact (words_of_split split).symm

end CommandName

/-! ## Names of variants -/

namespace Commands

open CommandName Synthesis

/-- Words in Pascal case, or another name where there are none. -/
def pascalCaseOr (fallback : String) (tokens : List String) : String :=
  if (pascalCase tokens).isEmpty then fallback else pascalCase tokens

theorem pascalOr_eq (fallback identifier : String) :
    pascalOr fallback identifier = pascalCaseOr fallback (words identifier) := by
  unfold pascalOr pascalCaseOr toPascalCase
  rfl

/-- The variant of an operation is named after the words of group and action, or it is the default one. -/
theorem yields_named (source : Source) (run : Run) (operation : Operation) (name : CommandName) :
    Yields source run (defineVariant operation name) fun variant _ => variant.name =
      pascalCaseOr "Default" ((groupAndAction operation.id).1 ++ (groupAndAction operation.id).2) := by
  rw [words_groupAndAction, ← pascalOr_eq]
  refine (Yields.any _).bind fun parameters _ _ => (Yields.any _).bind fun output _ _ => .pure ?_
  dsimp only

/-- **Words of parts.** What separates words separates the words of a text in two. So the words of a group and of an
action are those of the identifier that they make up; and the words that the name of a command is made of are,
in this order, those that the name of the variant is made of. -/
theorem words_apart :
    (∀ (front back : String) (c : Char), Text.isAlphanumeric c = false →
      words (front ++ String.singleton c ++ back) = words front ++ words back) ∧
    (∀ group action : String, '_' ∉ group.toList →
      words (group ++ "_" ++ action) = words group ++ words action ∧
      (words action ≠ [] → groupAndAction (group ++ "_" ++ action) = (words group, words action))) ∧
    ∀ operation : Operation,
      (groupAndAction operation.id).1 ++ (groupAndAction operation.id).2 = words operation.id ∧
      ∀ source run name, Yields source run (defineVariant operation name) fun variant _ => variant.name =
        pascalCaseOr "Default" ((groupAndAction operation.id).1 ++ (groupAndAction operation.id).2) := by
  refine ⟨fun front back c apart => words_append apart front back, fun group action free => ?_,
    fun operation => ⟨words_groupAndAction _, fun source run => yields_named source run operation⟩⟩
  have split : splitGroup? (group ++ "_" ++ action) = some (group, action) :=
    splitGroup?_eq_some_iff.2 ⟨rfl, free⟩
  exact ⟨words_of_split split, groupAndAction_of_split split⟩

/-- Without the separator the small letter would make a word of the last capital. -/
theorem https_apart :
    (Text.isAlphanumeric '_' = false ∧ '_' ∉ "HTTP".toList ∧ words "s" ≠ []) ∧
      words "HTTPs" = ["htt", "ps"] ∧
      words ("HTTP" ++ String.singleton '_' ++ "s") = words "HTTP" ++ words "s" ∧
      groupAndAction ("HTTP" ++ "_" ++ "s") = (["http"], ["s"]) ∧
      Ends ⟨{}, ⟨[]⟩⟩ {} (defineVariant { id := "HTTP_s" } ⟨"S", "Http"⟩) fun variant _ =>
        variant.name = "HttpS" := by
  have apart : Text.isAlphanumeric '_' = false := outside_underscore.apart
  have free : '_' ∉ "HTTP".toList := by decide +kernel
  have group : words "HTTP" = ["http"] := by decide +kernel
  have action : words "s" = ["s"] := by decide +kernel
  have acts : words "s" ≠ [] := by
    rw [action]
    exact List.cons_ne_nil _ _
  obtain ⟨split, grouped, named⟩ := words_apart
  refine ⟨⟨apart, free, acts⟩, by decide +kernel, split _ _ _ apart, ?_, ?_⟩
  · rw [(grouped _ _ free).2 acts, group, action]
  · have made : Ends ⟨{}, ⟨[]⟩⟩ {} (defineVariant { id := "HTTP_s" } ⟨"S", "Http"⟩) fun _ _ => true = true :=
      .of_any (by decide +kernel)
    exact (made.of_yields ((named { id := "HTTP_s" }).2 _ _ _)).mono fun variant _ its =>
      its.trans (by decide +kernel)

end Commands
end CmdletForge
