import CmdletForge.Schema.Validation
import Mathlib.Algebra.GroupWithZero.Nat
import Mathlib.Data.List.Count
import Mathlib.Data.List.Nodup
import Mathlib.Data.List.TakeWhile

/-!
# What validation reports

The report of a model is made by four scans: over the names of the table, over the schemas, over the
identifiers of the operations and, inside that one, over the parameters of each operation. Nothing is
reported of a valid model, and of no other. A fault of one kind does not hide one of another kind, with
one exception: the parameters of an operation are not looked at if its identifier is blank.
-/

namespace CmdletForge

namespace Text

/-- A text is cut down to nothing if there is nothing but white space in it. -/
theorem isEmpty_trim (s : String) : (trim s).isEmpty = isBlankText s := by
  rw [Bool.eq_iff_iff, String.isEmpty_iff, trim, isBlankText, String.ofList_eq_empty_iff,
    List.reverse_eq_nil_iff, List.dropWhile_eq_nil_iff, List.all_eq_true]
  simp only [List.mem_reverse]
  refine ⟨fun rest c mem => ?_, fun blank c mem => blank c (List.dropWhile_subset _ mem)⟩
  rw [← List.takeWhile_append_dropWhile (p := isBlank) (l := s.toList)] at mem
  rcases List.mem_append.1 mem with mem | mem
  · exact List.mem_takeWhile_imp mem
  · exact rest c mem

end Text

/-! ## Repetitions -/

/-- A text is repeated once less often than it stands there, or as often if it was seen before. -/
theorem count_repeated (seen texts : List String) (text : String) :
    (repeated seen texts).count text = if text ∈ seen then texts.count text else texts.count text - 1 := by
  induction texts generalizing seen with
  | nil => simp [repeated]
  | cons first rest ih =>
    unfold repeated
    by_cases same : first = text
    · subst same
      by_cases old : first ∈ seen
      · simp [old, ih]
      · simp [old, ih]
    · by_cases old : first ∈ seen
      · simp [old, ih, same]
      · simp [old, ih, same, Ne.symm same]

theorem repeated_eq_nil_iff (texts : List String) : repeated [] texts = [] ↔ texts.Nodup := by
  rw [List.nodup_iff_count_le_one, List.eq_nil_iff_forall_not_mem]
  simp only [← List.count_eq_zero, count_repeated, List.not_mem_nil, if_false, Nat.sub_eq_zero_iff_le]

/-- The names of the parameters of an operation, in order. -/
def Operation.parameterNames (operation : Operation) : List String := operation.parameters.map (·.name)

namespace Model

/-! ## Valid models -/

/-- A model in which nothing is blank, nothing is repeated and nothing required is missing. -/
structure Valid (model : Model) : Prop where
  /-- No name in the table is blank. -/
  named : ∀ entry ∈ model.table, Text.isBlankText entry.1 = false
  /-- No two entries of the table have one name. -/
  names : (model.table.map Prod.fst).Nodup
  /-- An object has the properties it requires. -/
  required : ∀ schema ∈ model.schemas, schema.kind = .object → ∀ name ∈ schema.required,
    ∃ property ∈ schema.properties, property.name = name
  /-- No identifier is blank. -/
  identified : ∀ operation ∈ model.operations, Text.isBlankText operation.id = false
  /-- No two operations have one identifier, white space around it aside. -/
  ids : (model.operations.map fun operation => Text.trim operation.id).Nodup
  /-- No two parameters of an operation have one name. -/
  parameters : ∀ operation ∈ model.operations, operation.parameterNames.Nodup

theorem nameIssues_eq_nil_iff {names seen : List String} : nameIssues seen names = [] ↔
    (∀ name ∈ names, Text.isBlankText name = false) ∧ names.Nodup ∧ ∀ name ∈ names, name ∉ seen := by
  induction names generalizing seen with
  | nil => simp [nameIssues]
  | cons name rest ih =>
    unfold nameIssues
    by_cases blank : Text.isBlankText name
    · simp [blank]
    · by_cases old : name ∈ seen
      · simp [blank, old]
      · simp only [blank, old, Bool.false_eq_true, if_false, ih, List.nodup_cons, List.mem_cons, not_or]
        grind

theorem objectIssues_eq_nil_iff {schema : Schema} : objectIssues schema = [] ↔
    (schema.kind = .object → ∀ name ∈ schema.required,
      ∃ property ∈ schema.properties, property.name = name) := by
  unfold objectIssues
  by_cases object : schema.kind = .object <;> simp [object]

theorem parameterIssues_eq_nil_iff {id : String} {operation : Operation} :
    parameterIssues id operation.parameters = [] ↔ operation.parameterNames.Nodup := by
  rw [parameterIssues, List.map_eq_nil_iff, repeated_eq_nil_iff, Operation.parameterNames]

theorem operationIssues_eq_nil_iff {operations : List Operation} {seen : List String} :
    operationIssues seen operations = [] ↔
      (∀ operation ∈ operations, Text.isBlankText operation.id = false ∧
        operation.parameterNames.Nodup ∧ Text.trim operation.id ∉ seen) ∧
      (operations.map fun operation => Text.trim operation.id).Nodup := by
  induction operations generalizing seen with
  | nil => simp [operationIssues]
  | cons operation rest ih =>
    unfold operationIssues
    simp only [Text.isEmpty_trim]
    by_cases blank : Text.isBlankText operation.id
    · simp [blank]
    · by_cases old : Text.trim operation.id ∈ seen
      · simp [blank, old]
      · simp only [blank, old, Bool.false_eq_true, if_false, List.append_eq_nil_iff,
          parameterIssues_eq_nil_iff, ih, List.map_cons, List.nodup_cons, List.mem_cons, List.mem_map,
          not_or, true_and]
        grind

/-- **Nothing is reported of a model exactly if it is valid.** -/
theorem issues_eq_nil_iff (model : Model) : model.issues = [] ↔ model.Valid := by
  simp only [issues, List.append_eq_nil_iff, nameIssues_eq_nil_iff, List.flatMap_eq_nil_iff,
    objectIssues_eq_nil_iff, operationIssues_eq_nil_iff, List.not_mem_nil, not_false_eq_true,
    implies_true, and_true, List.forall_mem_map]
  constructor
  · rintro ⟨⟨⟨named, names⟩, required⟩, operations, ids⟩
    exact
      { named, names, required, ids
        identified := fun operation mem => (operations operation mem).1
        parameters := fun operation mem => (operations operation mem).2 }
  · intro valid
    exact ⟨⟨⟨valid.named, valid.names⟩, valid.required⟩,
      fun operation mem => ⟨valid.identified operation mem, valid.parameters operation mem⟩, valid.ids⟩

end Model

/-! ## Parameters that repeat one another -/

namespace Operation

/-- What a report has of an operation: that its identifier is blank, and then no more, or else each
parameter name once less often than the operation has it. -/
structure Reported (operation : Operation) (own : List ModelIssue) : Prop where
  blank : Text.isBlankText operation.id = true → own = [.emptyOperationId]
  repeats : Text.isBlankText operation.id = false → ∀ name,
    own.count (.duplicateParameter (Text.trim operation.id) name) = operation.parameterNames.count name - 1
  elsewhere : ∀ id name, .duplicateParameter id name ∈ own → id = Text.trim operation.id

/-- How many repetitions of a name there are in the report of an operation. -/
def reportedRepeats (operation : Operation) (name : String) : Nat :=
  if Text.isBlankText operation.id then 0 else operation.parameterNames.count name - 1

theorem Reported.count {operation : Operation} {own : List ModelIssue} (reported : operation.Reported own)
    (id name : String) : own.count (.duplicateParameter id name) =
      if Text.trim operation.id = id then operation.reportedRepeats name else 0 := by
  unfold reportedRepeats
  by_cases its : Text.trim operation.id = id
  · subst its
    by_cases blank : Text.isBlankText operation.id
    · simp [blank, reported.blank blank]
    · rw [Bool.not_eq_true] at blank
      simp [blank, reported.repeats blank]
  · rw [if_neg its, List.count_eq_zero]
    exact fun mem => its (reported.elsewhere id name mem).symm

end Operation

namespace Model

theorem count_parameterIssues (id name : String) (operation : Operation) :
    (parameterIssues id operation.parameters).count (.duplicateParameter id name) =
      operation.parameterNames.count name - 1 := by
  have injective : Function.Injective (ModelIssue.duplicateParameter id) := by
    intro one other same
    injection same
  rw [parameterIssues, List.count_map_of_injective _ _ injective, count_repeated,
    if_neg List.not_mem_nil, Operation.parameterNames]

/-- The scan over the operations reports of one after the other. -/
theorem exists_reports_of_operations (seen : List String) (operations : List Operation) :
    ∃ reports, operationIssues seen operations = reports.flatten ∧
      List.Forall₂ Operation.Reported operations reports := by
  induction operations generalizing seen with
  | nil => exact ⟨[], rfl, .nil⟩
  | cons operation rest ih =>
    unfold operationIssues
    simp only [Text.isEmpty_trim]
    by_cases blank : Text.isBlankText operation.id
    · obtain ⟨reports, whole, others⟩ := ih seen
      refine ⟨[.emptyOperationId] :: reports, by simp [blank, whole], .cons ?_ others⟩
      exact { blank := fun _ => rfl, repeats := by simp [blank], elsewhere := by simp }
    · rw [Bool.not_eq_true] at blank
      obtain ⟨reports, whole, others⟩ := ih (Text.trim operation.id :: seen)
      refine ⟨_ :: reports, by rw [blank, whole]; rfl, .cons ?_ others⟩
      refine { blank := by simp [blank], repeats := fun _ name => ?_, elsewhere := fun id name mem => ?_ }
      · rw [List.count_append, count_parameterIssues, List.count_eq_zero.2 (by split <;> simp), Nat.zero_add]
      · have own : .duplicateParameter id name ∈ parameterIssues (Text.trim operation.id) operation.parameters :=
          (List.mem_append.1 mem).resolve_left (by split <;> simp)
        obtain ⟨other, -, same⟩ := List.mem_map.1 own
        injection same with same
        exact same.symm

/-- The scans over the table and the schemas have nothing to do with parameters. -/
theorem not_mem_names_objects (model : Model) (id name : String) : .duplicateParameter id name ∉
    nameIssues [] (model.table.map Prod.fst) ++ model.schemas.flatMap objectIssues := by
  have named (names seen : List String) : .duplicateParameter id name ∉ nameIssues seen names := by
    induction names generalizing seen with
    | nil => simp [nameIssues]
    | cons first rest ih => unfold nameIssues; split_ifs <;> simp [ih]
  simp only [List.mem_append, List.mem_flatMap, not_or, not_exists, not_and]
  refine ⟨named _ _, fun schema _ => ?_⟩
  unfold objectIssues
  split <;> simp

/-- **Every repetition of a parameter is in the report once, and for its own operation**, so a name that an
operation has several times is reported once less often. The exception is an operation whose identifier is
blank: of that one the identifier is reported and nothing else. -/
theorem exists_reports (model : Model) :
    (∃ others reports, model.issues = others ++ reports.flatten ∧
      List.Forall₂ Operation.Reported model.operations reports ∧
      ∀ id name, .duplicateParameter id name ∉ others) ∧
    ∀ id name, model.issues.count (.duplicateParameter id name) =
      (model.operations.map fun operation =>
        if Text.trim operation.id = id then operation.reportedRepeats name else 0).sum := by
  obtain ⟨reports, whole, reported⟩ := exists_reports_of_operations [] model.operations
  have all : model.issues = (nameIssues [] (model.table.map Prod.fst) ++
      model.schemas.flatMap objectIssues) ++ reports.flatten := by rw [issues, whole]
  have others := not_mem_names_objects model
  refine ⟨⟨_, reports, all, reported, others⟩, fun id name => ?_⟩
  rw [all, List.count_append, List.count_eq_zero.2 (others id name), Nat.zero_add]
  clear whole all others
  generalize model.operations = operations at reported
  induction reported with
  | nil => rfl
  | cons first _ ih => rw [List.flatten_cons, List.count_append, first.count, ih, List.map_cons, List.sum_cons]

/-- One operation that has no identifier to speak of, and twice a parameter *id*. -/
def nameless : Model where
  schemas := [{ kind := .primitive .string, path := "operations//parameters/id" }]
  operations := [{ id := " ", parameters := [{ name := "id", schema := 0 },
    { name := "id", location := .header, schema := 0 }] }]

/-- A blank identifier keeps a repeated parameter out of the report. -/
theorem nameless_unreported : nameless.issues = [.emptyOperationId] ∧
    ¬ ∀ model : Model, ∀ operation ∈ model.operations, ∀ name ∈ operation.parameterNames,
      operation.parameterNames.count name - 1 ≤
        model.issues.count (.duplicateParameter (Text.trim operation.id) name) := by
  have only : nameless.issues = [.emptyOperationId] := by decide +kernel
  refine ⟨only, fun all => ?_⟩
  have found := all nameless _ List.mem_cons_self "id" List.mem_cons_self
  rw [only] at found
  exact absurd found (by decide +kernel)

end Model
end CmdletForge
