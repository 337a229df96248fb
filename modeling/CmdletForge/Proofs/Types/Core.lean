import CmdletForge.Proofs.Schema.Closed
import CmdletForge.Types.Resolver

/-!
# Where a schema leads

A schema leads through lists and maps to what they hold in the end. `Leads` says so without a search,
and the search for the core of a schema finds exactly what it leads to: a collection that is met again
on the way leads nowhere, and as no schema is passed twice the search never runs out of steps.
-/

namespace CmdletForge.Resolver

variable {resolver : Resolver} {model : Model} {id core core' : SchemaId} {schema : Schema}

/-- No override applies to a schema. -/
def Unmatched (resolver : Resolver) (schema : Schema) : Prop :=
  ∀ override ∈ resolver.overrides, override.applies schema = false

/-- A list or a map that no override applies to. -/
def Unwraps (resolver : Resolver) (schema : Schema) : Prop :=
  resolver.Unmatched schema ∧ (schema.kind = .array ∨ schema.kind = .map)

/-- A schema leads to its core through as many collections as `depth` says. -/
inductive Leads (resolver : Resolver) (model : Model) : Nat → SchemaId → SchemaId → Prop
  | core {id : SchemaId} {schema : Schema} (found : model.schema? id = some schema)
      (last : ¬ resolver.Unwraps schema) : Leads resolver model 0 id id
  | inside {depth : Nat} {id items core : SchemaId} {schema : Schema}
      (found : model.schema? id = some schema) (unwraps : resolver.Unwraps schema)
      (holds : schema.items = some items) (rest : Leads resolver model depth items core) :
      Leads resolver model (depth + 1) id core

/-- A schema leads to one core, in one way. -/
theorem Leads.unique {depth depth' : Nat} (h : Leads resolver model depth id core)
    (h' : Leads resolver model depth' id core') : depth = depth' ∧ core = core' := by
  induction h generalizing depth' with
  | core found last =>
    cases h' with
    | core => exact ⟨rfl, rfl⟩
    | inside found' unwraps =>
      obtain rfl := Option.some.inj (found.symm.trans found')
      exact absurd unwraps last
  | inside found unwraps holds rest ih =>
    cases h' with
    | core found' last =>
      obtain rfl := Option.some.inj (found.symm.trans found')
      exact absurd unwraps last
    | inside found' unwraps' holds' rest' =>
      obtain rfl := Option.some.inj (found.symm.trans found')
      obtain rfl := Option.some.inj (holds.symm.trans holds')
      obtain ⟨rfl, rfl⟩ := ih rest'
      exact ⟨rfl, rfl⟩

/-! ## The search -/

theorem override?_eq_none : resolver.override? schema = none ↔ resolver.Unmatched schema := by
  simp [override?, Unmatched]

theorem wrapper?_eq_none : resolver.wrapper? schema = none ↔ ¬ resolver.Unwraps schema := by
  unfold wrapper? Unwraps
  rw [← override?_eq_none]
  cases found : resolver.override? schema with
  | some override => simp
  | none => cases kind : schema.kind <;> simp

theorem unwraps_of_wrapper? {wrapper : Wrapper} (h : resolver.wrapper? schema = some wrapper) :
    resolver.Unwraps schema := by
  by_contra last
  rw [wrapper?_eq_none.2 last] at h
  contradiction

/-- What is found is where the schema leads. -/
theorem leads_of_coreFrom {steps : Nat} {inside : List SchemaId} {found : Core}
    (h : resolver.coreFrom model steps inside id = .ok found) :
    ∃ depth, Leads resolver model depth id found.id ∧
      model.schema? found.id = some found.schema ∧ ¬ resolver.Unwraps found.schema := by
  induction steps generalizing inside id found with
  | zero => simp [coreFrom] at h
  | succ steps ih =>
    rw [coreFrom] at h
    split at h
    next => contradiction
    next schema here =>
      split at h
      next plain =>
        obtain rfl := Except.ok.inj h
        have last := wrapper?_eq_none.1 plain
        exact ⟨0, .core here last, here, last⟩
      next wrapper wraps =>
        split at h
        next => contradiction
        next items holds =>
          split at h
          next => contradiction
          next =>
            split at h
            next => contradiction
            next core rest =>
              obtain rfl := Except.ok.inj h
              obtain ⟨depth, leads, at_, last⟩ := ih rest
              exact ⟨depth + 1, .inside here (unwraps_of_wrapper? wraps) holds leads, at_, last⟩

/-- The collections that a search has passed: different ones, all in the model. -/
structure Passed (model : Model) (steps : Nat) (inside : List SchemaId) : Prop where
  distinct : inside.Nodup
  inRange : ∀ id ∈ inside, id < model.size
  steps : steps + inside.length = model.size + 2

theorem Passed.steps_pos {steps : Nat} {inside : List SchemaId} (passed : Passed model steps inside) :
    ∃ left, steps = left + 1 := by
  have length := Model.length_le_size passed.distinct passed.inRange
  have total := passed.steps
  exact ⟨steps - 1, by omega⟩

theorem Passed.cons {steps : Nat} {inside : List SchemaId}
    (passed : Passed model (steps + 1) inside) (bound : id < model.size) (new : id ∉ inside) :
    Passed model steps (id :: inside) := by
  refine ⟨List.nodup_cons.2 ⟨new, passed.distinct⟩, ?_, ?_⟩
  · simpa using ⟨bound, passed.inRange⟩
  · have total := passed.steps
    simp only [List.length_cons]
    omega

/-- Where a schema leads is found. The collections passed so far lie further from the core than the
schema does, so it is none of them. -/
theorem coreFrom_of_leads {depth steps : Nat} {inside : List SchemaId}
    (leads : Leads resolver model depth id core) (passed : Passed model steps inside)
    (further : ∀ outer ∈ inside, ∃ more, depth < more ∧ Leads resolver model more outer core) :
    ∃ found, resolver.coreFrom model steps inside id = .ok found ∧ found.id = core := by
  induction leads generalizing steps inside with
  | core found last =>
    obtain ⟨left, rfl⟩ := passed.steps_pos
    exact ⟨_, by rw [coreFrom]; simp only [found, wrapper?_eq_none.2 last]; rfl, rfl⟩
  | @inside depth id items core schema found unwraps holds rest ih =>
    obtain ⟨left, rfl⟩ := passed.steps_pos
    have new : id ∉ inside := by
      intro mem
      obtain ⟨more, deeper, leads⟩ := further id mem
      have same := (leads.unique (.inside found unwraps holds rest)).1
      omega
    obtain ⟨below, search, same⟩ := ih (passed.cons (Model.lt_size_of_schema? found) new) (by
      intro outer mem
      rcases List.mem_cons.1 mem with rfl | mem
      · exact ⟨depth + 1, Nat.lt_succ_self depth, .inside found unwraps holds rest⟩
      · obtain ⟨more, deeper, leads⟩ := further outer mem
        exact ⟨more, Nat.lt_of_succ_lt deeper, leads⟩)
    obtain ⟨wrapper, wraps⟩ : ∃ wrapper, resolver.wrapper? schema = some wrapper := by
      cases wraps : resolver.wrapper? schema with
      | none => exact absurd unwraps (wrapper?_eq_none.1 wraps)
      | some wrapper => exact ⟨wrapper, rfl⟩
    refine ⟨{ below with wrappers := wrapper :: below.wrappers }, ?_, same⟩
    rw [coreFrom]
    simp only [found, wraps, holds, if_neg new, search]

theorem Passed.start (model : Model) : Passed model (model.size + 2) [] := by
  constructor <;> simp

/-- In a closed model the search never asks for a schema that is not there. -/
theorem coreFrom_ne_noSchema (closed : model.Closed) {steps : Nat} {inside : List SchemaId}
    (passed : Passed model steps inside) (bound : id < model.size) (missing : SchemaId) :
    resolver.coreFrom model steps inside id ≠ .error (.noSchema missing) := by
  induction steps generalizing inside id with
  | zero =>
    obtain ⟨left, none⟩ := passed.steps_pos
    omega
  | succ steps ih =>
    obtain ⟨schema, found⟩ := Model.exists_schema bound
    rw [coreFrom]
    simp only [found]
    split
    next => simp
    next wrapper wraps =>
      split
      next => simp [Schema.unsupported]
      next items holds =>
        split
        next => simp [Schema.unsupported]
        next new =>
          have next := closed.items schema (Model.mem_of_schema? found) items holds
          have none := ih (passed.cons bound new) next
          split
          next stop stopped =>
            rw [stopped] at none
            exact none
          next => simp

/-- A search only fails on a schema in no declarable shape. -/
theorem unsupported_of_coreFrom {steps : Nat} {inside : List SchemaId} {failure : Failure}
    (fails : resolver.coreFrom model steps inside id = .error (.failure failure)) :
    ∃ path kind, failure = .unsupportedSchema path kind := by
  induction steps generalizing inside id with
  | zero => simp [coreFrom] at fails
  | succ steps ih =>
    rw [coreFrom] at fails
    split at fails
    next => simp at fails
    next schema found =>
      split at fails
      next => simp at fails
      next wrapper wraps =>
        split at fails
        next =>
          obtain rfl : _ = failure := by simpa [Schema.unsupported] using fails
          exact ⟨_, _, rfl⟩
        next items holds =>
          split at fails
          next =>
            obtain rfl : _ = failure := by simpa [Schema.unsupported] using fails
            exact ⟨_, _, rfl⟩
          next =>
            split at fails
            next stop stopped =>
              rw [← stopped] at fails
              exact ih fails
            next => simp at fails

/-- The core of a schema is where it leads. -/
theorem core_iff : (∃ found, resolver.core model id = .ok found ∧ found.id = core) ↔
    ∃ depth, Leads resolver model depth id core := by
  constructor
  · rintro ⟨found, search, rfl⟩
    obtain ⟨depth, leads, -⟩ := leads_of_coreFrom search
    exact ⟨depth, leads⟩
  · rintro ⟨depth, leads⟩
    exact coreFrom_of_leads leads (.start model) (by simp)

end CmdletForge.Resolver
