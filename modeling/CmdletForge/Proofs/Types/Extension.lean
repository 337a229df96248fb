import CmdletForge.Proofs.Types.Resolution

/-!
# Larger models

Schemas that are added at the end of a model change nothing for those that were there. A search goes through
the same schemas as before; the larger model allows it more steps, but it did not run out of steps before.
Only where a schema was missing may it be found now.
-/

namespace CmdletForge.Resolver

variable {resolver : Resolver} {model larger : Model} {id : SchemaId}

theorem schema?_of_larger (kept : model.schemas <+: larger.schemas) {schema : Schema}
    (found : model.schema? id = some schema) : larger.schema? id = some schema := by
  obtain ⟨more, whole⟩ := kept
  rw [Model.schema?, ← whole, List.getElem?_append_left (Model.lt_size_of_schema? found)]
  exact found

/-- A search that misses no schema comes to the same in a larger model. -/
theorem coreFrom_of_larger (kept : model.schemas <+: larger.schemas) {steps steps' : Nat}
    {inside : List SchemaId} (passed : Passed model steps inside) (more : steps ≤ steps')
    {result : Except Stop Core} (search : resolver.coreFrom model steps inside id = result)
    (whole : ∀ missing, result ≠ .error (.noSchema missing)) :
    resolver.coreFrom larger steps' inside id = result := by
  induction steps generalizing steps' inside id result with
  | zero =>
    obtain ⟨left, none⟩ := passed.steps_pos
    contradiction
  | succ steps ih =>
    obtain ⟨steps', rfl⟩ : ∃ left, steps' = left + 1 := ⟨steps' - 1, by omega⟩
    rw [coreFrom] at search ⊢
    split at search
    next => exact absurd search.symm (whole _)
    next schema found =>
      simp only [schema?_of_larger kept found]
      split at search
      next => exact search
      next wrapper wraps =>
        split at search
        next => exact search
        next items holds =>
          split at search
          next again =>
            rw [if_pos again]
            exact search
          next new =>
            have next := passed.cons (Model.lt_size_of_schema? found) new
            rw [if_neg new, ih next (Nat.le_of_succ_le_succ more) rfl]
            · exact search
            · intro missing none
              simp only [none] at search
              exact whole missing search.symm

/-- A resolution that misses no schema comes to the same in a larger model. -/
theorem resolve_of_larger (kept : model.schemas <+: larger.schemas) {required : Bool} {registry : Registry}
    {result : Except Stop (Declaration × Registry)}
    (made : (resolver.resolve model id required).run registry = result)
    (whole : ∀ missing, result ≠ .error (.noSchema missing)) :
    (resolver.resolve larger id required).run registry = result := by
  have same : resolver.core larger id = resolver.core model id := by
    refine coreFrom_of_larger kept (.start model) ?_ rfl fun missing none => ?_
    · exact Nat.add_le_add_right kept.length_le 2
    · refine whole missing (made.symm.trans ?_)
      rw [resolve, none]
      rfl
  rw [← made, resolve, resolve, same]

/-- What a resolution registers. -/
theorem registry_of_resolve {required : Bool} {registry after : Registry} {declaration : Declaration}
    (made : (resolver.resolve model id required).run registry = .ok (declaration, after)) :
    after = registry.enroll (resolver.type? model id) := by
  cases fails : resolver.failure? model id with
  | some failure =>
    rw [StateT.run, resolve_of_failure fails] at made
    contradiction
  | none =>
    cases found : resolver.core model id with
    | error stop =>
      rw [resolve, found] at made
      contradiction
    | ok core =>
      obtain ⟨_, made', -⟩ := resolve_of_found found fails required registry
      rw [StateT.run, made'] at made
      cases made
      rfl

end CmdletForge.Resolver
