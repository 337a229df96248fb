import CmdletForge.Proofs.Order.FirstSeen
import CmdletForge.Proofs.Types.Resolution
import Mathlib.Data.List.Infix

/-!
# The types that are reached

From roots, a generation comes to the types that they lead to, from there to the members of these types,
and so on. `Reached` says which types these are and `BreadthFirst` in which order they are first seen,
without a queue. There is one such order at most.
-/

namespace CmdletForge.Resolver

variable {resolver : Resolver} {model : Model} {roots : List SchemaId}

/-- The schemas that are looked at: the roots, and the members of every type that one of them leads
to. -/
inductive Visited (resolver : Resolver) (model : Model) (roots : List SchemaId) : SchemaId → Prop
  | root {id : SchemaId} (mem : id ∈ roots) : Visited resolver model roots id
  | member {outer target id : SchemaId} (visited : Visited resolver model roots outer)
      (targets : resolver.Targets model outer target) (mem : id ∈ model.members target) :
      Visited resolver model roots id

/-- The types that are reached: those that the visited schemas lead to. -/
def Reached (resolver : Resolver) (model : Model) (roots : List SchemaId) (target : SchemaId) : Prop :=
  ∃ id, Visited resolver model roots id ∧ resolver.Targets model id target

/-- The types that schemas lead to, one after the other. A schema that leads to no type is passed
over. -/
inductive Meets (resolver : Resolver) (model : Model) : List SchemaId → List SchemaId → Prop
  | nil : Meets resolver model [] []
  | met {id target : SchemaId} {ids targets : List SchemaId} (first : resolver.Targets model id target)
      (rest : Meets resolver model ids targets) : Meets resolver model (id :: ids) (target :: targets)
  | passed {id : SchemaId} {ids targets : List SchemaId}
      (none : ∀ target, ¬ resolver.Targets model id target) (rest : Meets resolver model ids targets) :
      Meets resolver model (id :: ids) targets

/-- The order in which types are first seen, breadth first: the reached types, each once, as they are met
at the roots and then at the members of the types of the order itself. -/
structure BreadthFirst (resolver : Resolver) (model : Model) (roots order : List SchemaId) : Prop where
  distinct : order.Nodup
  complete : ∀ id, id ∈ order ↔ Reached resolver model roots id
  firstSeen : ∃ met, Meets resolver model (roots ++ order.flatMap model.members) met ∧
    order = met.eraseDups

theorem meets_iff {ids met : List SchemaId} :
    Meets resolver model ids met ↔ met = ids.filterMap (resolver.target? model) := by
  constructor
  · intro meets
    induction meets with
    | nil => rfl
    | met first rest ih => rw [List.filterMap_cons, target?_eq_some_iff.2 first, ih]
    | @passed id ids targets none rest ih =>
      cases found : resolver.target? model id with
      | none => rw [List.filterMap_cons, found, ih]
      | some target => exact absurd (target?_eq_some_iff.1 found) (none target)
  · rintro rfl
    induction ids with
    | nil => exact .nil
    | cons id rest ih =>
      rw [List.filterMap_cons]
      cases found : resolver.target? model id with
      | none =>
        refine .passed (fun target targets => ?_) ih
        rw [target?_eq_some_iff.2 targets] at found
        contradiction
      | some target => exact .met (target?_eq_some_iff.1 found) ih

/-! ## Closed lists -/

/-- The types that are met at the roots and at the members of some types. -/
def metFrom (resolver : Resolver) (model : Model) (roots order : List SchemaId) : List SchemaId :=
  (roots ++ order.flatMap model.members).filterMap (resolver.target? model)

theorem metFrom_begins {front order : List SchemaId} (whole : front <+: order) :
    metFrom resolver model roots front <+: metFrom resolver model roots order := by
  obtain ⟨rest, rfl⟩ := whole
  refine List.IsPrefix.filterMap _ ⟨rest.flatMap model.members, ?_⟩
  rw [List.flatMap_append, List.append_assoc]

/-- Types that contain all that is met at their own members contain all that is reached. -/
theorem visited_of_closed {order : List SchemaId} (closed : metFrom resolver model roots order ⊆ order)
    {id : SchemaId} (visited : Visited resolver model roots id) :
    id ∈ roots ++ order.flatMap model.members := by
  induction visited with
  | root mem => exact List.mem_append_left _ mem
  | member visited targets mem ih =>
    have known := closed (List.mem_filterMap.2 ⟨_, ih, target?_eq_some_iff.2 targets⟩)
    exact List.mem_append_right _ (List.mem_flatMap.2 ⟨_, known, mem⟩)

theorem reached_of_closed {order : List SchemaId} (closed : metFrom resolver model roots order ⊆ order)
    {target : SchemaId} (reached : Reached resolver model roots target) : target ∈ order := by
  obtain ⟨id, visited, targets⟩ := reached
  have known := visited_of_closed closed visited
  exact closed (List.mem_filterMap.2 ⟨id, known, target?_eq_some_iff.2 targets⟩)

/-! ## The order -/

theorem BreadthFirst.eq_metFrom {order : List SchemaId} (h : BreadthFirst resolver model roots order) :
    order = (metFrom resolver model roots order).eraseDups := by
  obtain ⟨met, meets, same⟩ := h.firstSeen
  rwa [meets_iff.1 meets] at same

theorem BreadthFirst.known {front order : List SchemaId}
    (h : BreadthFirst resolver model roots order) (whole : front <+: order) :
    (metFrom resolver model roots front).eraseDups <+: order := by
  have first : (metFrom resolver model roots front).eraseDups <+:
      (metFrom resolver model roots order).eraseDups := eraseDups_begins (metFrom_begins whole)
  rwa [← h.eq_metFrom] at first

/-- Any beginning of one order is the beginning of any other. The types that are met at its members
begin both orders: either there is one more among them, or the beginning is closed and already
all that is reached. -/
theorem BreadthFirst.beginning {order order' : List SchemaId}
    (h : BreadthFirst resolver model roots order) (h' : BreadthFirst resolver model roots order')
    (n : Nat) (inside : n ≤ order.length) : order.take n <+: order' := by
  induction n with
  | zero => simp
  | succ n ih =>
    have begins : order.take n <+: order := List.take_prefix n order
    have begins' : order.take (n + 1) <+: order := List.take_prefix (n + 1) order
    have front := ih (by omega)
    have known := h.known begins
    have length : (order.take n).length = n := List.length_take_of_le (by omega)
    by_cases more : n < (metFrom resolver model roots (order.take n)).eraseDups.length
    · have next : order.take (n + 1) <+: (metFrom resolver model roots (order.take n)).eraseDups := by
        refine List.prefix_of_prefix_length_le begins' known ?_
        rw [List.length_take]
        omega
      exact next.trans (h'.known front)
    · have closed : metFrom resolver model roots (order.take n) ⊆ order.take n := by
        intro target mem
        have all := List.prefix_of_prefix_length_le known begins (by omega)
        exact all.subset (List.mem_eraseDups.2 mem)
      have all : order ⊆ order.take n := fun target mem =>
        reached_of_closed closed ((h.complete target).1 mem)
      have short := (List.subperm_of_subset h.distinct all).length_le
      omega

theorem BreadthFirst.unique {order order' : List SchemaId}
    (h : BreadthFirst resolver model roots order) (h' : BreadthFirst resolver model roots order') :
    order = order' := by
  have one := h.beginning h' order.length le_rfl
  have other := h'.beginning h order'.length le_rfl
  rw [List.take_length] at one other
  exact one.eq_of_length_le other.length_le

end CmdletForge.Resolver
