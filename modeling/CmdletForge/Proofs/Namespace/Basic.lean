import CmdletForge.Namespace.Basic

/-!
# Adding definitions

An open namespace takes a definition if and only if it has none of that name.
-/

namespace CmdletForge.Namespace

variable {δ : Type} [Named δ] {space : Namespace δ}

theorem contains_iff {name : String} : space.contains name = true ↔ name ∈ space.names := by
  simp [contains, get?, names]

/-- The namespace with one more definition. -/
def extend (space : Namespace δ) (definition : δ) : Namespace δ :=
  { space with definitions := space.definitions ++ [definition] }

theorem names_extend (definition : δ) :
    (space.extend definition).names = space.names ++ [Named.name definition] := by
  simp [names, extend]

theorem insert_of_fresh (opened : space.phase = .initializing) {definition : δ}
    (fresh : Named.name definition ∉ space.names) :
    space.insert definition = .ok (space.extend definition) := by
  rw [← contains_iff] at fresh
  simp [insert, opened, fresh, extend]

theorem insert_of_taken (opened : space.phase = .initializing) {definition : δ}
    (taken : Named.name definition ∈ space.names) :
    space.insert definition = .error (.duplicateDefinition space.fullName (Named.name definition)) := by
  rw [← contains_iff] at taken
  simp [insert, opened, taken]

/-- A namespace that takes a definition has it at the end. -/
theorem insert_ok {definition : δ} {grown : Namespace δ} (added : space.insert definition = .ok grown) :
    grown = space.extend definition := by
  unfold insert at added
  split at added
  · split at added
    · contradiction
    · exact (Except.ok.inj added).symm
  · contradiction

/-- A definition that is there is changed where it first stands. -/
theorem changeFirst_split {name : String} {change : δ → δ} {definitions : List δ}
    (there : name ∈ definitions.map Named.name) :
    ∃ front definition rest, definitions = front ++ definition :: rest ∧ Named.name definition = name ∧
      changeFirst name change definitions = front ++ change definition :: rest := by
  induction definitions with
  | nil => simp at there
  | cons definition definitions ih =>
    rw [changeFirst]
    by_cases same : Named.name definition = name
    · exact ⟨[], definition, definitions, rfl, same, if_pos same⟩
    · have later : name ∈ definitions.map Named.name :=
        (List.mem_cons.1 there).resolve_left (Ne.symm same)
      obtain ⟨front, other, rest, split, named, changed⟩ := ih later
      refine ⟨definition :: front, other, rest, by rw [split]; rfl, named, ?_⟩
      rw [if_neg same, changed]
      rfl

/-- Where no name comes twice, the first definition of a name is the only one. -/
theorem changeFirst_eq_map {name : String} {change : δ → δ} {definitions : List δ}
    (distinct : (definitions.map Named.name).Nodup) :
    changeFirst name change definitions =
      definitions.map fun definition =>
        if Named.name definition = name then change definition else definition := by
  induction definitions with
  | nil => rfl
  | cons definition rest ih =>
    obtain ⟨fresh, distinct⟩ := List.nodup_cons.1 distinct
    unfold changeFirst
    split
    next same =>
      have others : rest.map (fun other => if Named.name other = name then change other else other) =
          rest.map id := by
        refine List.map_congr_left fun other mem => if_neg fun other_same => fresh ?_
        rw [same, ← other_same]
        exact List.mem_map_of_mem mem
      rw [List.map_cons, if_pos same, others, List.map_id]
    next differ => rw [List.map_cons, if_neg differ, ih distinct]

end CmdletForge.Namespace
