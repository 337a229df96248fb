import CmdletForge.Proofs.Order.FirstSeen
import CmdletForge.Proofs.Output.Rewriting

/-!
# Tables made by additions

A table is made by adding entries to an empty one, in order. Of the entries that were added it keeps the
first of every literal that is not empty, and these stand in the order in which they came.
-/

namespace CmdletForge.SubstitutionTable

variable {table : SubstitutionTable} {additions : List (String × String)} {literal replacement : String}

/-- The table made by adding entries in order. -/
def ofAdditions (additions : List (String × String)) : SubstitutionTable :=
  additions.foldl (fun table entry => table.adding entry.1 entry.2) {}

/-- The literals of a table in order. -/
def literals (table : SubstitutionTable) : List String := table.entries.map Prod.fst

/-- What a table keeps of the entries that were added. -/
structure KeepsFirst (additions : List (String × String)) (table : SubstitutionTable) : Prop where
  full : "" ∉ table.literals
  distinct : table.literals.Nodup
  /-- An entry is kept if and only if it is the first that was added for its literal. -/
  first : ∀ entry, entry ∈ table.entries ↔
    entry.1 ≠ "" ∧ additions.find? (·.1 = entry.1) = some entry
  order : table.literals = ((additions.map Prod.fst).filter (· ≠ "")).eraseDups

/-! ## One addition -/

theorem adding_of_barred (barred : literal = "" ∨ literal ∈ table.literals) (replacement : String) :
    table.adding literal replacement = table := by
  have refused : (literal.isEmpty || table.entries.any (·.1 = literal)) = true := by
    simpa [literals] using barred
  rw [adding, insert, if_pos refused]

theorem adding_of_new (full : literal ≠ "") (new : literal ∉ table.literals) (replacement : String) :
    table.adding literal replacement = ⟨table.entries ++ [(literal, replacement)]⟩ := by
  have admitted : ¬ (literal.isEmpty || table.entries.any (·.1 = literal)) = true := by
    simpa [literals, full] using new
  rw [adding, insert, if_neg admitted]

/-- A literal that was added is in the table. -/
theorem KeepsFirst.mem_literals_iff (keeps : KeepsFirst additions table) (full : literal ≠ "") :
    literal ∈ table.literals ↔ (additions.find? (·.1 = literal)).isSome := by
  constructor
  · intro mem
    obtain ⟨entry, held, rfl⟩ := List.mem_map.1 mem
    rw [((keeps.first entry).1 held).2]
    rfl
  · intro found
    obtain ⟨entry, found⟩ := Option.isSome_iff_exists.1 found
    have same : entry.1 = literal := by simpa using List.find?_some found
    subst same
    exact List.mem_map_of_mem ((keeps.first entry).2 ⟨full, found⟩)

theorem KeepsFirst.refuse (keeps : KeepsFirst additions table)
    (barred : literal = "" ∨ literal ∈ table.literals) :
    KeepsFirst (additions ++ [(literal, replacement)]) table where
  full := keeps.full
  distinct := keeps.distinct
  first entry := by
    rw [keeps.first entry, and_congr_right_iff]
    intro full
    rw [List.find?_append]
    by_cases same : literal = entry.1
    · -- The literal has an entry already, which is the first for it.
      have known := (keeps.mem_literals_iff full).1 (same ▸ barred.resolve_left (same ▸ full))
      rw [Option.or_of_isSome known]
    · simp [same]
  order := by
    rw [keeps.order, List.map_append, List.filter_append]
    rcases barred with rfl | mem
    · simp
    · have full : literal ≠ "" := fun empty => keeps.full (empty ▸ mem)
      rw [keeps.order, List.mem_eraseDups] at mem
      have one : ([(literal, replacement)].map Prod.fst).filter (· ≠ "") = [literal] := by simp [full]
      rw [one, eraseDups_concat, if_pos mem]

theorem KeepsFirst.admit (keeps : KeepsFirst additions table) (full : literal ≠ "")
    (new : literal ∉ table.literals) :
    KeepsFirst (additions ++ [(literal, replacement)])
      ⟨table.entries ++ [(literal, replacement)]⟩ where
  full := by
    simpa [literals, full.symm] using keeps.full
  distinct := by
    have whole : (table.literals ++ [literal]).Nodup := by
      refine List.nodup_append.2 ⟨keeps.distinct, by simp, fun known mem other one => ?_⟩
      rintro rfl
      exact new (List.mem_singleton.1 one ▸ mem)
    simpa [literals] using whole
  first entry := by
    rw [List.mem_append, keeps.first entry, List.mem_singleton, List.find?_append]
    have none : additions.find? (·.1 = literal) = none := by
      rw [← Option.not_isSome_iff_eq_none, ← keeps.mem_literals_iff full]
      exact new
    by_cases same : literal = entry.1
    · subst same
      rw [none]
      simp [full, eq_comm]
    · have other : entry ≠ (literal, replacement) := by
        rintro rfl
        exact same rfl
      simp [same, other]
  order := by
    have fresh : literal ∉ (additions.map Prod.fst).filter (· ≠ "") := by
      rw [← List.mem_eraseDups, ← keeps.order]
      exact new
    have one : ([(literal, replacement)].map Prod.fst).filter (· ≠ "") = [literal] := by simp [full]
    rw [List.map_append, List.filter_append, one, eraseDups_concat, if_neg fresh, ← keeps.order]
    simp [literals]

theorem KeepsFirst.adding (keeps : KeepsFirst additions table) (literal replacement : String) :
    KeepsFirst (additions ++ [(literal, replacement)]) (table.adding literal replacement) := by
  by_cases barred : literal = "" ∨ literal ∈ table.literals
  · rw [adding_of_barred barred]
    exact keeps.refuse barred
  · obtain ⟨full, new⟩ := not_or.1 barred
    rw [adding_of_new full new]
    exact keeps.admit full new

/-! ## All additions -/

/-- **A table keeps the first entry of every literal.** -/
theorem keepsFirst_ofAdditions (additions : List (String × String)) :
    KeepsFirst additions (ofAdditions additions) := by
  induction additions using List.reverseRecOn with
  | nil => exact ⟨nofun, .nil, by simp [ofAdditions], rfl⟩
  | append_singleton additions entry ih =>
    rw [ofAdditions, List.foldl_concat]
    exact ih.adding entry.1 entry.2

/-- The literals of such a table are not empty. -/
theorem full_ofAdditions (additions : List (String × String)) :
    ∀ entry ∈ (ofAdditions additions).pairs, entry.1 ≠ [] := by
  intro pair mem
  obtain ⟨entry, held, rfl⟩ := List.mem_map.1 mem
  intro empty
  have full := (((keepsFirst_ofAdditions additions).first entry).1 held).1
  exact full (String.toList_eq_nil_iff.1 empty)

/-- The literals of such a table differ. -/
theorem nodup_ofAdditions (additions : List (String × String)) :
    ((ofAdditions additions).pairs.map Prod.fst).Nodup := by
  have texts : (ofAdditions additions).pairs.map Prod.fst =
      (ofAdditions additions).literals.map String.toList := by
    simp [pairs, literals]
  rw [texts]
  exact (keepsFirst_ofAdditions additions).distinct.map fun _ _ => String.toList_inj.1

end CmdletForge.SubstitutionTable
