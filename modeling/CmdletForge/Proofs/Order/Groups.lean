import CmdletForge.Proofs.Order.FirstSeen

/-!
# Groups of a list

The elements of a list, grouped by a key. Groups by different keys that are all there are make up the
list: nothing is lost and nothing comes twice.
-/

namespace CmdletForge

variable {α κ : Type} [DecidableEq κ]

/-- The elements with a key, in order. -/
def group (key : α → κ) (items : List α) (k : κ) : List α := items.filter fun x => key x = k

theorem group_concat_same {key : α → κ} (items : List α) {x : α} {k : κ} (same : key x = k) :
    group key (items ++ [x]) k = group key items k ++ [x] := by
  simp [group, List.filter_append, same]

theorem group_concat_other {key : α → κ} (items : List α) {x : α} {k : κ} (other : key x ≠ k) :
    group key (items ++ [x]) k = group key items k := by
  simp [group, List.filter_append, other]

theorem group_eq_nil {key : α → κ} {items : List α} {k : κ} (none : k ∉ items.map key) :
    group key items k = [] := by
  refine List.filter_eq_nil_iff.2 fun x mem => ?_
  have differ : key x ≠ k := fun same => none (same ▸ List.mem_map_of_mem mem)
  simpa using differ

/-- Where no key comes twice, a group has one element. -/
theorem group_of_nodup {key : α → κ} {items : List α} (distinct : (items.map key).Nodup) {x : α}
    (mem : x ∈ items) : group key items (key x) = [x] := by
  induction items with
  | nil => contradiction
  | cons first rest ih =>
    obtain ⟨fresh, distinct⟩ := List.nodup_cons.1 distinct
    rcases List.mem_cons.1 mem with rfl | mem
    · have others : group key rest (key x) = [] := group_eq_nil fresh
      rw [group, List.filter_cons_of_pos (by simp)]
      exact congrArg _ others
    · have differ : key first ≠ key x := fun same => fresh (same ▸ List.mem_map_of_mem mem)
      rw [group, List.filter_cons_of_neg (by simpa using differ)]
      exact ih distinct mem

/-- The elements of all groups but one are those of the other groups. -/
theorem group_filter_ne {key : α → κ} (items : List α) {k k' : κ} (differ : k' ≠ k) :
    group key (items.filter fun x => !decide (key x = k)) k' = group key items k' := by
  rw [group, List.filter_filter]
  refine List.filter_congr fun x _ => ?_
  by_cases same : key x = k' <;> simp [same, differ]

theorem flatMap_group_perm (key : α → κ) {keys : List κ} (distinct : keys.Nodup) (items : List α)
    (covered : ∀ x ∈ items, key x ∈ keys) : (keys.flatMap (group key items)).Perm items := by
  induction keys generalizing items with
  | nil =>
    have empty : items = [] := List.eq_nil_iff_forall_not_mem.2 fun x mem => by
      simpa using covered x mem
    simp [empty]
  | cons k rest ih =>
    obtain ⟨fresh, distinct⟩ := List.nodup_cons.1 distinct
    let others := items.filter fun x => !decide (key x = k)
    have inside : ∀ x ∈ others, key x ∈ rest := by
      intro x mem
      obtain ⟨known, differ⟩ := List.mem_filter.1 mem
      have differ : key x ≠ k := by simpa using differ
      exact (List.mem_cons.1 (covered x known)).resolve_left differ
    have same : rest.flatMap (group key items) = rest.flatMap (group key others) := by
      refine List.flatMap_congr fun k' mem => ?_
      have differ : k' ≠ k := fun same => fresh (same ▸ mem)
      exact (group_filter_ne items differ).symm
    have parts : (rest.flatMap (group key others)).Perm others := ih distinct others inside
    rw [List.flatMap_cons, same]
    exact (parts.append_left _).trans (List.filter_append_perm (fun x => decide (key x = k)) items)

/-- The groups by all keys of a list make up the list. -/
theorem flatMap_group_eraseDups_perm (key : α → κ) (items : List α) :
    ((items.map key).eraseDups.flatMap (group key items)).Perm items :=
  flatMap_group_perm key (nodup_eraseDups _) items fun _ mem =>
    List.mem_eraseDups.2 (List.mem_map_of_mem mem)

end CmdletForge
