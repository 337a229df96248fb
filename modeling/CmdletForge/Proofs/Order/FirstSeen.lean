import Mathlib.Data.Finset.Card
import Mathlib.Data.Finset.Dedup

/-!
# The order of first occurrence

`List.eraseDups` keeps the first occurrence of every element. A list that grows at the end by
elements that it does not hold yet is such a list.
-/

namespace CmdletForge

variable {α : Type} [DecidableEq α]

theorem eraseDups_concat (seen : List α) (x : α) :
    (seen ++ [x]).eraseDups = if x ∈ seen then seen.eraseDups else seen.eraseDups ++ [x] := by
  rw [List.eraseDups_append]
  by_cases mem : x ∈ seen <;> simp [List.removeAll, mem, List.eraseDups_cons]

theorem nodup_eraseDups (seen : List α) : seen.eraseDups.Nodup := by
  induction seen using List.reverseRecOn with
  | nil => simp
  | append_singleton seen x ih =>
    rw [eraseDups_concat]
    split
    next => exact ih
    next fresh =>
      have apart : List.Disjoint seen.eraseDups [x] := by
        simpa [List.disjoint_singleton] using fresh
      exact List.nodup_append.2 ⟨ih, by simp, List.disjoint_iff_ne.1 apart⟩

theorem eraseDups_eq_self {seen : List α} (distinct : seen.Nodup) : seen.eraseDups = seen := by
  induction seen using List.reverseRecOn with
  | nil => rfl
  | append_singleton seen x ih =>
    have parts := List.nodup_append.1 distinct
    have fresh : x ∉ seen := fun mem => parts.2.2 x mem x (by simp) rfl
    rw [eraseDups_concat, if_neg fresh, ih parts.1]

/-- What follows may be joined to the first occurrences instead of the whole. -/
theorem eraseDups_append_eraseDups (seen more : List α) :
    (seen.eraseDups ++ more).eraseDups = (seen ++ more).eraseDups := by
  rw [List.eraseDups_append, List.eraseDups_append, eraseDups_eq_self (nodup_eraseDups seen)]
  simp [List.removeAll]

theorem eraseDups_begins {front whole : List α} (h : front <+: whole) :
    front.eraseDups <+: whole.eraseDups := by
  obtain ⟨rest, rfl⟩ := h
  rw [List.eraseDups_append]
  exact List.prefix_append ..

theorem length_eraseDups (seen : List α) : seen.eraseDups.length = seen.toFinset.card := by
  rw [← List.toFinset_card_of_nodup (nodup_eraseDups seen)]
  congr 1
  ext x
  simp

end CmdletForge
