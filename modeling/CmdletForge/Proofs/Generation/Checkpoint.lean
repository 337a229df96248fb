import CmdletForge.Generation.Report
import CmdletForge.Proofs.Order.FirstSeen

/-!
# What a checkpoint holds

A checkpoint that starts empty holds the failures that were recorded, each once, in order of first
occurrence.
-/

namespace CmdletForge.Checkpoint

variable {checkpoint : Checkpoint}

/-- The checkpoint with more failures recorded. -/
def recordAll (checkpoint : Checkpoint) (failures : List Failure) : Checkpoint :=
  failures.foldl record checkpoint

theorem recordAll_append (checkpoint : Checkpoint) (failures more : List Failure) :
    checkpoint.recordAll (failures ++ more) = (checkpoint.recordAll failures).recordAll more :=
  List.foldl_append

theorem mem_recordAll {failures : List Failure} {failure : Failure} :
    failure ∈ (checkpoint.recordAll failures).failures ↔
      failure ∈ checkpoint.failures ∨ failure ∈ failures := by
  induction failures generalizing checkpoint with
  | nil => simp [recordAll]
  | cons first rest ih =>
    have step : checkpoint.recordAll (first :: rest) = (checkpoint.record first).recordAll rest := rfl
    rw [step, ih, record]
    split
    next known =>
      rw [List.mem_cons, ← or_assoc, or_iff_left_of_imp (b := failure = first)]
      rintro rfl
      exact known
    next => simp [or_assoc]

/-- Failures of which none comes twice are added, but for those that are there already. -/
theorem failures_recordAll_of_nodup (checkpoint : Checkpoint) {failures : List Failure}
    (distinct : failures.Nodup) : (checkpoint.recordAll failures).failures =
      checkpoint.failures ++ failures.filter (· ∉ checkpoint.failures) := by
  induction failures generalizing checkpoint with
  | nil => simp [recordAll]
  | cons failure failures ih =>
    obtain ⟨new, rest⟩ := List.nodup_cons.1 distinct
    have first : checkpoint.recordAll (failure :: failures) =
        (checkpoint.record failure).recordAll failures := rfl
    rw [first, ih _ rest]
    by_cases known : failure ∈ checkpoint.failures
    · simp [record, known]
    · have apart : ∀ other ∈ failures, other ≠ failure := fun other mem same => new (same ▸ mem)
      have same : failures.filter (· ∉ checkpoint.failures ++ [failure]) =
          failures.filter (· ∉ checkpoint.failures) :=
        List.filter_congr fun other mem => by simp [apart other mem]
      simp only [record, if_neg known, same]
      simp [known]

end CmdletForge.Checkpoint
