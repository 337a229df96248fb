import CmdletForge.Output.Staging

/-!
# What is staged

A file is staged if and only if its path is free. It is then found under its path, and under every other
path is what was there before. Files stay in the order of their paths.
-/

namespace CmdletForge.Staging

variable {staging after : Staging} {file : StagedFile} {path : String}

/-! ## Putting a file in its place -/

theorem find?_place {files : List StagedFile} (free : ∀ other ∈ files, other.path ≠ file.path) :
    (place file files).find? (·.path = file.path) = some file := by
  induction files with
  | nil => simp [place]
  | cons next rest ih =>
    obtain ⟨differ, free⟩ := List.forall_mem_cons.1 free
    unfold place
    split
    · simp
    · rw [List.find?_cons_of_neg (by simpa using differ)]
      exact ih free

theorem find?_place_of_ne (other : path ≠ file.path) (files : List StagedFile) :
    (place file files).find? (·.path = path) = files.find? (·.path = path) := by
  have passed (rest : List StagedFile) :
      (file :: rest).find? (·.path = path) = rest.find? (·.path = path) :=
    List.find?_cons_of_neg (by simpa using other.symm)
  induction files with
  | nil => exact passed []
  | cons next rest ih =>
    unfold place
    split
    · exact passed (next :: rest)
    · rw [List.find?_cons, List.find?_cons, ih]

theorem place_perm (file : StagedFile) (files : List StagedFile) : (place file files).Perm (file :: files) := by
  induction files with
  | nil => exact .refl _
  | cons next rest ih =>
    unfold place
    split
    · exact .refl _
    · exact (ih.cons next).trans (.swap file next rest)

theorem sublist_place (file : StagedFile) (files : List StagedFile) : files.Sublist (place file files) := by
  induction files with
  | nil => exact List.nil_sublist _
  | cons next rest ih =>
    unfold place
    split
    · exact List.sublist_cons_self file _
    · exact ih.cons_cons next

/-- The paths are in order, each once. -/
def InOrder (files : List StagedFile) : Prop := files.Pairwise (·.path < ·.path)

theorem inOrder_place {files : List StagedFile} (order : InOrder files)
    (free : ∀ other ∈ files, other.path ≠ file.path) : InOrder (place file files) := by
  induction files with
  | nil => exact List.pairwise_singleton _ file
  | cons next rest ih =>
    obtain ⟨behind, order⟩ := List.pairwise_cons.1 order
    obtain ⟨differ, free⟩ := List.forall_mem_cons.1 free
    unfold place
    split
    next less =>
      refine List.pairwise_cons.2 ⟨?_, List.pairwise_cons.2 ⟨behind, order⟩⟩
      exact List.forall_mem_cons.2 ⟨less, fun other mem => String.lt_trans less (behind other mem)⟩
    next notLess =>
      have before : next.path < file.path := by
        refine Decidable.byContradiction fun notBefore => ?_
        exact differ (String.le_antisymm (String.not_lt.1 notLess) (String.not_lt.1 notBefore))
      refine List.pairwise_cons.2 ⟨fun other mem => ?_, ih order free⟩
      rcases List.mem_cons.1 ((place_perm file rest).mem_iff.1 mem) with rfl | mem
      · exact before
      · exact behind other mem

/-! ## Staging -/

theorem stage_of_free (file : StagedFile) (free : staging.get? file.path = none) :
    staging.stage file = .ok ⟨place file staging.files⟩ := by
  simp [stage, free]

theorem stage_of_taken (file : StagedFile) (taken : (staging.get? file.path).isSome) :
    staging.stage file = .error ⟨file.path⟩ :=
  if_pos taken

/-- A file is staged by putting it in its place, and its path was free. -/
theorem stage_eq_ok (staged : staging.stage file = .ok after) :
    staging.get? file.path = none ∧ after.files = place file staging.files := by
  unfold stage at staged
  split at staged
  next => contradiction
  next free =>
    obtain rfl := Except.ok.inj staged
    exact ⟨Option.not_isSome_iff_eq_none.1 free, rfl⟩

theorem get?_of_stage (staged : staging.stage file = .ok after) : after.get? file.path = some file := by
  obtain ⟨free, files⟩ := stage_eq_ok staged
  rw [get?, files]
  exact find?_place (by simpa [get?] using free)

theorem get?_of_stage_of_ne (staged : staging.stage file = .ok after) (other : path ≠ file.path) :
    after.get? path = staging.get? path := by
  obtain ⟨-, files⟩ := stage_eq_ok staged
  rw [get?, files]
  exact find?_place_of_ne other staging.files

theorem perm_of_stage (staged : staging.stage file = .ok after) :
    after.files.Perm (file :: staging.files) :=
  (stage_eq_ok staged).2 ▸ place_perm file staging.files

theorem sublist_of_stage (staged : staging.stage file = .ok after) : staging.files.Sublist after.files :=
  (stage_eq_ok staged).2 ▸ sublist_place file staging.files

theorem inOrder_stage (staged : staging.stage file = .ok after) (order : InOrder staging.files) :
    InOrder after.files := by
  obtain ⟨free, files⟩ := stage_eq_ok staged
  rw [files]
  exact inOrder_place order (by simpa [get?] using free)

/-- What was staged before is found after. -/
theorem get?_eq_some_of_stage (staged : staging.stage file = .ok after) {other : StagedFile}
    (known : staging.get? path = some other) : after.get? path = some other := by
  obtain ⟨free, -⟩ := stage_eq_ok staged
  have apart : path ≠ file.path := by
    rintro rfl
    rw [free] at known
    contradiction
  rw [get?_of_stage_of_ne staged apart, known]

/-- Staging a file changes what is staged. -/
theorem ne_of_stage (staged : staging.stage file = .ok after) : after ≠ staging := by
  rintro rfl
  have found := get?_of_stage staged
  rw [stage_of_taken file (by simp [found])] at staged
  contradiction

end CmdletForge.Staging
