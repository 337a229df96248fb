import CmdletForge.Proofs.Project.Emission

/-!
# What a failed emission leaves

The descriptor is staged before the project model, and each fails if its path is taken. So an emission that
fails leaves the files as they were, with one exception: if the path of the model is taken and that of the
descriptor is free, the descriptor stays behind.
-/

namespace CmdletForge.Project

variable {project : Project} {descriptor : Descriptor} {staging : Staging}

/-- If the emission fails, what was staged before it is staged after it. -/
def AllOrNothing (project : Project) (descriptor : Descriptor) (staging : Staging) : Prop :=
  ∀ e after, (project.emit descriptor).run.run staging = (.error e, after) → after = staging

/-- The path of the project model is taken, and that of the descriptor is free. -/
def Obstructed (project : Project) (descriptor : Descriptor) (staging : Staging) : Prop :=
  staging.get? (descriptor.path project.settings) = none ∧ (staging.get? project.modelPath).isSome

/-- Only the descriptor is staged. -/
structure LeavesDescriptor (project : Project) (descriptor : Descriptor) (staging after : Staging) :
    Prop where
  left : after.get? (descriptor.path project.settings) = some (project.descriptorFile descriptor)
  others : ∀ path ≠ descriptor.path project.settings, after.get? path = staging.get? path

/-! ## The ways of an emission -/

theorem run_emit : (project.emit descriptor).run.run staging =
    if descriptor.path project.settings = project.modelPath then
      (.error ⟨project.modelPath⟩, staging)
    else
      match staging.stage (project.descriptorFile descriptor) with
      | .error e => (.error e, staging)
      | .ok middle => (stage project.modelFile).run.run middle := by
  by_cases same : descriptor.path project.settings = project.modelPath
  · rw [if_pos same]
    have here : (project.descriptorFile descriptor).path = project.modelFile.path := same
    simp only [emit, if_pos here]
    rfl
  · rw [if_neg same]
    have apart : (project.descriptorFile descriptor).path ≠ project.modelFile.path := same
    simp only [emit, if_neg apart]
    rw [ExceptT.run_bind, StateT.run_bind, run_stage]
    cases staging.stage (project.descriptorFile descriptor) <;> rfl

/-- Where the path of the model alone is taken, the descriptor is staged before the emission fails. -/
theorem emit_of_obstructed (obstructed : project.Obstructed descriptor staging) :
    ∃ after, (project.emit descriptor).run.run staging = (.error ⟨project.modelPath⟩, after) ∧
      staging.stage (project.descriptorFile descriptor) = .ok after := by
  obtain ⟨free, taken⟩ := obstructed
  have differ : descriptor.path project.settings ≠ project.modelPath := by
    intro same
    rw [← same, free] at taken
    contradiction
  have staged := Staging.stage_of_free (project.descriptorFile descriptor) free
  have still : (Staging.get? ⟨Staging.place (project.descriptorFile descriptor) staging.files⟩
      project.modelPath).isSome := by
    rw [Staging.get?_of_stage_of_ne staged differ.symm]
    exact taken
  refine ⟨_, ?_, staged⟩
  rw [run_emit, if_neg differ, staged]
  dsimp only
  rw [run_stage, Staging.stage_of_taken project.modelFile still]
  rfl

theorem allOrNothing_of_unobstructed (unobstructed : ¬ project.Obstructed descriptor staging) :
    project.AllOrNothing descriptor staging := by
  intro e after failed
  rw [run_emit] at failed
  split at failed
  next => exact (Prod.mk.inj failed).2.symm
  next differ =>
    split at failed
    next => exact (Prod.mk.inj failed).2.symm
    next middle staged =>
      -- The descriptor's path was free, so the model's path was free as well, and nothing fails.
      have free : staging.get? (descriptor.path project.settings) = none := by
        by_contra taken
        rw [Staging.stage_of_taken (project.descriptorFile descriptor)
          (Option.isSome_iff_ne_none.2 taken)] at staged
        contradiction
      have vacant : middle.get? project.modelPath = none := by
        rw [Staging.get?_of_stage_of_ne staged (Ne.symm differ)]
        by_contra taken
        exact unobstructed ⟨free, Option.isSome_iff_ne_none.2 taken⟩
      rw [run_stage, Staging.stage_of_free project.modelFile vacant] at failed
      exact absurd (Prod.mk.inj failed).1 (by simp)

/-- **When an emission is all or nothing.** It is, unless the path of the model is taken and that of the
descriptor is free. Then it fails at the path of the model, and the descriptor is staged. -/
theorem allOrNothing_iff (project : Project) (descriptor : Descriptor) (staging : Staging) :
    (project.AllOrNothing descriptor staging ↔ ¬ project.Obstructed descriptor staging) ∧
    (project.Obstructed descriptor staging →
      ∃ after, (project.emit descriptor).run.run staging = (.error ⟨project.modelPath⟩, after) ∧
        project.LeavesDescriptor descriptor staging after) := by
  refine ⟨⟨fun whole obstructed => ?_, allOrNothing_of_unobstructed⟩, fun obstructed => ?_⟩
  · obtain ⟨after, failed, staged⟩ := emit_of_obstructed obstructed
    exact Staging.ne_of_stage staged (whole _ after failed)
  · obtain ⟨after, failed, staged⟩ := emit_of_obstructed obstructed
    exact ⟨after, failed, Staging.get?_of_stage staged,
      fun _ other => Staging.get?_of_stage_of_ne staged other⟩

/-- The model of a project was staged before. -/
def occupied : Staging := ⟨[⟨"./generated/Kennel.model.json", "staged", none, .csharp⟩]⟩

/-- An emission that fails and leaves a descriptor behind. -/
theorem occupied_not_allOrNothing : ∃ project,
    (Assembly.run Assembly.leastConfig {} []).1 = .assembled project ∧
      ¬ project.AllOrNothing .csproj occupied := by
  have checked : (Assembly.run Assembly.leastConfig {} []).1.project?.any (fun project =>
      (occupied.get? (Descriptor.csproj.path project.settings)).isNone &&
        (occupied.get? project.modelPath).isSome) = true := by decide +kernel
  obtain ⟨project, assembled, checked⟩ := Outcome.exists_of_any checked
  simp only [Bool.and_eq_true, Option.isNone_iff_eq_none] at checked
  obtain ⟨after, failed, staged⟩ := emit_of_obstructed checked
  exact ⟨project, assembled, fun whole => Staging.ne_of_stage staged (whole _ after failed)⟩

end CmdletForge.Project
