import CmdletForge.Proofs.Project.Atomicity

/-!
# What an emission adds

An emission succeeds if and only if the descriptor and the project model have different paths and both are
free. It adds these two files and nothing else. Whether it succeeds or not, it leaves what was staged before
it as it was; and once a project was emitted, or failed to be, emitting it again fails and adds nothing.
-/

namespace CmdletForge.Project

variable {project : Project} {descriptor : Descriptor} {staging after : Staging}
  {result : Except PathTaken Unit}

/-- The descriptor and the project model have different paths, and both are free. -/
structure Unhindered (project : Project) (descriptor : Descriptor) (staging : Staging) : Prop where
  apart : descriptor.path project.settings ≠ project.modelPath
  descriptorFree : staging.get? (descriptor.path project.settings) = none
  modelFree : staging.get? project.modelPath = none

/-- The ways of an emission: its result, and what is staged after it. -/
inductive Emission (project : Project) (descriptor : Descriptor) (staging : Staging) :
    Except PathTaken Unit → Staging → Prop where
  | samePath (same : descriptor.path project.settings = project.modelPath) :
      Emission project descriptor staging (.error ⟨project.modelPath⟩) staging
  | descriptorTaken (apart : descriptor.path project.settings ≠ project.modelPath)
      (taken : (staging.get? (descriptor.path project.settings)).isSome) :
      Emission project descriptor staging (.error ⟨descriptor.path project.settings⟩) staging
  | modelTaken {after : Staging} (obstructed : project.Obstructed descriptor staging)
      (staged : staging.stage (project.descriptorFile descriptor) = .ok after) :
      Emission project descriptor staging (.error ⟨project.modelPath⟩) after
  | emitted {middle after : Staging} (unhindered : project.Unhindered descriptor staging)
      (first : staging.stage (project.descriptorFile descriptor) = .ok middle)
      (second : middle.stage project.modelFile = .ok after) :
      Emission project descriptor staging (.ok ()) after

/-- What holds of an emission and of what is staged before and after it. The texts of the two files that are added
are those of the descriptor and of the document, with the legacy names in both replaced. -/
structure Framed (project : Project) (descriptor : Descriptor) (staging : Staging)
    (result : Except PathTaken Unit) (after : Staging) : Prop where
  succeeds_iff : result = .ok () ↔ project.Unhindered descriptor staging
  added : result = .ok () → after.files.Perm
    ({ path := descriptor.path project.settings
       content := (SubstitutionTable.legacyRuntime project.settings.space).apply
         (descriptor.render project.settings)
       sourceMap := none
       contentType := descriptor.contentType } ::
     { path := project.settings.folders.module ++ "/" ++ project.settings.moduleName ++ ".model.json"
       content := (SubstitutionTable.legacyRuntime project.settings.space).apply project.document.pretty
       sourceMap := none
       contentType := .json } :: staging.files)
  found : result = .ok () → ∀ path, after.get? path =
    if path = descriptor.path project.settings then
      some {
        path := descriptor.path project.settings
        content := (SubstitutionTable.legacyRuntime project.settings.space).apply
          (descriptor.render project.settings)
        sourceMap := none
        contentType := descriptor.contentType }
    else if path = project.modelPath then
      some {
        path := project.settings.folders.module ++ "/" ++ project.settings.moduleName ++ ".model.json"
        content := (SubstitutionTable.legacyRuntime project.settings.space).apply project.document.pretty
        sourceMap := none
        contentType := .json }
    else staging.get? path
  kept : ∀ path file, staging.get? path = some file → after.get? path = some file
  sublist : staging.files.Sublist after.files
  inOrder : Staging.InOrder staging.files → Staging.InOrder after.files
  /-- Emitting the project again fails and changes nothing. -/
  again : ∃ e, (project.emit descriptor).run.run after = (.error e, after)

/-! ## The ways of an emission -/

theorem emission_emit (project : Project) (descriptor : Descriptor) (staging : Staging) :
    ∃ result after, (project.emit descriptor).run.run staging = (result, after) ∧
      Emission project descriptor staging result after := by
  by_cases apart : descriptor.path project.settings = project.modelPath
  · refine ⟨_, _, ?_, .samePath apart⟩
    rw [run_emit, if_pos apart]
  cases descriptorHeld : staging.get? (descriptor.path project.settings) with
  | some file =>
    have taken : (staging.get? (descriptor.path project.settings)).isSome := by simp [descriptorHeld]
    have refused := Staging.stage_of_taken (project.descriptorFile descriptor) taken
    refine ⟨_, _, ?_, .descriptorTaken apart taken⟩
    rw [run_emit, if_neg apart, refused]
    rfl
  | none =>
    have first := Staging.stage_of_free (project.descriptorFile descriptor) descriptorHeld
    cases modelHeld : staging.get? project.modelPath with
    | some file =>
      have obstructed : project.Obstructed descriptor staging := ⟨descriptorHeld, by simp [modelHeld]⟩
      obtain ⟨after, failed, staged⟩ := emit_of_obstructed obstructed
      exact ⟨_, after, failed, .modelTaken obstructed staged⟩
    | none =>
      have vacant : Staging.get? ⟨Staging.place (project.descriptorFile descriptor) staging.files⟩
          project.modelPath = none := by
        rw [Staging.get?_of_stage_of_ne first (Ne.symm apart), modelHeld]
      have second := Staging.stage_of_free project.modelFile vacant
      refine ⟨_, _, ?_, .emitted ⟨apart, descriptorHeld, modelHeld⟩ first second⟩
      rw [run_emit, if_neg apart, first]
      dsimp only
      rw [run_stage, second]

/-! ## What holds in each of the ways -/

namespace Emission

theorem kept (emission : Emission project descriptor staging result after) {path : String}
    {file : StagedFile} (known : staging.get? path = some file) : after.get? path = some file := by
  cases emission with
  | samePath => exact known
  | descriptorTaken => exact known
  | modelTaken _ staged => exact Staging.get?_eq_some_of_stage staged known
  | emitted _ first second =>
    exact Staging.get?_eq_some_of_stage second (Staging.get?_eq_some_of_stage first known)

/-- The files staged before are all there, between those that are added. -/
theorem sublist (emission : Emission project descriptor staging result after) :
    staging.files.Sublist after.files := by
  cases emission with
  | samePath => exact .refl _
  | descriptorTaken => exact .refl _
  | modelTaken _ staged => exact Staging.sublist_of_stage staged
  | emitted _ first second => exact (Staging.sublist_of_stage first).trans (Staging.sublist_of_stage second)

theorem inOrder (emission : Emission project descriptor staging result after)
    (order : Staging.InOrder staging.files) : Staging.InOrder after.files := by
  cases emission with
  | samePath => exact order
  | descriptorTaken => exact order
  | modelTaken _ staged => exact Staging.inOrder_stage staged order
  | emitted _ first second => exact Staging.inOrder_stage second (Staging.inOrder_stage first order)

theorem succeeds_iff (emission : Emission project descriptor staging result after) :
    result = .ok () ↔ project.Unhindered descriptor staging := by
  cases emission with
  | samePath same => exact iff_of_false (by simp) fun unhindered => unhindered.apart same
  | descriptorTaken _ taken =>
    refine iff_of_false (by simp) fun unhindered => ?_
    simp [unhindered.descriptorFree] at taken
  | modelTaken obstructed =>
    refine iff_of_false (by simp) fun unhindered => ?_
    have taken := obstructed.2
    simp [unhindered.modelFree] at taken
  | emitted unhindered => exact iff_of_true rfl unhindered

/-- What a successful emission adds. -/
theorem added (emission : Emission project descriptor staging (.ok ()) after) :
    after.files.Perm (project.descriptorFile descriptor :: project.modelFile :: staging.files) := by
  cases emission with
  | emitted _ first second =>
    have inner := Staging.perm_of_stage first
    exact (Staging.perm_of_stage second).trans ((inner.cons _).trans (.swap ..))

theorem found (emission : Emission project descriptor staging (.ok ()) after) (path : String) :
    after.get? path =
      if path = descriptor.path project.settings then some (project.descriptorFile descriptor)
      else if path = project.modelPath then some project.modelFile
      else staging.get? path := by
  cases emission with
  | emitted unhindered first second =>
    split
    next same =>
      subst same
      exact Staging.get?_eq_some_of_stage second (Staging.get?_of_stage first)
    next notDescriptor =>
      split
      next same =>
        subst same
        exact Staging.get?_of_stage second
      next notModel =>
        rw [Staging.get?_of_stage_of_ne second notModel, Staging.get?_of_stage_of_ne first notDescriptor]

/-- After an emission, the path of the descriptor is taken, or it is that of the project model. -/
theorem hindered (emission : Emission project descriptor staging result after) :
    descriptor.path project.settings = project.modelPath ∨
      (after.get? (descriptor.path project.settings)).isSome := by
  cases emission with
  | samePath same => exact .inl same
  | descriptorTaken _ taken => exact .inr taken
  | modelTaken _ staged =>
    have file := Staging.get?_of_stage staged
    exact .inr (Option.isSome_iff_exists.2 ⟨_, file⟩)
  | emitted _ first second =>
    have file := Staging.get?_eq_some_of_stage second (Staging.get?_of_stage first)
    exact .inr (Option.isSome_iff_exists.2 ⟨_, file⟩)

theorem again (emission : Emission project descriptor staging result after) :
    ∃ e, (project.emit descriptor).run.run after = (.error e, after) := by
  rw [run_emit]
  by_cases same : descriptor.path project.settings = project.modelPath
  · exact ⟨_, if_pos same⟩
  · have taken := emission.hindered.resolve_left same
    have refused := Staging.stage_of_taken (project.descriptorFile descriptor) taken
    rw [if_neg same, refused]
    exact ⟨_, rfl⟩

end Emission

/-- **What an emission does to the files staged before it.** It succeeds where nothing hinders it, and then
adds the descriptor and the project model; it never takes or changes a file; a second one fails and changes
nothing. -/
theorem emit_framed (project : Project) (descriptor : Descriptor) (staging : Staging) :
    ∃ result after, (project.emit descriptor).run.run staging = (result, after) ∧
      Framed project descriptor staging result after := by
  obtain ⟨result, after, run, emission⟩ := emission_emit project descriptor staging
  refine ⟨result, after, run, ?_⟩
  exact {
    succeeds_iff := emission.succeeds_iff
    added := by
      rintro rfl
      exact emission.added
    found := by
      rintro rfl
      exact emission.found
    kept := fun _ _ known => emission.kept known
    sublist := emission.sublist
    inOrder := emission.inOrder
    again := emission.again }

theorem envelope_framed : ∃ project after,
    (Assembly.run Assembly.leastConfig envelope []).1 = .assembled project ∧
      (project.emit .csproj).run.run {} = (.ok (), after) ∧ Framed project .csproj {} (.ok ()) after ∧
      after.paths = ["./Kennel.csproj", "./generated/Kennel.model.json"] := by
  have checked : (Assembly.run Assembly.leastConfig envelope []).1.project?.any (fun project =>
      ((project.emit .csproj).run.run {}).1.isOk && ((project.emit .csproj).run.run {}).2.paths =
        ["./Kennel.csproj", "./generated/Kennel.model.json"]) = true := by decide +kernel
  obtain ⟨project, assembled, checked⟩ := Outcome.exists_of_any checked
  obtain ⟨succeeds, paths⟩ := Bool.and_eq_true_iff.1 checked
  obtain ⟨after, emitted⟩ := exists_of_isOk succeeds
  obtain ⟨result, last, run, framed⟩ := emit_framed project .csproj {}
  obtain ⟨rfl, rfl⟩ := Prod.mk.inj (run.symm.trans emitted)
  rw [emitted, decide_eq_true_eq] at paths
  exact ⟨project, last, assembled, emitted, framed, paths⟩

end CmdletForge.Project
