import CmdletForge.Proofs.Generation.Declared
import CmdletForge.Proofs.Settings.Keys

/-!
# How steps end

A step of a generation may stop. `Ends` says of one that it does not, and what holds of its result and
of the state after it; steps in sequence are followed one by one. The log is left out: of the rest of
the state most steps change nothing, and declaring a schema changes what `Declared` says.
-/

namespace CmdletForge

namespace Synthesis

variable {α β : Type} {source : Source} {run : Run}

/-- The step ends, and `post` holds of its result and of the state after it. -/
def Ends (source : Source) (run : Run) (step : Synthesis α) (post : α → Run → Prop) : Prop :=
  ∃ x after, (step.run source).run.run run = (.ok x, after) ∧ post x after

/-! ## Sequences -/

theorem Ends.pure {post : α → Run → Prop} {x : α} (holds : post x run) :
    Ends source run (pure x) post :=
  ⟨x, run, rfl, holds⟩

theorem Ends.mono {step : Synthesis α} {post post' : α → Run → Prop} (h : Ends source run step post)
    (weaker : ∀ x after, post x after → post' x after) : Ends source run step post' := by
  obtain ⟨x, after, ran, holds⟩ := h
  exact ⟨x, after, ran, weaker x after holds⟩

theorem Ends.bind {step : Synthesis α} {next : α → Synthesis β} {mid : α → Run → Prop}
    {post : β → Run → Prop} (h : Ends source run step mid)
    (rest : ∀ x after, mid x after → Ends source after (next x) post) :
    Ends source run (step >>= next) post := by
  obtain ⟨x, after, ran, holds⟩ := h
  obtain ⟨y, last, ran', done⟩ := rest x after holds
  refine ⟨y, last, ?_, done⟩
  rw [ReaderT.run_bind, ExceptT.run_bind, StateT.run_bind, ran]
  exact ran'

/-- What is checked of the result of a run holds of a step that ends. -/
theorem Ends.of_any {step : Synthesis α} {check : α → Bool}
    (checked : ((step.run source).run.run run).1.toOption.any check = true) :
    Ends source run step fun x _ => check x = true := by
  cases ran : (step.run source).run.run run with
  | mk result after =>
    rw [ran] at checked
    cases result with
    | ok x => exact ⟨x, after, ran, checked⟩
    | error stop => contradiction

/-- The step stops, and `post` holds of what stopped it and of the state that it left. -/
def Fails (source : Source) (run : Run) (step : Synthesis α) (post : Stop → Run → Prop) : Prop :=
  ∃ stop after, (step.run source).run.run run = (.error stop, after) ∧ post stop after

theorem Fails.mono {step : Synthesis α} {post post' : Stop → Run → Prop}
    (h : Fails source run step post) (weaker : ∀ stop after, post stop after → post' stop after) :
    Fails source run step post' := by
  obtain ⟨stop, after, ran, holds⟩ := h
  exact ⟨stop, after, ran, weaker stop after holds⟩

/-- What follows a step that stops is not done. -/
theorem Fails.bind {step : Synthesis α} {next : α → Synthesis β} {post : Stop → Run → Prop}
    (h : Fails source run step post) : Fails source run (step >>= next) post := by
  obtain ⟨stop, after, ran, holds⟩ := h
  refine ⟨stop, after, ?_, holds⟩
  rw [ReaderT.run_bind, ExceptT.run_bind, StateT.run_bind, ran]
  rfl

theorem Ends.bind_fails {step : Synthesis α} {next : α → Synthesis β} {mid : α → Run → Prop}
    {post : Stop → Run → Prop} (h : Ends source run step mid)
    (rest : ∀ x after, mid x after → Fails source after (next x) post) :
    Fails source run (step >>= next) post := by
  obtain ⟨x, after, ran, holds⟩ := h
  obtain ⟨stop, last, ran', done⟩ := rest x after holds
  refine ⟨stop, last, ?_, done⟩
  rw [ReaderT.run_bind, ExceptT.run_bind, StateT.run_bind, ran]
  exact ran'

/-! ## Single steps -/

/-- A call that fails stops a step. -/
theorem fails_orFail {answer : Except Failure α} {failure : Failure} (ill : answer = .error failure) :
    Fails source run (orFail answer) fun stop after => stop = .failure failure ∧ after = run := by
  rw [ill]
  exact ⟨_, _, rfl, rfl, rfl⟩

section First

variable {post : β → Run → Prop}

theorem Ends.read {next : Source → Synthesis β} (rest : Ends source run (next source) post) :
    Ends source run (MonadReader.read >>= next) post := rest

theorem Ends.get {next : Run → Synthesis β} (rest : Ends source run (next run) post) :
    Ends source run (MonadState.get >>= next) post := rest

theorem Ends.modify {change : Run → Run} {next : PUnit → Synthesis β}
    (rest : Ends source (change run) (next ()) post) :
    Ends source run (modify change >>= next) post := rest

theorem Ends.report {reporting : Reporting α} {next : α → Synthesis β}
    (rest : Ends source { run with report := (reporting.run run.report).2 }
      (next (reporting.run run.report).1) post) :
    Ends source run (Synthesis.report reporting >>= next) post := rest

theorem Ends.orFail {answer : Except Failure α} {x : α} {next : α → Synthesis β}
    (well : answer = .ok x) (rest : Ends source run (next x) post) :
    Ends source run (Synthesis.orFail answer >>= next) post := by
  rw [well]
  exact rest

theorem Fails.read {next : Source → Synthesis β} {post : Stop → Run → Prop}
    (rest : Fails source run (next source) post) :
    Fails source run (MonadReader.read >>= next) post := rest

theorem Fails.orFail {answer : Except Failure α} {x : α} {next : α → Synthesis β}
    {post : Stop → Run → Prop} (well : answer = .ok x) (rest : Fails source run (next x) post) :
    Fails source run (Synthesis.orFail answer >>= next) post := by
  rw [well]
  exact rest

theorem Ends.schema {id : SchemaId} {schema : Schema} {next : Schema → Synthesis β}
    (found : source.model.schema? id = some schema) (rest : Ends source run (next schema) post) :
    Ends source run (Synthesis.schema id >>= next) post := by
  have first : Ends source run (Synthesis.schema id) fun x after => x = schema ∧ after = run := by
    refine .read ?_
    rw [found]
    exact .pure ⟨rfl, rfl⟩
  refine first.bind ?_
  rintro _ _ ⟨rfl, rfl⟩
  exact rest

end First

theorem ends_note (line : LogLine) :
    Ends source run (note line) fun _ after => Declared source [] run after :=
  ⟨(), _, rfl, rfl, rfl⟩

/-- A line may be noted or not. -/
theorem Ends.noteIf {line : LogLine} {c : Prop} [Decidable c] {next : Unit → Synthesis β}
    {post : β → Run → Prop}
    (rest : ∀ after, Declared source [] run after → Ends source after (next ()) post) :
    Ends source run (if c then note line >>= next else next ()) post := by
  split
  · exact (ends_note line).bind fun _ after noted => rest after noted
  · exact rest run (.refl run)

theorem Ends.discard {step : Synthesis α} {post : α → Run → Prop} (h : Ends source run step post) :
    Ends source run (Functor.discard step) fun _ after => ∃ x, post x after :=
  h.bind fun x _ holds => .pure ⟨x, holds⟩

/-- A line for every item of a list. -/
theorem ends_noteEach {ι : Type} (line : ι → LogLine) (items : List ι) :
    Ends source run (items.forM fun item => note (line item)) fun _ after =>
      Declared source [] run after := by
  induction items generalizing run with
  | nil => exact .pure (.refl run)
  | cons item rest ih =>
    refine .bind (ends_note (line item)) fun _ noted first => ?_
    exact ih.mono fun _ _ second => first.nil_trans second

theorem ends_noteAll (lines : List LogLine) :
    Ends source run (noteAll lines) fun _ after => Declared source [] run after :=
  ends_noteEach id lines

theorem ends_nextPending : Ends source run nextPending fun id after =>
    id = run.registry.nextPending.1 ∧ after = { run with registry := run.registry.nextPending.2 } :=
  ⟨_, _, rfl, rfl, rfl⟩

theorem ends_setOwner (space : String) : Ends source run (setOwner space) fun _ after =>
    after.registry = run.registry.setOwner space ∧
      after.report.checkpoint = run.report.checkpoint :=
  ⟨(), _, rfl, rfl, rfl⟩

theorem ends_reads {config : Config} {keys : List SettingKey} {reading : Reporting α}
    (reads : Reads config keys reading) :
    Ends source run (report reading) fun _ after => after.registry = run.registry ∧
      after.report.checkpoint = run.report.checkpoint.recordAll (keys.filterMap (·.fault? config)) :=
  ⟨_, _, rfl, rfl, reads run.report⟩

section Namespaces

variable {δ : Type} [Named δ]

theorem ends_begin {space : Namespace δ} (new : space.phase = .constructed) :
    Ends source run (Synthesis.begin space) fun opened after =>
      opened = { space with phase := .initializing } ∧ Declared source [] run after := by
  refine .orFail (if_pos new) ?_
  exact (ends_note _).bind fun _ _ noted => .pure ⟨rfl, noted⟩

theorem ends_finalize {space : Namespace δ} (unsealed : space.phase ≠ .finalized) :
    Ends source run (Synthesis.finalize space) fun done after =>
      done = { space with phase := .finalized } ∧ Declared source [] run after := by
  refine .orFail (if_neg unsealed) ?_
  exact (ends_note _).bind fun _ _ noted => .pure ⟨rfl, noted⟩

end Namespaces

/-! ## Declaring -/

theorem ends_noteType {type : TypeRef} (bound : type.schema < source.model.size) :
    Ends source run (noteType type) fun _ after => Declared source [] run after := by
  obtain ⟨schema, found⟩ := Model.exists_schema bound
  exact .schema found (ends_noteAll _)

theorem ends_noteTypes {types : List TypeRef} (bound : ∀ type ∈ types, type.schema < source.model.size) :
    Ends source run (types.forM noteType) fun _ after => Declared source [] run after := by
  induction types generalizing run with
  | nil => exact .pure (.refl run)
  | cons type rest ih =>
    refine .bind (ends_noteType (bound type (by simp))) fun _ noted first => ?_
    refine (ih fun type mem => bound type (by simp [mem])).mono fun _ _ second => ?_
    exact first.nil_trans second

/-- The types that are new after a declaration come from the model. -/
theorem lt_size_of_mem_newSince {id : SchemaId} {registry : Registry} {type : TypeRef}
    (new : type ∈ (registry.enroll (source.resolver.type? source.model id)).newSince registry) :
    type.schema < source.model.size := by
  cases found : source.resolver.type? source.model id with
  | none => simp [found, Registry.enroll, Registry.newSince, Registry.size] at new
  | some core =>
    rw [found, Registry.enroll] at new
    rcases registry.register_cases core.id core.schema with ⟨_, -, same⟩ | ⟨-, same⟩
    · simp [same, Registry.newSince, Registry.size] at new
    · have only : type = registry.newType core.id core.schema := by
        simpa [same, Registry.newSince, Registry.size, Registry.extend] using new
      rw [only]
      exact Model.lt_size_of_schema? (Resolver.schema?_of_type? found)

/-- **A declaration.** It is made of every schema that does not fail, the failure of any other is
recorded, and the type that the schema leads to is registered. -/
theorem ends_declare? (closed : source.model.Closed) {id : SchemaId} (bound : id < source.model.size)
    (required : Bool) :
    Ends source run (declare? id required) fun answer after =>
      Declared source [id] run after ∧
      (answer.isSome ↔ source.resolver.failure? source.model id = none) ∧
      (source.resolver.Foreign → ∀ declaration ∈ answer, declaration.Grounded after.registry) := by
  refine .read (.get ?_)
  cases fails : source.resolver.failure? source.model id with
  | some failure =>
    have stopped := Resolver.resolve_of_failure fails required run.registry
    have untyped := Resolver.type?_of_failure fails
    simp only [StateT.run, stopped]
    refine .report (.pure ⟨⟨?_, ?_⟩, by simp, by simp⟩)
    · simp [Source.enrollAll, untyped, Registry.enroll]
    · simp only [Source.failures, List.filterMap_cons, fails, List.filterMap_nil]
      rfl
  | none =>
    obtain ⟨declaration, made, grounded⟩ :=
      Resolver.resolve_of_sound closed bound fails required run.registry
    simp only [StateT.run, made]
    refine .modify (.bind (.get (ends_noteTypes fun type new => lt_size_of_mem_newSince new)) ?_)
    intro _ after noted
    have enrolled : after.registry = run.registry.enroll (source.resolver.type? source.model id) :=
      noted.registry
    refine .pure ⟨⟨enrolled, ?_⟩, by simp, ?_⟩
    · simp only [Source.failures, List.filterMap_cons, fails, List.filterMap_nil]
      exact noted.checkpoint
    · intro foreign _ same
      obtain rfl := Option.some.inj same
      rw [enrolled]
      exact grounded foreign

end Synthesis
end CmdletForge
