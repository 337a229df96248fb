import CmdletForge.Proofs.Generation.Steps
import CmdletForge.Proofs.Types.Standing

/-!
# What steps leave when they end

In a model that is not closed a step may stop at a schema that is not there. `Yields` says what holds
whenever a step ends, whatever the model is. What cannot be declared is skipped, but its failure is
recorded and nothing is ever taken off the record: a state that is clean was clean all along, and what was
declared on the way was declared in full.
-/

namespace CmdletForge

/-- Nothing has failed so far. -/
def Run.Clean (run : Run) : Prop := run.report.checkpoint.failures = []

/-- A state that a generation may come to from another: what is registered stays so, and what has failed
has failed. -/
structure Later (before after : Run) : Prop where
  types : before.registry.types <+: after.registry.types
  clean : after.Clean → before.Clean

namespace Checkpoint

variable {checkpoint : Checkpoint}

theorem record_ne_nil (checkpoint : Checkpoint) (failure : Failure) :
    (checkpoint.record failure).failures ≠ [] := by
  unfold record
  split
  next known => exact List.ne_nil_of_mem known
  next => simp

/-- A record is clean only if nothing was added to one that was clean. -/
theorem nil_of_recordAll {failures : List Failure}
    (clean : (checkpoint.recordAll failures).failures = []) :
    checkpoint.failures = [] ∧ failures = [] := by
  induction failures using List.reverseRecOn with
  | nil => exact ⟨clean, rfl⟩
  | append_singleton failures failure ih =>
    rw [recordAll_append] at clean
    exact absurd clean (record_ne_nil _ failure)

end Checkpoint

section Later

variable {source : Source} {before middle after : Run}

theorem Later.refl (run : Run) : Later run run := ⟨List.prefix_refl _, id⟩

theorem Later.trans (first : Later before middle) (second : Later middle after) :
    Later before after :=
  ⟨first.types.trans second.types, fun clean => first.clean (second.clean clean)⟩

/-- What is recorded on the way is recorded. -/
theorem Later.of_recorded (failures : List Failure)
    (same : after.registry.types = before.registry.types)
    (checkpoint : after.report.checkpoint = before.report.checkpoint.recordAll failures) :
    Later before after := by
  refine ⟨by rw [same], fun clean => ?_⟩
  rw [Run.Clean, checkpoint] at clean
  exact (Checkpoint.nil_of_recordAll clean).1

theorem Declared.later {ids : List SchemaId} (declared : Declared source ids before after) :
    Later before after := by
  refine ⟨declared.grew.kept, fun clean => ?_⟩
  rw [Run.Clean, declared.checkpoint] at clean
  exact (Checkpoint.nil_of_recordAll clean).1

end Later

namespace Synthesis

variable {α β : Type} {source : Source} {run : Run}

/-- Whenever the step ends, `post` holds of its result and of the state after it. -/
def Yields (source : Source) (run : Run) (step : Synthesis α) (post : α → Run → Prop) : Prop :=
  ∀ x after, (step.run source).run.run run = (.ok x, after) → post x after

theorem Ends.yields {step : Synthesis α} {post : α → Run → Prop} (h : Ends source run step post) :
    Yields source run step post := by
  obtain ⟨x, after, ran, holds⟩ := h
  intro y last ran'
  rw [ran] at ran'
  cases ran'
  exact holds

/-- A step that fails yields anything. -/
theorem Fails.yields {step : Synthesis α} {post : Stop → Run → Prop} {post' : α → Run → Prop}
    (h : Fails source run step post) : Yields source run step post' := by
  obtain ⟨stop, after, ran, -⟩ := h
  intro x last ran'
  rw [ran] at ran'
  cases ran'

/-- A step that ends does so with what it yields. -/
theorem Ends.of_yields {step : Synthesis α} {post post' : α → Run → Prop}
    (h : Ends source run step post) (yields : Yields source run step post') :
    Ends source run step post' := by
  obtain ⟨x, after, ran, -⟩ := h
  exact ⟨x, after, ran, yields x after ran⟩

/-! ## Sequences -/

theorem Yields.any (step : Synthesis α) : Yields source run step fun _ _ => True :=
  fun _ _ _ => trivial

theorem Yields.pure {post : α → Run → Prop} {x : α} (holds : post x run) :
    Yields source run (pure x) post :=
  (Ends.pure holds).yields

theorem Yields.mono {step : Synthesis α} {post post' : α → Run → Prop}
    (h : Yields source run step post) (weaker : ∀ x after, post x after → post' x after) :
    Yields source run step post' :=
  fun x after ran => weaker x after (h x after ran)

theorem Yields.bind {step : Synthesis α} {next : α → Synthesis β} {mid : α → Run → Prop}
    {post : β → Run → Prop} (h : Yields source run step mid)
    (rest : ∀ x after, mid x after → Yields source after (next x) post) :
    Yields source run (step >>= next) post := by
  intro y last ran
  rw [ReaderT.run_bind, ExceptT.run_bind, StateT.run_bind] at ran
  cases first : (step.run source).run.run run with
  | mk result middle =>
    rw [first] at ran
    cases result with
    | ok x => exact rest x middle (h x middle first) y last ran
    | error stop => cases ran

/-- A step that stops yields anything. -/
theorem Yields.stop (stop : Stop) {post : α → Run → Prop} :
    Yields source run (throw stop) post := by
  rintro x after ⟨⟩

/-- What follows a step that never ends is not done. -/
theorem Yields.never {step : Synthesis α} {next : α → Synthesis β} {post : β → Run → Prop}
    (stops : Yields source run step fun _ _ => False) : Yields source run (step >>= next) post :=
  stops.bind fun _ _ ended => ended.elim

section First

variable {post : β → Run → Prop}

theorem Yields.read {next : Source → Synthesis β} (rest : Yields source run (next source) post) :
    Yields source run (MonadReader.read >>= next) post := rest

theorem Yields.get {next : Run → Synthesis β} (rest : Yields source run (next run) post) :
    Yields source run (MonadState.get >>= next) post := rest

theorem Yields.modify {change : Run → Run} {next : PUnit → Synthesis β}
    (rest : Yields source (change run) (next ()) post) :
    Yields source run (modify change >>= next) post := rest

theorem Yields.report {reporting : Reporting α} {next : α → Synthesis β}
    (rest : Yields source { run with report := (reporting.run run.report).2 }
      (next (reporting.run run.report).1) post) :
    Yields source run (Synthesis.report reporting >>= next) post := rest

theorem Yields.orFail {answer : Except Failure α} {next : α → Synthesis β}
    (rest : ∀ x, answer = .ok x → Yields source run (next x) post) :
    Yields source run (Synthesis.orFail answer >>= next) post := by
  cases answer with
  | ok x => exact rest x rfl
  | error failure =>
    have stops : Yields source run (fail failure : Synthesis α) fun _ _ => False := .stop _
    exact stops.never

theorem Yields.schema {id : SchemaId} {next : Schema → Synthesis β}
    (rest : ∀ schema, source.model.schema? id = some schema → Yields source run (next schema) post) :
    Yields source run (Synthesis.schema id >>= next) post := by
  cases found : source.model.schema? id with
  | some schema =>
    have first : Yields source run (Synthesis.schema id) fun x after => x = schema ∧ after = run := by
      refine .read ?_
      rw [found]
      exact .pure ⟨rfl, rfl⟩
    refine first.bind ?_
    rintro _ _ ⟨rfl, rfl⟩
    exact rest _ found
  | none =>
    have stops : Yields source run (Synthesis.schema id) fun _ _ => False := by
      refine .read ?_
      simp only [found]
      exact .stop (.noSchema id)
    exact stops.never

end First

/-! ## Single steps -/

theorem Yields.noteIf {line : LogLine} {c : Prop} [Decidable c] {next : Unit → Synthesis β}
    {post : β → Run → Prop}
    (rest : ∀ after, Declared source [] run after → Yields source after (next ()) post) :
    Yields source run (if c then note line >>= next else next ()) post := by
  split
  · exact (ends_note line).yields.bind fun _ after noted => rest after noted
  · exact rest run (.refl run)

theorem yields_nextPending : Yields source run nextPending fun _ after => Later run after := by
  refine ends_nextPending.yields.mono ?_
  rintro next after ⟨-, rfl⟩
  exact .of_recorded [] Registry.types_nextPending rfl

theorem yields_setOwner (space : String) :
    Yields source run (setOwner space) fun _ after => Later run after := by
  refine (ends_setOwner space).yields.mono ?_
  rintro _ after ⟨owner, checkpoint⟩
  exact .of_recorded [] (by rw [owner]; rfl) checkpoint

theorem yields_noteTypes (types : List TypeRef) :
    Yields source run (types.forM noteType) fun _ after => Declared source [] run after := by
  induction types generalizing run with
  | nil => exact .pure (.refl run)
  | cons type rest ih =>
    have first : Yields source run (noteType type) fun _ after => Declared source [] run after :=
      .schema fun schema _ => (ends_noteAll _).yields
    refine Yields.bind first fun _ noted quiet => ?_
    exact ih.mono fun _ _ second => quiet.nil_trans second

section Namespaces

variable {δ : Type} [Named δ]

theorem yields_begin {space : Namespace δ} :
    Yields source run (Synthesis.begin space) fun opened after =>
      opened = { space with phase := .initializing } ∧ Declared source [] run after := by
  by_cases new : space.phase = .constructed
  · exact (ends_begin new).yields
  · refine .orFail fun opened answer => ?_
    rw [Namespace.begin, if_neg new] at answer
    contradiction

theorem yields_finalize {space : Namespace δ} :
    Yields source run (Synthesis.finalize space) fun done after =>
      done = { space with phase := .finalized } ∧ Declared source [] run after := by
  by_cases sealed : space.phase = .finalized
  · refine .orFail fun done answer => ?_
    rw [Namespace.finalize, if_pos sealed] at answer
    contradiction
  · exact (ends_finalize sealed).yields

end Namespaces

/-- **A declaration.** If nothing has failed it was made, and it is that of the schema from then on. -/
theorem yields_declare? (id : SchemaId) (required : Bool) :
    Yields source run (declare? id required) fun answer after => Later run after ∧
      (after.Clean → ∃ declaration, answer = some declaration ∧
        source.Declares after.registry id required declaration) := by
  refine .read (.get ?_)
  cases made : source.resolver.resolve source.model id required run.registry with
  | ok result =>
    obtain ⟨declaration, registry⟩ := result
    obtain ⟨kept, again⟩ := Resolver.standing_resolve _ _ _ _ _ _ _ made
    simp only [StateT.run, made]
    refine .modify (.bind (.get (yields_noteTypes _)) fun _ after noted => ?_)
    have same : after.registry = registry := noted.registry
    have first : Later run { run with registry } := ⟨kept, fun clean => clean⟩
    refine .pure ⟨first.trans noted.later, fun _ => ⟨declaration, rfl, ?_⟩⟩
    rw [same]
    exact again registry (List.prefix_refl _)
  | error stop =>
    simp only [StateT.run, made]
    cases stop with
    | failure failure =>
      have failed : ¬ Run.Clean { run with report := run.report.record failure } :=
        Checkpoint.record_ne_nil run.report.checkpoint failure
      refine .report (.pure ⟨⟨List.prefix_refl _, ?_⟩, ?_⟩)
      · exact fun clean => absurd clean failed
      · exact fun clean => absurd clean failed
    | noSchema missing => exact .stop _

end Synthesis
end CmdletForge
