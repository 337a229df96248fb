import CmdletForge.Proofs.Generation.Yields
import CmdletForge.Proofs.Types.Extension

/-!
# The same steps on a larger model

A source may have more schemas than another, after those that both have. A step that ends on the smaller one
ends on the larger one in the same way: it has looked at schemas that are there, and these are the same.
`Follows` says so of two steps and goes through sequences as `Yields` does; `Carries` says so of a step that
may add types to the registry and changes nothing else of it.
-/

namespace CmdletForge

/-- A source resolves as another does, on a model with more schemas at the end. -/
structure Source.Extends (source larger : Source) : Prop where
  resolver : larger.resolver = source.resolver
  schemas : source.model.schemas <+: larger.model.schemas

namespace Synthesis

variable {α β : Type} {source larger : Source} {run : Run}

/-- Whenever a step ends, another ends on the larger source, with the same result and in the same state, and
`post` holds of them. -/
def Follows (source larger : Source) (run : Run) (step step' : Synthesis α) (post : α → Run → Prop) : Prop :=
  ∀ x after, (step.run source).run.run run = (.ok x, after) →
    (step'.run larger).run.run run = (.ok x, after) ∧ post x after

/-! ## Sequences -/

theorem Follows.pure {post : α → Run → Prop} {x : α} (holds : post x run) :
    Follows source larger run (pure x) (pure x) post := by
  rintro _ _ ⟨⟩
  exact ⟨rfl, holds⟩

theorem Follows.mono {step step' : Synthesis α} {post post' : α → Run → Prop}
    (h : Follows source larger run step step' post) (weaker : ∀ x after, post x after → post' x after) :
    Follows source larger run step step' post' :=
  fun x after ran => (h x after ran).imp_right (weaker x after)

theorem Follows.bind {step step' : Synthesis α} {next next' : α → Synthesis β} {mid : α → Run → Prop}
    {post : β → Run → Prop} (h : Follows source larger run step step' mid)
    (rest : ∀ x after, mid x after → Follows source larger after (next x) (next' x) post) :
    Follows source larger run (step >>= next) (step' >>= next') post := by
  intro y last ran
  rw [ReaderT.run_bind, ExceptT.run_bind, StateT.run_bind] at ran ⊢
  cases first : (step.run source).run.run run with
  | mk result middle =>
    rw [first] at ran
    cases result with
    | error stop => cases ran
    | ok x =>
      obtain ⟨same, holds⟩ := h x middle first
      rw [same]
      exact rest x middle holds y last ran

/-- A step that does not look at the source follows itself. -/
theorem Follows.of_yields {step : Synthesis α} {post : α → Run → Prop}
    (same : (step.run larger).run.run run = (step.run source).run.run run) (yields : Yields source run step post) :
    Follows source larger run step step post :=
  fun x after ran => ⟨same.trans ran, yields x after ran⟩

/-- What a step yields may be added. -/
theorem Follows.and {step step' : Synthesis α} {post post' : α → Run → Prop}
    (h : Follows source larger run step step' post) (yields : Yields source run step post') :
    Follows source larger run step step' fun x after => post x after ∧ post' x after :=
  fun x after ran => ⟨(h x after ran).1, (h x after ran).2, yields x after ran⟩

/-- Two runs that begin alike are compared from there on. -/
theorem Follows.yields_bind {γ : Type} {step step' : Synthesis α} {next : α → Synthesis β}
    {next' : α → Synthesis γ} {mid : α → Run → Prop} {post : β → γ → Prop}
    (h : Follows source larger run step step' mid)
    (rest : ∀ x after, mid x after →
      Yields source after (next x) fun y _ => Yields larger after (next' x) fun z _ => post y z) :
    Yields source run (step >>= next) fun y _ => Yields larger run (step' >>= next') fun z _ => post y z := by
  intro y last ran z last' ran'
  rw [ReaderT.run_bind, ExceptT.run_bind, StateT.run_bind] at ran ran'
  cases first : (step.run source).run.run run with
  | mk result middle =>
    rw [first] at ran
    cases result with
    | error stop => cases ran
    | ok x =>
      obtain ⟨same, holds⟩ := h x middle first
      rw [same] at ran'
      exact rest x middle holds y last ran z last' ran'

section First

variable {post : β → Run → Prop}

theorem Follows.read {next next' : Source → Synthesis β}
    (rest : Follows source larger run (next source) (next' larger) post) :
    Follows source larger run (MonadReader.read >>= next) (MonadReader.read >>= next') post := rest

theorem Follows.get {next next' : Run → Synthesis β}
    (rest : Follows source larger run (next run) (next' run) post) :
    Follows source larger run (MonadState.get >>= next) (MonadState.get >>= next') post := rest

theorem Follows.modify {change : Run → Run} {next next' : PUnit → Synthesis β}
    (rest : Follows source larger (change run) (next ()) (next' ()) post) :
    Follows source larger run (modify change >>= next) (modify change >>= next') post := rest

theorem Follows.report {reporting : Reporting α} {next next' : α → Synthesis β}
    (rest : Follows source larger { run with report := (reporting.run run.report).2 }
      (next (reporting.run run.report).1) (next' (reporting.run run.report).1) post) :
    Follows source larger run (Synthesis.report reporting >>= next) (Synthesis.report reporting >>= next')
      post := rest

theorem Follows.orFail {answer : Except Failure α} {next next' : α → Synthesis β}
    (rest : ∀ x, answer = .ok x → Follows source larger run (next x) (next' x) post) :
    Follows source larger run (Synthesis.orFail answer >>= next) (Synthesis.orFail answer >>= next') post := by
  cases answer with
  | ok x => exact rest x rfl
  | error failure => rintro y last ⟨⟩

theorem Follows.schema (extends_ : source.Extends larger) {id : SchemaId} {next next' : Schema → Synthesis β}
    (rest : ∀ schema, source.model.schema? id = some schema →
      Follows source larger run (next schema) (next' schema) post) :
    Follows source larger run (Synthesis.schema id >>= next) (Synthesis.schema id >>= next') post := by
  have first : Follows source larger run (Synthesis.schema id) (Synthesis.schema id) fun schema after =>
      source.model.schema? id = some schema ∧ after = run := by
    refine .read ?_
    cases found : source.model.schema? id with
    | none => rintro x after ⟨⟩
    | some schema =>
      simp only [Resolver.schema?_of_larger extends_.schemas found]
      exact .pure ⟨rfl, rfl⟩
  refine first.bind ?_
  rintro schema _ ⟨found, rfl⟩
  exact rest schema found

end First

/-! ## Steps that add types -/

/-- The step is followed by itself, and of the registry it changes nothing but to add types. -/
def Carries (source larger : Source) (run : Run) (step : Synthesis α) : Prop :=
  Follows source larger run step step fun _ after => Registry.Grew source.model run.registry after.registry

theorem Carries.pure (x : α) : Carries source larger run (pure x) := Follows.pure (.refl _ _)

theorem Carries.bind {step : Synthesis α} {next : α → Synthesis β} (first : Carries source larger run step)
    (rest : ∀ x after, Carries source larger after (next x)) : Carries source larger run (step >>= next) :=
  Follows.bind first fun x after grew => (rest x after).mono fun _ _ more => grew.trans more

/-- A step that looks at the registry only, and leaves it. -/
theorem Carries.of_idle {step : Synthesis α}
    (same : (step.run larger).run.run run = (step.run source).run.run run)
    (idle : ((step.run source).run.run run).2.registry = run.registry) : Carries source larger run step := by
  refine .of_yields same fun x after ran => ?_
  rw [ran] at idle
  dsimp only at idle ⊢
  rw [idle]
  exact .refl _ _

theorem carries_report (reporting : Reporting α) : Carries source larger run (report reporting) :=
  .of_idle rfl rfl

theorem carries_note (line : LogLine) : Carries source larger run (note line) := carries_report _

theorem carries_orFail (answer : Except Failure α) : Carries source larger run (orFail answer) := by
  cases answer <;> exact .of_idle rfl rfl

theorem Carries.schema (extends_ : source.Extends larger) {id : SchemaId} {next : Schema → Synthesis β}
    (rest : ∀ schema, Carries source larger run (next schema)) :
    Carries source larger run (Synthesis.schema id >>= next) :=
  Follows.schema extends_ fun schema _ => rest schema

theorem Carries.discard {step : Synthesis α} (first : Carries source larger run step) :
    Carries source larger run (Functor.discard step) :=
  first.bind fun _ _ => .pure _

/-- A line may be noted or not. -/
theorem Carries.noteIf {line : LogLine} {c : Prop} [Decidable c] {next : Unit → Synthesis β}
    (rest : ∀ after, Carries source larger after (next ())) :
    Carries source larger run (if c then note line >>= next else next ()) := by
  split
  · exact (carries_note line).bind fun _ => rest
  · exact rest run

theorem carries_forM {ι : Type} {step : ι → Synthesis PUnit}
    (each : ∀ item run, Carries source larger run (step item)) (items : List ι) :
    Carries source larger run (items.forM step) := by
  induction items generalizing run with
  | nil => exact .pure _
  | cons item rest ih => exact (each item run).bind fun _ _ => ih

theorem carries_noteAll (lines : List LogLine) : Carries source larger run (noteAll lines) :=
  carries_forM (fun line _ => carries_note line) lines

theorem carries_noteType (extends_ : source.Extends larger) (type : TypeRef) :
    Carries source larger run (noteType type) :=
  .schema extends_ fun _ => carries_noteAll _

/-- **A declaration.** It is the same on the larger source. -/
theorem carries_declare? (extends_ : source.Extends larger) (id : SchemaId) (required : Bool) :
    Carries source larger run (declare? id required) := by
  refine Follows.read (.get ?_)
  rw [extends_.resolver]
  cases made : (source.resolver.resolve source.model id required).run run.registry with
  | ok result =>
    obtain ⟨declaration, registry⟩ := result
    have again := Resolver.resolve_of_larger extends_.schemas made (by simp)
    simp only [made, again]
    refine .modify ?_
    have grew : Registry.Grew source.model run.registry registry := by
      rw [Resolver.registry_of_resolve made]
      exact .enroll _ _
    have rest : Carries source larger { run with registry } (do noteNew run.registry; pure (some declaration)) :=
      Carries.bind (Follows.get (carries_forM (fun type _ => carries_noteType extends_ type) _)) fun _ _ => .pure _
    exact rest.mono fun _ _ more => grew.trans more
  | error stop =>
    cases stop with
    | noSchema missing =>
      simp only [made]
      rintro x after ⟨⟩
    | failure failure =>
      have again := Resolver.resolve_of_larger extends_.schemas made (by simp)
      simp only [made, again]
      exact (carries_report (record failure)).bind fun _ _ => .pure _

end Synthesis
end CmdletForge
