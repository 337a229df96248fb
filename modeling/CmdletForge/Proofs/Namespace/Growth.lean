import CmdletForge.Proofs.Generation.Follows
import CmdletForge.Proofs.Namespace.Partition

/-!
# One more operation

An operation that is added at the end of a model, with whatever schemas it needs, leaves what was generated
before as it was. Up to the new operation both generations take the same steps: names, owners and variants
are given out as they are first asked for, and the new operation asks last.
-/

namespace CmdletForge

namespace Synthesis

variable {source larger : Source} {run : Run} {δ : Type} [Named δ]

theorem carries_begin (space : Namespace δ) : Carries source larger run (Synthesis.begin space) :=
  (carries_orFail _).bind fun _ _ => (carries_note _).bind fun _ _ => .pure _

theorem carries_finalize (space : Namespace δ) : Carries source larger run (Synthesis.finalize space) :=
  (carries_orFail _).bind fun _ _ => (carries_note _).bind fun _ _ => .pure _

end Synthesis

namespace Models

open Synthesis

variable {source larger : Source} {run : Run} {earlier : List TypeRef} {space : Namespace ModelDefinition}
  {service : Service}

/-! ## Types -/

theorem carries_defineProperties (extends_ : source.Extends larger) (schema : Schema) (typeName : String)
    (taken : List String) (properties : List Property) :
    Carries source larger run (defineProperties schema typeName taken properties) := by
  induction properties generalizing run taken with
  | nil => exact .pure _
  | cons property rest ih =>
    refine (carries_declare? extends_ _ _).bind fun answer declared => ?_
    cases answer with
    | none => exact ih _
    | some declaration =>
      exact .noteIf fun noted => .schema extends_ fun described => (ih _).bind fun _ _ => .pure _

theorem carries_declareVariants (extends_ : source.Extends larger) (variants : List SchemaId) :
    Carries source larger run (declareVariants variants) := by
  induction variants generalizing run with
  | nil => exact .pure _
  | cons id rest ih =>
    refine (carries_declare? extends_ _ _).bind fun answer declared => ?_
    cases answer with
    | none => exact ih
    | some declaration => exact ih.bind fun _ _ => .pure _

theorem carries_define (extends_ : source.Extends larger) (type : TypeRef) (schema : Schema) :
    Carries source larger run (define type schema) := by
  unfold define
  cases schema.kind with
  | enumeration => exact .pure _
  | union => exact (carries_declareVariants extends_ _).bind fun _ _ => .pure _
  | _ => exact (carries_defineProperties extends_ _ _ _ _).bind fun _ _ => .pure _

theorem carries_visit (extends_ : source.Extends larger) (entries : List (String × SchemaId)) :
    Carries source larger run (visit entries) := by
  induction entries generalizing run with
  | nil => exact .pure _
  | cons entry rest ih =>
    refine (carries_note _).bind fun _ noted => ?_
    exact (carries_declare? extends_ _ _).discard.bind fun _ _ => ih

theorem yields_defines (type : TypeRef) (schema : Schema) :
    Yields source run (define type schema) fun definition _ => definition.Defines type := by
  unfold define
  cases schema.kind with
  | enumeration => exact .pure ⟨rfl, rfl, rfl⟩
  | union => exact (Yields.any _).bind fun _ _ _ => .pure ⟨rfl, rfl, rfl⟩
  | _ => exact (Yields.any _).bind fun _ _ _ => .pure ⟨rfl, rfl, rfl⟩

/-! ## The drain -/

/-- A drain ends with nothing waiting before it runs out of steps, so it needs no more of them. -/
theorem follows_drain (extends_ : source.Extends larger) {steps steps' : Nat}
    (h : Draining source earlier space run)
    (enough : source.model.size < steps + (earlier ++ references space).length) (more : steps ≤ steps') :
    Follows source larger run (drain steps space) (drain steps' space) fun done after =>
      Draining source earlier done after ∧ after.registry.pending = [] := by
  induction steps generalizing run space steps' with
  | zero =>
    have most := h.length_le
    omega
  | succ steps ih =>
    obtain ⟨steps', rfl⟩ : ∃ left, steps' = left + 1 := ⟨steps' - 1, by omega⟩
    have first : Follows source larger run nextPending nextPending _ :=
      .of_yields rfl ends_nextPending.yields
    refine first.bind ?_
    rintro _ handed ⟨rfl, rfl⟩
    rcases h.next with ⟨idle, -⟩ | ⟨type, first⟩
    · have none : run.registry.nextPending = (none, run.registry) := by simp [Registry.nextPending, idle]
      rw [none]
      exact .pure ⟨h, idle⟩
    · rw [first.handedOut]
      have known : run.registry.nextPending.2.lookup type.schema = some type := by
        rw [← first.found, Registry.lookup, Registry.types_nextPending]
        rfl
      refine .get ?_
      simp only [known]
      refine .schema extends_ fun schema found => Follows.bind (carries_note _) fun _ noted quiet => ?_
      refine Follows.bind ((carries_define extends_ type schema).and (yields_defines type schema)) ?_
      rintro definition middle ⟨grew, defines⟩
      refine .orFail fun grown added => ?_
      obtain rfl := Namespace.insert_ok added
      have placed := (h.place first defines rfl).grew (quiet.trans grew)
      refine ih placed ?_ (Nat.le_of_succ_le_succ more)
      rw [references_extend defines first.own, ← List.append_assoc, List.length_append, List.length_singleton]
      omega

theorem follows_drainAll (extends_ : source.Extends larger) (h : Draining source earlier space run) :
    Follows source larger run (drainAll space) (drainAll space) fun done after =>
      Draining source earlier done after ∧ after.registry.pending = [] :=
  .read (follows_drain extends_ h (by omega) (Nat.succ_le_succ extends_.schemas.length_le))

/-- A drain adds definitions at the end. -/
theorem yields_extends {steps : Nat} {space : Namespace ModelDefinition} :
    Yields source run (drain steps space) fun done _ => space.definitions <+: done.definitions := by
  have more : Yields source run (drain steps space) fun done _ => ∃ added,
      done.definitions = space.definitions ++ added ∧ ∀ definition ∈ added, True :=
    yields_added fun _ type schema _ => Yields.any _
  refine more.mono ?_
  rintro done after ⟨added, same, -⟩
  exact ⟨added, same.symm⟩

theorem Draining.settled (h : Draining source earlier space run) (idle : run.registry.pending = []) :
    Settled source (earlier ++ references space) run.registry :=
  ⟨h.types_of_idle idle, idle, h.sound, h.inRange⟩

/-- **The namespace of model types.** It is built alike on a larger model with the same names. -/
theorem follows_build (extends_ : source.Extends larger) (table : larger.model.table = source.model.table)
    (settled : Settled source earlier run.registry) :
    Follows source larger run (build service) (build service) fun space after =>
      Settled source (earlier ++ references space) after.registry := by
  refine Follows.bind ((carries_begin _).and yields_begin) ?_
  rintro _ opened ⟨-, rfl, first⟩
  refine Follows.bind (.of_yields rfl (ends_setOwner _).yields) ?_
  rintro _ owned ⟨owner, -⟩
  rw [show opened.registry = run.registry from first.registry] at owner
  refine .read ?_
  rw [table]
  refine Follows.bind (carries_visit extends_ _) fun _ visited grew => ?_
  have ready : Draining source earlier { fullName := service.child "Models", phase := .initializing } owned :=
    settled.draining rfl rfl owner
  refine Follows.bind (follows_drainAll extends_ (ready.grew grew)) ?_
  rintro done drained ⟨draining, idle⟩
  refine ((carries_finalize _).and yields_finalize).mono ?_
  rintro _ last ⟨-, rfl, sealed⟩
  rw [show last.registry = drained.registry from sealed.registry]
  exact draining.settled idle

end Models

namespace Commands

open Synthesis

variable {source larger : Source} {run : Run} {earlier : List TypeRef} {service : Service}

/-! ## Variants -/

theorem carries_defineParameters (extends_ : source.Extends larger) (operation : String) (taken : List String)
    (position : Nat) (parameters : List Parameter) :
    Carries source larger run (defineParameters operation taken position parameters) := by
  induction parameters generalizing run taken position with
  | nil => exact .pure _
  | cons parameter rest ih =>
    refine (carries_declare? extends_ _ _).bind fun answer declared => ?_
    cases answer with
    | none => exact ih _ _
    | some declaration => exact .noteIf fun noted => (ih _ _).bind fun _ _ => .pure _

theorem carries_declareOutput (extends_ : source.Extends larger) (response : Option SchemaId) :
    Carries source larger run (declareOutput response) := by
  cases response with
  | none => exact .pure _
  | some id => exact carries_declare? extends_ _ _

theorem carries_defineVariant (extends_ : source.Extends larger) (operation : Operation) (name : CommandName) :
    Carries source larger run (defineVariant operation name) :=
  (carries_defineParameters extends_ _ _ _ _).bind fun _ _ =>
    (carries_declareOutput extends_ _).bind fun _ _ => .pure _

theorem carries_addVariant (commands : Namespace CommandDefinition) (name : CommandName)
    (variant : CommandVariant) : Carries source larger run (addVariant commands name variant) := by
  refine (carries_orFail _).bind fun answer _ => ?_
  cases answer with
  | none => exact carries_orFail _
  | some updated =>
    cases commands.get? name.text with
    | none => exact .pure _
    | some command => exact (carries_noteAll _).bind fun _ _ => .pure _

/-! ## Operations -/

/-- The operations that both models have are added alike. -/
theorem follows_addAll (extends_ : source.Extends larger) {operations : List Operation} {spaces : CommandSpaces}
    (h : Models.Draining source earlier spaces.models run) :
    Follows source larger run (addAll service operations spaces) (addAll service operations spaces)
      fun _ _ => True := by
  induction operations generalizing run spaces with
  | nil => exact .pure trivial
  | cons operation rest ih =>
    refine Follows.bind (carries_defineVariant extends_ _ _) fun variant defined first => ?_
    refine Follows.bind (carries_note _) fun _ noted second => ?_
    refine Follows.bind (carries_addVariant _ _ _) fun commands added third => ?_
    refine Follows.bind (Models.follows_drainAll extends_ (h.grew (first.trans (second.trans third)))) ?_
    rintro models drained ⟨draining, -⟩
    exact ih draining

theorem addAll_append (operations more : List Operation) (spaces : CommandSpaces) :
    addAll service (operations ++ more) spaces = addAll service operations spaces >>= addAll service more := by
  induction operations generalizing spaces with
  | nil => rw [List.nil_append, addAll, pure_bind]
  | cons operation rest ih =>
    simp only [List.cons_append, addAll, bind_assoc, ih]

/-- What one more operation does to the commands: one of them gets one more variant, or there is one more. -/
inductive OneMore (name : CommandName) (operation : Operation) :
    List CommandDefinition → List CommandDefinition → Prop
  | variant (front rest : List CommandDefinition) (command : CommandDefinition) (variant : CommandVariant)
      (named : command.name.text = name.text) (its : variant.Of operation) :
      OneMore name operation (front ++ command :: rest)
        (front ++ { command with variants := command.variants ++ [variant] } :: rest)
  | command (commands : List CommandDefinition) (variant : CommandVariant) (its : variant.Of operation) :
      OneMore name operation commands (commands ++ [{ name, variants := [variant] }])

/-- The variant may be named anew, but it is still that of its operation. -/
theorem addVariant_eq {operation : Operation} {variant : CommandVariant}
    (its : variant.Of operation) (command : CommandDefinition) :
    ∃ placed, command.addVariant variant = { command with variants := command.variants ++ [placed] } ∧
      placed.Of operation := by
  refine ⟨_, rfl, ?_⟩
  split
  · exact its
  · exact ⟨its.origin, its.parameters, its.output⟩

/-- A variant that is placed is one more. -/
theorem oneMore_place {commands : Namespace CommandDefinition} {name : CommandName} {variant : CommandVariant}
    {operation : Operation} (its : variant.Of operation) :
    OneMore name operation commands.definitions (place commands name variant).definitions := by
  unfold place
  dsimp only
  split
  next known =>
    obtain ⟨front, command, rest, split, named, changed⟩ :=
      Namespace.changeFirst_split (Namespace.contains_iff.1 known)
    obtain ⟨placed, added, still⟩ := addVariant_eq its command
    rw [changed, split, added]
    exact .variant front rest command placed named still
  next =>
    obtain ⟨placed, added, still⟩ := addVariant_eq its { name }
    rw [added]
    exact .command _ placed still

/-- One more operation. -/
theorem yields_addOne (operation : Operation) (spaces : CommandSpaces) :
    Yields source run (addAll service [operation] spaces) fun done _ =>
      OneMore (nameOf service spaces.namePrefix spaces.subjectPrefix operation) operation
        spaces.commands.definitions done.commands.definitions ∧
      spaces.models.definitions <+: done.models.definitions := by
  refine (yields_defineVariant operation _).bind ?_
  rintro variant defined ⟨-, renders⟩
  refine (Yields.any _).bind fun _ noted _ => (yields_addVariant _ _ variant).bind ?_
  rintro _ added ⟨rfl, -⟩
  refine Yields.bind (.read Models.yields_extends) fun models drained more => ?_
  exact .pure ⟨oneMore_place renders.its, more⟩

/-! ## Generations -/

/-- Builds the namespace of model types, and then those of the commands and their types. -/
def generate (service : Service) (config : Config) :
    Synthesis (Namespace ModelDefinition × CommandSpaces) := do
  let models ← Models.build service
  let spaces ← build service config
  return (models, spaces)

/-- What one more operation does to what is generated. -/
structure Grown (service : Service) (operation : Operation)
    (first second : Namespace ModelDefinition × CommandSpaces) : Prop where
  models : second.1 = first.1
  commandModels : first.2.models.definitions <+: second.2.models.definitions
  commands : OneMore (nameOf service first.2.namePrefix first.2.subjectPrefix operation) operation
    first.2.commands.definitions second.2.commands.definitions

/-- A generation up to its operations. -/
def start (service : Service) (config : Config) : Synthesis (Namespace ModelDefinition × CommandSpaces) := do
  let models ← Models.build service
  let namePrefix ← Synthesis.report (config.valueOr "prefix" "")
  let subjectPrefix ← Synthesis.report (config.valueOr "subject-prefix" "")
  let commands ← Synthesis.begin { fullName := service.child "Cmdlets" }
  let commandModels ← Synthesis.begin { fullName := service.child "Cmdlets.Models" }
  Synthesis.setOwner commandModels.fullName
  return (models, { namePrefix, subjectPrefix, commands, models := commandModels })

/-- Seals the namespaces of the commands and their types. -/
def settle (spaces : CommandSpaces) : Synthesis CommandSpaces := do
  let commands ← Synthesis.finalize spaces.commands
  let models ← Synthesis.finalize spaces.models
  return { spaces with commands, models }

/-- A generation from its operations on. -/
def finish (service : Service) (opened : Namespace ModelDefinition × CommandSpaces) :
    Synthesis (Namespace ModelDefinition × CommandSpaces) := do
  let spaces ← addAll service (← read).model.operations opened.2
  return (opened.1, ← settle spaces)

theorem generate_eq (service : Service) (config : Config) :
    generate service config = start service config >>= finish service := by
  simp only [generate, build, start, finish, settle, bind_assoc, pure_bind]

theorem follows_start (extends_ : source.Extends larger) (table : larger.model.table = source.model.table)
    {config : Config} (settled : Models.Settled source earlier run.registry) :
    Follows source larger run (start service config) (start service config) fun opened after =>
      ∃ earlier, Models.Draining source earlier opened.2.models after := by
  refine Follows.bind (Models.follows_build extends_ table settled) fun models built settled => ?_
  refine .report (.report ?_)
  refine Follows.bind ((carries_begin _).and yields_begin) ?_
  rintro _ first ⟨-, rfl, idle⟩
  refine Follows.bind ((carries_begin _).and yields_begin) ?_
  rintro _ second ⟨-, rfl, idle'⟩
  refine Follows.bind (.of_yields rfl (ends_setOwner _).yields) ?_
  rintro _ owned ⟨owner, -⟩
  rw [show second.registry = built.registry from idle'.registry.trans idle.registry] at owner
  exact .pure ⟨_, settled.draining rfl rfl owner⟩

theorem yields_settle (spaces : CommandSpaces) : Yields source run (settle spaces) fun done _ =>
    done = { spaces with
      commands := { spaces.commands with phase := .finalized }
      models := { spaces.models with phase := .finalized } } := by
  refine yields_finalize.bind ?_
  rintro _ first ⟨rfl, -⟩
  refine yields_finalize.bind ?_
  rintro _ second ⟨rfl, -⟩
  exact .pure rfl

/-- The operations that both models have, and then one more. -/
theorem yields_rest (extends_ : source.Extends larger) {operation : Operation}
    (operations : larger.model.operations = source.model.operations ++ [operation])
    {models : Namespace ModelDefinition} {spaces : CommandSpaces}
    (draining : Models.Draining source earlier spaces.models run) :
    Yields source run (finish service (models, spaces)) fun first _ =>
      Yields larger run (finish service (models, spaces)) fun second _ =>
        Grown service operation first second := by
  refine Yields.read ?_
  have more : Yields source run (addAll service source.model.operations spaces >>= fun spaces => do
        return (models, ← settle spaces)) fun first _ =>
      Yields larger run (addAll service source.model.operations spaces >>= fun spaces =>
        addAll service [operation] spaces >>= fun spaces => do
          return (models, ← settle spaces)) fun second _ =>
        Grown service operation first second := by
    refine (follows_addAll extends_ draining).yields_bind fun added middle _ => ?_
    refine (yields_settle added).bind ?_
    rintro _ last rfl
    refine .pure ((yields_addOne operation added).bind ?_)
    rintro grown middle' ⟨oneMore, types⟩
    refine (yields_settle grown).bind ?_
    rintro _ last' rfl
    exact .pure ⟨rfl, types, oneMore⟩
  refine more.mono fun first _ second => .read ?_
  rw [operations, addAll_append, bind_assoc]
  exact second

/-- In a closed model a generation ends. -/
theorem ends_generate (closed : source.model.Closed) {config : Config}
    (settled : Models.Settled source earlier run.registry) :
    Ends source run (generate service config) fun _ _ => True := by
  refine (Models.ends_build closed settled).bind ?_
  rintro models built ⟨-, -, filled⟩
  exact (ends_build closed filled.settled).bind fun _ _ _ => .pure trivial

end Commands

/-- A model with one more operation at the end, and with more schemas at the end if it needs any. -/
structure Model.Adds (model : Model) (operation : Operation) (larger : Model) : Prop where
  table : larger.table = model.table
  schemas : model.schemas <+: larger.schemas
  operations : larger.operations = model.operations ++ [operation]

namespace Commands

open Synthesis

/-- **One more operation.** Whenever generations end on a model and on the model with one more operation,
the model types are the same, the types of the commands go on, and the commands have one variant or one
command more. In closed models they end. -/
theorem generate_grows {model larger : Model} {operation : Operation} (adds : model.Adds operation larger)
    (resolver : Resolver) (service : Service) (config : Config) (report : Report) :
    (Yields ⟨model, resolver⟩ { report } (generate service config) fun first _ =>
      Yields ⟨larger, resolver⟩ { report } (generate service config) fun second _ =>
        Grown service operation first second) ∧
    (model.Closed → larger.Closed →
      Ends ⟨model, resolver⟩ { report } (generate service config) fun first _ =>
        Ends ⟨larger, resolver⟩ { report } (generate service config) fun second _ =>
          Grown service operation first second) := by
  have extends_ : Source.Extends ⟨model, resolver⟩ ⟨larger, resolver⟩ := ⟨rfl, adds.schemas⟩
  have settled : Models.Settled ⟨model, resolver⟩ [] ({ report } : Run).registry := .empty _ _
  have grows : Yields ⟨model, resolver⟩ { report } (generate service config) fun first _ =>
      Yields ⟨larger, resolver⟩ { report } (generate service config) fun second _ =>
        Grown service operation first second := by
    rw [generate_eq]
    refine (follows_start extends_ adds.table settled).yields_bind ?_
    rintro ⟨models, spaces⟩ started ⟨earlier, draining⟩
    exact yields_rest extends_ adds.operations draining
  refine ⟨grows, fun closed closed' => ?_⟩
  refine ((ends_generate closed settled).of_yields grows).mono fun first _ second => ?_
  exact (ends_generate closed' (.empty _ _)).of_yields second

/-- An operation that takes a pet and answers with a schema of its own. -/
def boarding : Operation where
  id := "pets_board"
  parameters := [{ name := "pet", location := .body, required := true, schema := 0 }]
  response := some 10

/-- The pets may be boarded. -/
def boardings : Model :=
  { petStore with
    schemas := petStore.schemas ++
      [{ kind := .object, path := "/operations/pets_board/response", properties := [⟨"nights", 9⟩] }]
    operations := petStore.operations ++ [boarding] }

theorem boardings_grown :
    petStore.Adds boarding boardings ∧ petStore.Closed ∧ boardings.Closed ∧
      Ends ⟨petStore, ⟨[.switch]⟩⟩ { report := {} } (generate ⟨"Pets", "PetStore"⟩ {}) fun first _ =>
        Ends ⟨boardings, ⟨[.switch]⟩⟩ { report := {} } (generate ⟨"Pets", "PetStore"⟩ {}) fun second _ =>
          Grown ⟨"Pets", "PetStore"⟩ boarding first second := by
  have adds : petStore.Adds boarding boardings := ⟨rfl, List.prefix_append _ _, rfl⟩
  have closed : petStore.Closed := by decide
  have closed' : boardings.Closed := by decide
  exact ⟨adds, closed, closed', (generate_grows adds _ _ _ _).2 closed closed'⟩

end Commands
end CmdletForge
