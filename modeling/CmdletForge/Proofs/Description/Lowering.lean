import CmdletForge.Proofs.Description.Shaping
import CmdletForge.Proofs.Types.Resolution

/-!
# The model of a description

A description that has a model is in it as it is written. The named schemas come first, in order, each as it
was written and none put off; all others are held in one place. What is held is what is written, in the order
in which it is written, and so are the operations.
-/

namespace CmdletForge.Description

/-- A named schema that is put off. -/
def pending (name : String) : Schema := { Model.placeholder (schemaPath name) with name := some name }

/-- A parameter is as it is written, whatever its schema. -/
structure ParameterDoc.Outlines (doc : ParameterDoc) (parameter : Parameter) : Prop where
  name : parameter.name = doc.name
  location : parameter.location = doc.location
  required : parameter.required = doc.required
  aliases : parameter.aliases = doc.aliases
  description : parameter.description = doc.description

namespace Document

/-- A written operation means an operation of the model. -/
structure Offers (document : Document) (model : Model) (doc : OperationDoc) (operation : Operation) :
    Prop where
  id : operation.id = doc.id
  description : operation.description = doc.description
  parameters : List.Forall₂
    (fun written parameter => written.Outlines parameter ∧ document.Stands model written.schema parameter.schema)
    doc.parameters operation.parameters
  response : Option.Rel (document.Stands model) doc.response operation.response

/-- A schema written under a name means the schema at a position. -/
structure Defines (document : Document) (model : Model) (key : String) (doc : SchemaDoc) (schema : Schema) :
    Prop where
  name : schema.name = some key
  path : schema.path = schemaPath key
  own : doc.reference = none
  outlines : doc.Outlines schema
  holds : List.Forall₂ (document.Stands model) doc.inner schema.slots

/-- What a model says of the description that it was made of. -/
structure Lowered (document : Document) (model : Model) : Prop where
  /-- The first schemas are the named ones, and a name is that of the first schema that has it. -/
  table : model.table = document.table
  lookup : ∀ name, model.lookup name = (document.schemas.map Prod.fst).idxOf? name
  defined : ∀ i name doc, document.schemas[i]? = some (name, doc) →
    ∃ schema, model.schema? i = some schema ∧ document.Defines model name doc schema
  /-- All that is held is there. -/
  bounded : ∀ id ∈ model.slots, id < model.size
  /-- A schema without a name is held in one place, where it is written out, and by one that comes after it
  if that has no name either. Where a named schema is held, a reference is written. -/
  once : ∀ id, document.named ≤ id → id < model.size → model.slots.count id = 1
  referred : ∀ doc id, document.Stands model doc id → (id < document.named ↔ doc.reference.isSome)
  below : ∀ outer inner, document.named ≤ outer → document.named ≤ inner → model.Holds outer inner →
    inner < outer
  acyclic : ∀ id, ¬ Relation.TransGen
    (fun outer inner => document.named ≤ outer ∧ document.named ≤ inner ∧ model.Holds outer inner) id id
  /-- Every schema is written somewhere, and every collection says what it holds. -/
  described : ∀ schema ∈ model.schemas, document.Describes schema
  filled : model.Filled
  /-- A resolution only stops for a schema in no declarable shape. It says of none that it is a collection
  without items, unless this is what is written as the schema's type. -/
  stops : ∀ resolver : Resolver, ∀ id < model.size, ∀ required registry stop,
    (resolver.resolve model id required).run registry = .error stop →
      ∃ path text, stop = .failure (.unsupportedSchema path text) ∧
        ∀ wrapper, text = Resolver.withoutItems wrapper →
          ∃ schema ∈ model.schemas, schema.path = path ∧
            ∃ doc, document.Writes doc ∧ doc.Outlines schema ∧ doc.type = some text
  operations : List.Forall₂ (document.Offers model) document.operations model.operations

/-- A model on the way: the first schemas are defined, and some operations are there. -/
structure Underway (document : Document) (defined : Nat) (operations : List OperationDoc) (model : Model) :
    Prop where
  table : model.table = document.table
  nested : model.Nested document.named
  inlined : ∀ (id : Nat) schema, document.named ≤ id → model.schema? id = some schema →
    document.Describes schema
  done : ∀ i name doc, i < defined → document.schemas[i]? = some (name, doc) →
    ∃ schema, model.schema? i = some schema ∧
      ∀ final, model.Continues document.named final → document.Defines final name doc schema
  waiting : ∀ i name doc, defined ≤ i → document.schemas[i]? = some (name, doc) →
    model.schema? i = some (pending name)
  offered : ∀ final, model.Continues document.named final →
    List.Forall₂ (document.Offers final) operations model.operations

variable {document : Document} {before middle after model : Model} {defined : Nat}
  {operations : List OperationDoc}

/-! ## The start -/

theorem reserve_all (entries : List (String × SchemaDoc)) (model : Model) :
    entries.foldl (fun model (name, _) => model.reserve name (schemaPath name)) model =
      { model with
        schemas := model.schemas ++ (entries.map Prod.fst).map pending
        table := model.table ++ (entries.map Prod.fst).zipIdx model.size } := by
  induction entries generalizing model with
  | nil => simp
  | cons entry rest ih =>
    rw [List.foldl_cons, ih]
    simp [Model.reserve, Model.declare, Model.add, Model.size, pending]

theorem reserved_eq (document : Document) : reserved document =
    { title := document.info.title, version := document.info.version, table := document.table,
      schemas := (document.schemas.map Prod.fst).map pending } := by
  rw [reserved, reserve_all]
  rfl

theorem Underway.start (document : Document) : document.Underway 0 [] (reserved document) := by
  have size : (reserved document).size = document.named := by simp [reserved_eq, Model.size, named]
  have all : ∀ (id : Nat) schema, document.named ≤ id → (reserved document).schema? id ≠ some schema := by
    intro id schema outside found
    have bound := Model.lt_size_of_schema? found
    rw [size] at bound
    exact Nat.not_lt_of_le outside bound
  have bare : (reserved document).slots = [] := by
    rw [reserved_eq, Model.slots, List.flatMap_eq_nil_iff.2]
    · rfl
    · intro schema mem
      obtain ⟨name, -, rfl⟩ := List.mem_map.1 mem
      rfl
  refine ⟨by rw [reserved_eq], ⟨Nat.le_of_eq size.symm, ?_, ?_⟩, ?_, by simp, ?_, ?_⟩
  · simp [bare, size, CmdletForge.inlined]
  · rintro outer inner outside - ⟨schema, found, -⟩
    exact absurd found (all outer schema outside)
  · exact fun id schema outside found => absurd found (all id schema outside)
  · intro i name doc _ here
    simp [reserved_eq, Model.schema?, here]
  · intro final _
    rw [reserved_eq]
    exact .nil

/-! ## Named schemas -/

theorem Underway.ready (underway : document.Underway defined operations model) : document.Ready model :=
  ⟨underway.table, underway.nested.large⟩

/-- Schemas that are added are written somewhere, as those before them are. -/
theorem Underway.inlined_of_laid (underway : document.Underway defined operations before)
    {docs : List SchemaDoc} {ids : List SchemaId} (laid : document.Laid before docs ids after) (id : Nat)
    (schema : Schema) (outside : document.named ≤ id) (found : after.schema? id = some schema) :
    document.Describes schema := by
  obtain ⟨added, step⟩ := laid.added
  rw [step.eq, Model.schema?] at found
  by_cases old : id < before.size
  · rw [List.getElem?_append_left old] at found
    exact underway.inlined id schema outside found
  · rw [List.getElem?_append_right (Nat.le_of_not_lt old)] at found
    exact step.fit schema (List.mem_of_getElem? found)

/-- The next schema is shaped and defined. -/
theorem Underway.define (underway : document.Underway defined operations before) {name : String}
    {doc : SchemaDoc} {schema : Schema} (here : document.schemas[defined]? = some (name, doc))
    (own : doc.reference = none) (shaped : document.Shaped before doc (schemaPath name) schema middle) :
    document.Underway (defined + 1) operations ((middle.define defined schema).getD middle) := by
  obtain ⟨added, step⟩ := shaped.laid.added
  have waits := underway.waiting defined name doc (Nat.le_refl _) here
  have found : middle.schema? defined = some (pending name) := step.schema? waits
  have bound : defined < document.named := (List.getElem?_eq_some_iff.1 here).1
  have made : middle.define defined schema =
      some { middle with schemas := middle.schemas.set defined { schema with name := some name } } := by
    rw [Model.define, found]
    rfl
  rw [made, Option.getD_some]
  generalize after_eq : { middle with
    schemas := middle.schemas.set defined { schema with name := some name } } = after
  have others : ∀ i, i ≠ defined → after.schema? i = middle.schema? i := by
    rintro i other
    rw [← after_eq]
    exact List.getElem?_set_ne other.symm
  have goesOn : Model.Continues document.named middle after := by
    refine ⟨by rw [← after_eq], fun id schema outside at_ => (others id ?_).trans at_⟩
    exact Nat.ne_of_gt (Nat.lt_of_lt_of_le bound outside)
  have whole := step.continues.trans goesOn
  refine ⟨whole.table.trans underway.table, underway.nested.define step bound found rfl after_eq.symm,
    ?_, ?_, ?_, ?_⟩
  · intro id schema outside at_
    rw [others id (Nat.ne_of_gt (Nat.lt_of_lt_of_le bound outside))] at at_
    exact underway.inlined_of_laid shaped.laid id schema outside at_
  · intro i key doc before_next at_
    rcases Nat.lt_succ_iff_lt_or_eq.1 before_next with early | rfl
    · obtain ⟨schema, stood, defines⟩ := underway.done i key doc early at_
      exact ⟨schema, (others i (Nat.ne_of_lt early)).trans (step.schema? stood),
        fun final continues => defines final (whole.trans continues)⟩
    · obtain ⟨rfl, rfl⟩ : name = key ∧ _ = doc := by simpa [here] using at_
      refine ⟨{ schema with name := some name }, ?_, fun final continues => ⟨rfl, shaped.path, own, ?_, ?_⟩⟩
      · rw [← after_eq]
        exact List.getElem?_set_self (Model.lt_size_of_schema? found)
      · exact ⟨shaped.outlines.kind, shaped.outlines.properties, shaped.outlines.slots,
          shaped.outlines.filled⟩
      · exact shaped.laid.stands final (goesOn.trans continues)
  · intro i key doc later at_
    rw [others i (Nat.ne_of_gt later)]
    exact step.schema? (underway.waiting i key doc (Nat.le_of_succ_le later) at_)
  · intro final continues
    have same : after.operations = before.operations := by rw [← after_eq, step.eq]
    rw [same]
    exact underway.offered final (whole.trans continues)

/-- All named schemas from one on are defined, one after the other. -/
theorem Underway.defineAll {entries : List (String × SchemaDoc)}
    (underway : document.Underway defined operations before)
    (rest : entries = document.schemas.drop defined)
    (ran : (Description.defineAll defined entries).run before = .ok ((), after)) :
    document.Underway document.named operations after := by
  induction entries generalizing defined before with
  | nil =>
    rw [Description.defineAll] at ran
    obtain ⟨-, rfl⟩ := run_pure_ok ran
    have all : document.named ≤ defined := List.drop_eq_nil_iff.1 rest.symm
    refine ⟨underway.table, underway.nested, underway.inlined, ?_, ?_, underway.offered⟩
    · exact fun i name doc inside => underway.done i name doc (Nat.lt_of_lt_of_le inside all)
    · intro i name doc outside at_
      exact absurd (List.getElem?_eq_some_iff.1 at_).1 (Nat.not_lt_of_le outside)
  | cons entry entries ih =>
    obtain ⟨name, doc⟩ := entry
    have here : document.schemas[defined]? = some (name, doc) := by
      rw [← List.head?_drop, ← rest, List.head?_cons]
    have others : entries = document.schemas.drop (defined + 1) := by
      rw [← List.tail_drop, ← rest, List.tail_cons]
    rw [Description.defineAll] at ran
    split at ran
    next => contradiction
    next own =>
      obtain ⟨schema, middle, shaping, ran⟩ := run_bind_ok ran
      obtain ⟨_, _, defining, ran⟩ := run_bind_ok ran
      cases defining
      have writes : document.Writes doc := .schema (List.mem_of_getElem? here)
      have shaped := shaped_shape doc underway.ready writes shaping
      exact ih (underway.define here (by simpa using own) shaped) others ran

/-! ## Operations -/

/-- The parameters of an operation are added one after the other. -/
theorem laid_parameters {base : String} {docs : List ParameterDoc} {parameters : List Parameter}
    (ready : document.Ready before) (writes : ∀ doc ∈ docs, document.Writes doc.schema)
    (ran : (lowerParameters base docs).run before = .ok (parameters, after)) :
    List.Forall₂ ParameterDoc.Outlines docs parameters ∧
      document.Laid before (docs.map (·.schema)) (parameters.map (·.schema)) after := by
  induction docs generalizing before parameters with
  | nil =>
    rw [lowerParameters] at ran
    obtain ⟨rfl, rfl⟩ := run_pure_ok ran
    exact ⟨.nil, .nil⟩
  | cons doc docs ih =>
    rw [lowerParameters] at ran
    obtain ⟨id, middle, placed, ran⟩ := run_bind_ok ran
    obtain ⟨others, later, rfl⟩ := run_bind_pure_ok ran
    obtain ⟨first, others_write⟩ := List.forall_mem_cons.1 writes
    have here := laid_place ready first (shaped_shape doc.schema ready first) placed
    obtain ⟨outlines, there⟩ := ih (here.ready ready) others_write later
    exact ⟨.cons ⟨rfl, rfl, rfl, rfl, rfl⟩ outlines, here.append there⟩

/-- The answer of an operation is added. -/
theorem laid_response {base : String} {doc : Option SchemaDoc} {response : Option SchemaId}
    (ready : document.Ready before) (writes : ∀ inner, doc = some inner → document.Writes inner)
    (ran : (lowerResponse base doc).run before = .ok (response, after)) :
    response.isSome = doc.isSome ∧ document.Laid before doc.toList response.toList after := by
  cases doc with
  | none =>
    obtain ⟨rfl, rfl⟩ := run_pure_ok ran
    exact ⟨rfl, .nil⟩
  | some doc =>
    rw [lowerResponse, map_eq_pure_bind] at ran
    obtain ⟨id, placed, rfl⟩ := run_bind_pure_ok ran
    have own := writes doc rfl
    exact ⟨rfl, laid_place ready own (shaped_shape doc ready own) placed⟩

/-- The next operation is added. -/
theorem Underway.offer (underway : document.Underway defined operations before) {doc : OperationDoc}
    {operation : Operation} (id : operation.id = doc.id) (description : operation.description = doc.description)
    (outlines : List.Forall₂ ParameterDoc.Outlines doc.parameters operation.parameters)
    (parameters : document.Laid before (doc.parameters.map (·.schema)) (operation.parameters.map (·.schema))
      middle)
    (answered : operation.response.isSome = doc.response.isSome)
    (response : document.Laid middle doc.response.toList operation.response.toList after) :
    document.Underway defined (operations ++ [doc]) (after.addOperation operation) := by
  have laid := parameters.append response
  obtain ⟨added, step⟩ := laid.added
  refine ⟨step.continues.table.trans underway.table, underway.nested.addOperation step,
    fun id schema outside found => underway.inlined_of_laid laid id schema outside found, ?_, ?_, ?_⟩
  · intro i name doc inside at_
    obtain ⟨schema, found, defines⟩ := underway.done i name doc inside at_
    exact ⟨schema, step.schema? found, fun final continues => defines final
      (step.continues.trans ⟨continues.table, continues.inlined⟩)⟩
  · exact fun i name doc outside at_ => step.schema? (underway.waiting i name doc outside at_)
  · intro final continues
    have goesOn : Model.Continues document.named after final := ⟨continues.table, continues.inlined⟩
    have same : after.operations = before.operations := by rw [step.eq]
    change List.Forall₂ _ _ (after.operations ++ [operation])
    rw [same]
    refine List.rel_append (underway.offered final (step.continues.trans goesOn)) (.cons ⟨id, description, ?_, ?_⟩ .nil)
    · have stands := parameters.stands final (response.continues.trans goesOn)
      rw [List.forall₂_map_left_iff, List.forall₂_map_right_iff] at stands
      exact List.Forall₂.mp (fun _ _ outline stand => ⟨outline, stand⟩) outlines stands
    · have stands := response.stands final goesOn
      cases written : doc.response with
      | none =>
        rw [written, Option.isSome_none, Option.isSome_eq_false_iff, Option.isNone_iff_eq_none] at answered
        rw [answered]
        exact .none
      | some inner =>
        rw [written, Option.isSome_some, Option.isSome_iff_exists] at answered
        obtain ⟨id, made⟩ := answered
        rw [written, made] at stands
        rw [made]
        exact .some (List.forall₂_cons.1 stands).1

/-- All operations are added, one after the other. -/
theorem Underway.lowerOperations {docs : List OperationDoc}
    (underway : document.Underway defined operations before) (inside : docs ⊆ document.operations)
    (ran : (Description.lowerOperations docs).run before = .ok ((), after)) :
    document.Underway defined (operations ++ docs) after := by
  induction docs generalizing operations before with
  | nil =>
    rw [Description.lowerOperations] at ran
    obtain ⟨-, rfl⟩ := run_pure_ok ran
    rw [List.append_nil]
    exact underway
  | cons doc docs ih =>
    obtain ⟨mem, inside⟩ := List.cons_subset.1 inside
    rw [Description.lowerOperations] at ran
    obtain ⟨parameters, middle, first, ran⟩ := run_bind_ok ran
    obtain ⟨response, _, second, ran⟩ := run_bind_ok ran
    obtain ⟨_, _, adding, ran⟩ := run_bind_ok ran
    cases adding
    obtain ⟨outlines, laid⟩ := laid_parameters underway.ready (fun _ => .parameter mem) first
    obtain ⟨answered, answer⟩ := laid_response (laid.ready underway.ready) (fun _ => .response mem) second
    have whole := ih (underway.offer rfl rfl outlines laid answered answer) inside ran
    rwa [List.append_assoc] at whole

/-! ## The model -/

/-- A schema of no known kind has the name of its kind from its type. -/
theorem type_of_unsupported {doc : SchemaDoc} {text : String} (unsupported : doc.kind = .unsupported text) :
    doc.type = some text := by
  unfold SchemaDoc.kind SchemaDoc.kindOfType at unsupported
  split at unsupported
  next => contradiction
  next =>
    split at unsupported
    next => contradiction
    next =>
      dsimp only at unsupported
      split at unsupported
      -- Without a type, or with that of objects, it is an object or a map.
      case h_1 | h_2 =>
        split at unsupported
        next => split at unsupported <;> contradiction
        next => contradiction
      case h_8 type => rw [type, Kind.unsupported.inj unsupported]
      all_goals contradiction

theorem Underway.described (underway : document.Underway document.named operations model) {schema : Schema}
    (mem : schema ∈ model.schemas) : document.Describes schema := by
  obtain ⟨id, at_⟩ := List.getElem?_of_mem mem
  by_cases inside : id < document.named
  · obtain ⟨⟨name, doc⟩, written⟩ : ∃ entry, document.schemas[id]? = some entry :=
      ⟨_, List.getElem?_eq_getElem inside⟩
    obtain ⟨other, found, defines⟩ := underway.done id name doc inside written
    obtain rfl : schema = other := Option.some.inj (at_.symm.trans found)
    exact ⟨doc, .schema (List.mem_of_getElem? written), (defines model (.refl _ _)).outlines⟩
  · exact underway.inlined id schema (Nat.le_of_not_lt inside) at_

theorem Underway.lowered (underway : document.Underway document.named document.operations model) :
    document.Lowered model := by
  have ready := underway.ready
  have filled : model.Filled := by
    intro schema mem collection
    obtain ⟨doc, -, outlines⟩ := underway.described mem
    exact outlines.filled collection
  have closed : model.Closed := by
    refine underway.nested.closed fun entry mem => ?_
    rw [ready.table] at mem
    have bound := List.snd_lt_of_mem_zipIdx mem
    rw [List.length_map] at bound
    exact Nat.lt_of_lt_of_le bound ready.large
  refine ⟨ready.table, ready.lookup, ?_, fun id => underway.nested.bounded, fun id =>
    underway.nested.count_eq_one, fun _ _ => ready.lt_named_iff, underway.nested.below, underway.nested.acyclic,
    fun schema => underway.described, filled, ?_, underway.offered model (.refl _ _)⟩
  · intro i name doc written
    obtain ⟨schema, found, defines⟩ := underway.done i name doc (List.getElem?_eq_some_iff.1 written).1 written
    exact ⟨schema, found, defines model (.refl _ _)⟩
  · intro resolver id bound required registry stop stops
    obtain ⟨path, text, same, without⟩ := Resolver.stop_of_filled closed filled bound stops
    refine ⟨path, text, same, fun wrapper empty => ?_⟩
    obtain ⟨schema, mem, here, unsupported⟩ := without wrapper empty
    obtain ⟨doc, writes, outlines⟩ := underway.described mem
    exact ⟨schema, mem, here, doc, writes, outlines, type_of_unsupported (outlines.kind.symm.trans unsupported)⟩

/-- A lowering that ends has gone through all schemas and operations. -/
theorem underway_of_lower {document : Document} {model : Model} (made : document.lower = .ok model) :
    document.Underway document.named document.operations model := by
  unfold lower at made
  dsimp only at made
  cases ran : (do defineAll 0 document.schemas; lowerOperations document.operations : Lowering Unit).run
      (reserved document) with
  | error stop =>
    rw [ran] at made
    contradiction
  | ok result =>
    rw [ran] at made
    obtain rfl : result.2 = model := Except.ok.inj made
    obtain ⟨_, middle, defining, lowering⟩ := run_bind_ok ran
    have named := (Underway.start document).defineAll rfl defining
    exact named.lowerOperations (List.Subset.refl _) lowering

/-- **The model of a description.** -/
theorem lowered_of_lower {document : Document} {model : Model} (made : document.lower = .ok model) :
    document.Lowered model :=
  (underway_of_lower made).lowered

end Document

/-- A description of animals that live in a kennel and in one another's company, of boxes that hold boxes,
and of an operation. -/
def kennel : Document where
  schemas :=
    [("Animal",
        { variants := [{ reference := some "#/schemas/Dog" }, { type := some "string" }]
          discriminator := some "kind" }),
      ("Dog",
        { properties :=
            [("friends", { type := some "array", items := some { reference := some "Dog" } }),
              ("marks", { additional := .schema { type := some "boolean" } }),
              ("home", { reference := some "Box" })] }),
      ("Box", { type := some "array", items := some { reference := some "Box" } })]
  operations :=
    [{ id := "kennel_feed"
       parameters :=
         [{ name := "meal", schema := { type := some "number" } },
           { name := "eater", schema := { reference := some "Animal" } }]
       response := some { type := some "array", items := some { type := some "file" } } }]

theorem kennel_lowered : ∃ model, kennel.lower = .ok model ∧ kennel.Lowered model := by
  have ends : kennel.lower.isOk = true := by decide +kernel
  cases made : kennel.lower with
  | error stop =>
    rw [made] at ends
    contradiction
  | ok model => exact ⟨model, rfl, Document.lowered_of_lower made⟩

/-- A schema of an unknown type, with an unlucky name. -/
def namesake : Document := { schemas := [("A", { type := some "array without items" })] }

/-- It is not a list, but it is said to be one without items. -/
theorem namesake_withoutItems : ∃ model, namesake.lower = .ok model ∧
    ((({} : Resolver).resolve model 0 true).run {}) =
      .error (.failure (.unsupportedSchema "schemas/A" (Resolver.withoutItems .list))) :=
  ⟨_, rfl, rfl⟩

end CmdletForge.Description
