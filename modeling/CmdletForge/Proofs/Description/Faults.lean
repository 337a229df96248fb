import CmdletForge.Proofs.Description.Lowering

/-!
# The first fault of a description

A description is looked at in the order in which it is written: the schemas of the table, then the operations,
and every schema before those inside it. At each place it is seen without the rest whether the place is at fault.
`Meets` says of a step of the lowering that it stops with a given fault, or goes on if there is none. Each step
meets the first fault among its places; so a description has a model if none of its places is at fault, and
otherwise it is refused with the first fault.
-/

namespace CmdletForge.Description

/-! ## Places -/

/-- A place where a schema is written. -/
structure Site where
  path : String
  doc : SchemaDoc
  /-- It is an entry of the schema table. -/
  entry : Bool := false

namespace SchemaDoc

/-- The schemas written inside a schema, as far as a schema of its kind holds any, with their paths. -/
def held (doc : SchemaDoc) (path : String) : List (String × SchemaDoc) :=
  match doc.kind with
  | .object => doc.properties.map fun (name, inner) => (path ++ "/properties/" ++ name, inner)
  | .array => doc.items.toList.map fun inner => (path ++ "/items", inner)
  | .map => doc.additional.schema?.toList.map fun inner => (path ++ "/additionalProperties", inner)
  | .union => doc.variants.zipIdx.map fun (inner, index) => (path ++ "/oneOf/" ++ toString index, inner)
  | _ => []

theorem map_snd_held (doc : SchemaDoc) (path : String) : (doc.held path).map Prod.snd = doc.inner := by
  unfold held inner
  cases doc.kind <;> simp [Function.comp_def]

theorem sizeOf_lt_of_mem_inner {doc inner : SchemaDoc} (mem : inner ∈ doc.inner) :
    sizeOf inner < sizeOf doc := by
  obtain ⟨reference, type, format, title, description, default, values, properties, required, items,
    additional, variants, discriminator⟩ := doc
  unfold SchemaDoc.inner at mem
  split at mem
  next =>
    obtain ⟨⟨name, _⟩, inside, rfl⟩ := List.mem_map.1 mem
    have smaller := List.sizeOf_lt_of_mem inside
    simp_all
    omega
  next =>
    cases items with
    | none => simp at mem
    | some doc =>
      obtain rfl : inner = doc := by simpa using mem
      simp
      omega
  next =>
    cases additional with
    | schema doc =>
      obtain rfl : inner = doc := by simpa [Additional.schema?] using mem
      simp
      omega
    | _ => simp [Additional.schema?] at mem
  next =>
    have smaller := List.sizeOf_lt_of_mem mem
    simp_all
    omega
  next => simp at mem

theorem sizeOf_lt_of_mem_held {doc inner : SchemaDoc} {path place : String}
    (mem : (place, inner) ∈ doc.held path) : sizeOf inner < sizeOf doc := by
  refine sizeOf_lt_of_mem_inner ?_
  rw [← map_snd_held doc path]
  exact List.mem_map_of_mem mem

/-- The places inside a schema, each before those inside it. A reference has nothing inside. -/
def sitesInside (doc : SchemaDoc) (path : String) : List Site :=
  if doc.reference.isSome then []
  else (doc.held path).attach.flatMap fun ⟨(path, inner), _⟩ => { path, doc := inner } :: inner.sitesInside path
termination_by sizeOf doc
decreasing_by
  next mem => exact sizeOf_lt_of_mem_held mem

/-- A schema at a path, and the places inside it. -/
def sites (doc : SchemaDoc) (path : String) : List Site := { path, doc } :: doc.sitesInside path

theorem sitesInside_eq (doc : SchemaDoc) (path : String) : doc.sitesInside path =
    if doc.reference.isSome then [] else (doc.held path).flatMap fun (path, inner) => inner.sites path := by
  rw [sitesInside]
  congr 1
  have whole := List.flatMap_map Subtype.val (fun (path, inner) => SchemaDoc.sites inner path)
    (doc.held path).attach
  rw [List.attach_map_subtype_val] at whole
  exact whole.symm

/-- No place inside a schema is an entry of the table. -/
theorem entry_of_mem_sitesInside (doc : SchemaDoc) (path : String) {site : Site}
    (mem : site ∈ doc.sitesInside path) : site.entry = false := by
  rw [sitesInside_eq] at mem
  split at mem
  next => contradiction
  next =>
    obtain ⟨⟨place, inner⟩, inside, mem⟩ := List.mem_flatMap.1 mem
    rcases List.mem_cons.1 mem with rfl | deeper
    · rfl
    · exact entry_of_mem_sitesInside inner place deeper
termination_by sizeOf doc
decreasing_by exact sizeOf_lt_of_mem_held inside

end SchemaDoc

/-- What is wrong at a place, seen without the rest but for the names in the table. -/
def Site.fault? (names : List String) (site : Site) : Option DescriptionError :=
  match site.doc.reference with
  | some text =>
    if site.entry then some (.invalidSchema site.path "a named schema cannot be a bare reference")
    else if referenceName text ∈ names then none
    else some (.unresolvedReference site.path text)
  | none =>
    if site.doc.kind = .array && site.doc.items.isNone then
      some (.invalidSchema site.path "array schema requires items")
    else none

/-- The first fault among places. -/
def firstFault (names : List String) (sites : List Site) : Option DescriptionError :=
  sites.findSome? (Site.fault? names)

/-- The places of an operation: its parameters, then what it answers. -/
def OperationDoc.sites (doc : OperationDoc) : List Site :=
  let base := "operations/" ++ doc.id
  (doc.parameters.flatMap fun parameter => parameter.schema.sites (base ++ "/parameters/" ++ parameter.name)) ++
    doc.response.toList.flatMap (·.sites (base ++ "/response"))

namespace Document

/-- The names of schemas. -/
def names (document : Document) : List String := document.schemas.map Prod.fst

/-- The places of the schema table. -/
def entrySites (schemas : List (String × SchemaDoc)) : List Site :=
  schemas.flatMap fun (name, doc) =>
    { path := schemaPath name, doc, entry := true } :: doc.sitesInside (schemaPath name)

/-- The places of a description, in the order in which it is written. -/
def sites (document : Document) : List Site :=
  entrySites document.schemas ++ document.operations.flatMap OperationDoc.sites

/-- Nothing is at fault: no entry of the table is a reference, every array says what it holds, and every
reference names an entry. -/
structure Sound (document : Document) : Prop where
  own : ∀ entry ∈ document.schemas, entry.2.reference = none
  arrays : ∀ site ∈ document.sites, site.doc.reference = none → site.doc.kind = .array → site.doc.items.isSome
  references : ∀ site ∈ document.sites, ∀ text, site.doc.reference = some text →
    referenceName text ∈ document.names

end Document

/-! ## Steps and faults -/

/-- Where the table has these names, the step stops with a fault, or ends and leaves the names as they are. -/
def Meets {α : Type} (names : List String) (step : Lowering α) (fault : Option DescriptionError) : Prop :=
  ∀ before : Model, before.table.map Prod.fst = names →
    match fault with
    | some error => step.run before = .error error
    | none => ∃ a after, step.run before = .ok (a, after) ∧ after.table.map Prod.fst = names

section Steps

variable {α β : Type} {names : List String} {fault later : Option DescriptionError}

theorem Meets.pure (names : List String) (a : α) : Meets names (Pure.pure a) none :=
  fun before named => ⟨a, before, rfl, named⟩

theorem Meets.bind {step : Lowering α} {next : α → Lowering β} (first : Meets names step fault)
    (rest : ∀ a, Meets names (next a) later) : Meets names (step >>= next) (fault.or later) := by
  intro before named
  have run (result : Except DescriptionError (α × Model)) (ran : step.run before = result) :
      (step >>= next).run before = result >>= fun (a, middle) => (next a).run middle := by
    rw [StateT.run_bind, ran]
  have first := first before named
  cases fault with
  | some error => exact run _ first
  | none =>
    obtain ⟨a, middle, ran, kept⟩ := first
    have whole := run _ ran
    have rest := rest a middle kept
    rw [Option.none_or]
    cases later with
    | some error => exact whole.trans rest
    | none =>
      obtain ⟨b, after, ran', kept'⟩ := rest
      exact ⟨b, after, whole.trans ran', kept'⟩

/-- What is done with the result of a step meets no fault. -/
theorem Meets.bind_pure {step : Lowering α} (first : Meets names step fault) (f : α → β) :
    Meets names (step >>= fun a => Pure.pure (f a)) fault := by
  have whole : Meets names (step >>= fun a => Pure.pure (f a)) (fault.or none) :=
    first.bind fun a => .pure names (f a)
  rwa [Option.or_none] at whole

/-- A change that leaves the table alone meets no fault. -/
theorem Meets.modify {change : Model → Model} (kept : ∀ model, (change model).table = model.table)
    {next : PUnit → Lowering β} (rest : Meets names (next ()) fault) :
    Meets names (modify change >>= next) fault :=
  fun before named => rest (change before) (by rw [kept, named])

theorem firstFault_append (names : List String) (sites more : List Site) :
    firstFault names (sites ++ more) = (firstFault names sites).or (firstFault names more) :=
  List.findSome?_append

theorem isSome_lookup {table : List (String × SchemaId)} {name : String} :
    (table.lookup name).isSome ↔ name ∈ table.map Prod.fst := by
  induction table with
  | nil => simp
  | cons entry table ih =>
    rw [List.lookup_cons]
    by_cases same : name = entry.1
    · simp [same]
    · simp [beq_eq_false_iff_ne.2 same, same, ih]

/-- A schema is placed: a reference must name an entry, and anything else is shaped. -/
theorem meets_place {doc : SchemaDoc} {path : String} {shaping : Lowering Schema}
    (shaped : doc.reference = none → Meets names shaping (firstFault names (doc.sites path))) :
    Meets names (place doc.reference path shaping) (firstFault names (doc.sites path)) := by
  unfold place
  cases refers : doc.reference with
  | some text =>
    intro before named
    have here : firstFault names (doc.sites path) =
        if referenceName text ∈ names then none else some (.unresolvedReference path text) := by
      have inside : doc.sitesInside path = [] := by rw [SchemaDoc.sitesInside_eq, refers]; rfl
      rw [SchemaDoc.sites, inside]
      simp [firstFault, Site.fault?, refers]
    have known : (before.lookup (referenceName text)).isSome ↔ referenceName text ∈ names := by
      rw [Model.lookup, isSome_lookup, named]
    rw [here]
    cases found : before.lookup (referenceName text) with
    | some id =>
      rw [found] at known
      rw [if_pos (known.1 rfl)]
      refine ⟨id, before, ?_, named⟩
      simp only [resolveReference, StateT.run_bind, StateT.run_get, pure_bind, found]
      rfl
    | none =>
      rw [found] at known
      rw [if_neg fun mem => by simpa using known.2 mem]
      simp only [resolveReference, StateT.run_bind, StateT.run_get, pure_bind, found]
      rfl
  | none =>
    have added (schema : Schema) : Meets names (do
        let id := (← get).size
        modify (·.add schema)
        pure id) none :=
      fun before named => ⟨before.size, before.add schema, rfl, named⟩
    have whole := (shaped refers).bind added
    rwa [Option.or_none] at whole

end Steps

/-! ## Schemas -/

section Schemas

variable {names : List String}

/-- Only a schema that is no reference is shaped. -/
theorem firstFault_sites {doc : SchemaDoc} (own : doc.reference = none) (names : List String) (path : String) :
    firstFault names (doc.sites path) = (if doc.kind = .array && doc.items.isNone then
        some (.invalidSchema path "array schema requires items") else none : Option DescriptionError).or
      (firstFault names ((doc.held path).flatMap fun (path, inner) => inner.sites path)) := by
  rw [SchemaDoc.sites, SchemaDoc.sitesInside_eq, own, ← List.singleton_append, firstFault_append]
  simp [firstFault, Site.fault?, own]

/-- A result that is there is gone on with. -/
theorem meets_ok {α β : Type} {result : Except DescriptionError α} {a : α} (made : result = .ok a)
    {next : α → Lowering β} {fault : Option DescriptionError} (rest : Meets names (next a) fault) :
    Meets names (liftM result >>= next) fault := by
  rw [made]
  exact rest

mutual

theorem meets_shape (doc : SchemaDoc) (path : String) (own : doc.reference = none) :
    Meets names (shape doc path) (firstFault names (doc.sites path)) := by
  rw [firstFault_sites own]
  cases unheld : (decide (doc.kind = .array) && doc.items.isNone) with
  | true =>
    rw [if_pos rfl, Option.some_or]
    have refused : classify doc path = .error (.invalidSchema path "array schema requires items") :=
      if_pos unheld
    intro before named
    rw [shape, refused]
    rfl
  | false =>
    rw [if_neg Bool.false_ne_true, Option.none_or]
    have classified : classify doc path = .ok doc.kind := if_neg (by simp [unheld])
    obtain ⟨kind, same⟩ : ∃ kind, doc.kind = kind := ⟨_, rfl⟩
    rw [same] at classified
    rw [SchemaDoc.held, same]
    obtain ⟨reference, type, format, title, description, default, values, properties, required, items,
      additional, variants, discriminator⟩ := doc
    rw [shape]
    refine meets_ok classified ?_
    cases kind with
    | object => exact (meets_properties properties path).bind_pure _
    | array =>
      rw [List.flatMap_map]
      exact (meets_items items _).bind_pure _
    | map =>
      rw [List.flatMap_map]
      exact (meets_additional additional _).bind_pure _
    | union => exact (meets_variants variants path 0).bind_pure _
    | _ => exact .pure names _

theorem meets_properties (properties : List (String × SchemaDoc)) (path : String) :
    Meets names (shapeProperties properties path) (firstFault names
      ((properties.map fun (name, inner) => (path ++ "/properties/" ++ name, inner)).flatMap
        fun (path, inner) => inner.sites path)) := by
  match properties with
  | [] =>
    rw [shapeProperties]
    exact .pure names []
  | (name, doc) :: rest =>
    rw [shapeProperties, List.map_cons, List.flatMap_cons, firstFault_append]
    refine (meets_place fun own => meets_shape doc _ own).bind fun id => ?_
    exact (meets_properties rest path).bind_pure _

theorem meets_items (items : Option SchemaDoc) (path : String) :
    Meets names (shapeItems items path) (firstFault names (items.toList.flatMap (·.sites path))) := by
  match items with
  | none =>
    rw [shapeItems]
    exact .pure names none
  | some doc =>
    rw [shapeItems, Option.toList_some, List.flatMap_singleton]
    exact (meets_place fun own => meets_shape doc path own).bind_pure _

theorem meets_additional (additional : Additional SchemaDoc) (path : String) :
    Meets names (shapeAdditional additional path)
      (firstFault names (additional.schema?.toList.flatMap (·.sites path))) := by
  match additional with
  | .unsaid =>
    rw [shapeAdditional]
    exact .pure names none
  | .flag =>
    rw [shapeAdditional]
    exact .pure names none
  | .schema doc =>
    rw [shapeAdditional, Additional.schema?, Option.toList_some, List.flatMap_singleton]
    exact (meets_place fun own => meets_shape doc path own).bind_pure _

theorem meets_variants (variants : List SchemaDoc) (path : String) (index : Nat) :
    Meets names (shapeVariants variants path index) (firstFault names
      (((variants.zipIdx index).map fun (inner, index) => (path ++ "/oneOf/" ++ toString index, inner)).flatMap
        fun (path, inner) => inner.sites path)) := by
  match variants with
  | [] =>
    rw [shapeVariants]
    exact .pure names []
  | doc :: rest =>
    rw [shapeVariants, List.zipIdx_cons, List.map_cons, List.flatMap_cons, firstFault_append]
    refine (meets_place fun own => meets_shape doc _ own).bind fun id => ?_
    exact (meets_variants rest path (index + 1)).bind_pure _

end

end Schemas

/-! ## Whole descriptions -/

namespace Document

variable {names : List String}

theorem table_define (model : Model) (id : SchemaId) (schema : Schema) :
    ((model.define id schema).getD model).table = model.table := by
  unfold Model.define
  cases model.schema? id <;> rfl

/-- An entry of the table must not be a reference, and is shaped. -/
theorem meets_defineAll (id : SchemaId) (schemas : List (String × SchemaDoc)) :
    Meets names (defineAll id schemas) (firstFault names (entrySites schemas)) := by
  induction schemas generalizing id with
  | nil => exact .pure names ()
  | cons entry rest ih =>
    obtain ⟨name, doc⟩ := entry
    have split : firstFault names (entrySites ((name, doc) :: rest)) =
        (firstFault names ({ path := schemaPath name, doc, entry := true } ::
          doc.sitesInside (schemaPath name))).or (firstFault names (entrySites rest)) := by
      rw [← firstFault_append]
      rfl
    rw [split, defineAll]
    cases refers : doc.reference with
    | some text =>
      have first : firstFault names ({ path := schemaPath name, doc, entry := true } ::
          doc.sitesInside (schemaPath name)) =
          some (.invalidSchema (schemaPath name) "a named schema cannot be a bare reference") := by
        simp [firstFault, Site.fault?, refers]
      rw [first, Option.some_or]
      exact fun _ _ => rfl
    | none =>
      have first : firstFault names ({ path := schemaPath name, doc, entry := true } ::
          doc.sitesInside (schemaPath name)) = firstFault names (doc.sites (schemaPath name)) := by
        simp [firstFault, SchemaDoc.sites, List.findSome?_cons, Site.fault?, refers]
      rw [first]
      refine (meets_shape doc _ refers).bind fun schema => ?_
      exact .modify (fun model => table_define model id schema) (ih (id + 1))

theorem meets_parameters (base : String) (parameters : List ParameterDoc) :
    Meets names (lowerParameters base parameters) (firstFault names (parameters.flatMap fun parameter =>
      parameter.schema.sites (base ++ "/parameters/" ++ parameter.name))) := by
  induction parameters with
  | nil => exact .pure names []
  | cons parameter rest ih =>
    rw [lowerParameters, List.flatMap_cons, firstFault_append]
    exact (meets_place fun own => meets_shape _ _ own).bind fun _ => ih.bind_pure _

theorem meets_response (base : String) (response : Option SchemaDoc) :
    Meets names (lowerResponse base response)
      (firstFault names (response.toList.flatMap (·.sites (base ++ "/response")))) := by
  cases response with
  | none => exact .pure names none
  | some doc =>
    rw [lowerResponse, map_eq_pure_bind, Option.toList_some, List.flatMap_singleton]
    exact (meets_place fun own => meets_shape doc _ own).bind_pure _

theorem meets_operations (operations : List OperationDoc) :
    Meets names (lowerOperations operations) (firstFault names (operations.flatMap OperationDoc.sites)) := by
  induction operations with
  | nil => exact .pure names ()
  | cons operation rest ih =>
    rw [lowerOperations, List.flatMap_cons, firstFault_append, OperationDoc.sites, firstFault_append,
      Option.or_assoc]
    refine (meets_parameters _ _).bind fun parameters => (meets_response _ _).bind fun response => ?_
    refine Meets.modify ?_ ?_
    · exact fun _ => rfl
    · exact ih

/-- The lowering of a description stops with its first fault, or gives a model if there is none. -/
theorem lower_of_firstFault (document : Document) :
    match firstFault document.names document.sites with
    | some error => document.lower = .error error
    | none => ∃ model, document.lower = .ok model := by
  have steps : Meets document.names (do defineAll 0 document.schemas; lowerOperations document.operations)
      (firstFault document.names document.sites) := by
    rw [sites, firstFault_append]
    exact (meets_defineAll 0 document.schemas).bind fun _ => meets_operations document.operations
  have start : (reserved document).table.map Prod.fst = document.names := by
    simp [reserved_eq, Document.table, Document.names]
  have ran := steps (reserved document) start
  unfold lower
  dsimp only
  split at ran
  next error => rw [ran]; rfl
  next =>
    obtain ⟨_, model, made, -⟩ := ran
    exact ⟨model, by rw [made]; rfl⟩

/-! ## When there is a model -/

theorem mem_sites_of_entry {document : Document} {entry : String × SchemaDoc} (mem : entry ∈ document.schemas) :
    { path := schemaPath entry.1, doc := entry.2, entry := true } ∈ document.sites :=
  List.mem_append_left _ (List.mem_flatMap.2 ⟨entry, mem, List.mem_cons_self⟩)

/-- Only what stands in the table is an entry of it. -/
theorem mem_schemas_of_entry {document : Document} {site : Site} (mem : site ∈ document.sites)
    (entry : site.entry = true) : ∃ name, (name, site.doc) ∈ document.schemas := by
  have outside (doc : SchemaDoc) (path : String) : site ∉ doc.sites path := by
    intro inside
    rcases List.mem_cons.1 inside with rfl | deeper
    · contradiction
    · rw [doc.entry_of_mem_sitesInside path deeper] at entry
      contradiction
  rcases List.mem_append.1 mem with table | operations
  · obtain ⟨⟨name, doc⟩, listed, here⟩ := List.mem_flatMap.1 table
    rcases List.mem_cons.1 here with rfl | deeper
    · exact ⟨name, listed⟩
    · exact absurd (List.mem_cons_of_mem _ deeper) (outside doc _)
  · obtain ⟨operation, -, here⟩ := List.mem_flatMap.1 operations
    rcases List.mem_append.1 here with parameters | response
    · obtain ⟨parameter, -, here⟩ := List.mem_flatMap.1 parameters
      exact absurd here (outside _ _)
    · obtain ⟨doc, -, here⟩ := List.mem_flatMap.1 response
      exact absurd here (outside _ _)

theorem firstFault_eq_none (document : Document) :
    firstFault document.names document.sites = none ↔ document.Sound := by
  rw [firstFault, List.findSome?_eq_none_iff]
  constructor
  · intro fits
    refine ⟨fun entry mem => ?_, fun site mem own array => ?_, fun site mem text refers => ?_⟩
    · have fit := fits _ (mem_sites_of_entry mem)
      cases refers : entry.2.reference with
      | none => rfl
      | some text => simp [Site.fault?, refers] at fit
    · have fit := fits site mem
      cases holds : site.doc.items with
      | some items => rfl
      | none => simp [Site.fault?, own, array, holds] at fit
    · have fit := fits site mem
      by_contra unknown
      cases entry : site.entry <;> simp [Site.fault?, refers, entry, unknown] at fit
  · intro sound site mem
    unfold Site.fault?
    cases refers : site.doc.reference with
    | none =>
      refine if_neg fun unheld => ?_
      rw [Bool.and_eq_true, decide_eq_true_eq] at unheld
      simpa [Option.isNone_iff_eq_none.1 unheld.2] using sound.arrays site mem refers unheld.1
    | some text =>
      have inside : site.entry = false := by
        cases entry : site.entry with
        | false => rfl
        | true =>
          obtain ⟨name, listed⟩ := mem_schemas_of_entry mem entry
          simpa [refers] using sound.own _ listed
      simp [inside, sound.references site mem text refers]

/-- **The first fault.** A description has a model if and only if nothing in it is at fault. Otherwise it is
refused with the fault of the first of its places that is at fault. -/
theorem lower_eq_error_iff (document : Document) :
    ((∃ model, document.lower = .ok model) ↔ document.Sound) ∧
    ∀ error, document.lower = .error error ↔ ∃ before site after,
      document.sites = before ++ site :: after ∧ site.fault? document.names = some error ∧
        ∀ earlier ∈ before, earlier.fault? document.names = none := by
  have lowered := lower_of_firstFault document
  have first (error : DescriptionError) : document.lower = .error error ↔
      firstFault document.names document.sites = some error := by
    cases fault : firstFault document.names document.sites with
    | none =>
      rw [fault] at lowered
      obtain ⟨model, made⟩ := lowered
      simp [made]
    | some other =>
      rw [fault] at lowered
      simp [lowered]
  refine ⟨?_, fun error => (first error).trans List.findSome?_eq_some_iff⟩
  rw [← firstFault_eq_none]
  cases fault : firstFault document.names document.sites with
  | none =>
    rw [fault] at lowered
    exact iff_of_true lowered rfl
  | some error =>
    rw [fault] at lowered
    simp [lowered]

end Document

end CmdletForge.Description
