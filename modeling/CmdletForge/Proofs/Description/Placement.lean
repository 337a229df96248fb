import CmdletForge.Description.Lowering
import CmdletForge.Proofs.Schema.Nested

/-!
# What a description puts into its model

`Stands` says which schema of a model is meant by a written one. A reference means the named schema that it
names; anything else means a schema without a name, of the same kind, that holds what is meant by what is
written inside, in the same order. `Laid` is what a step on a list of written schemas does: it adds schemas
that somewhere are written so, and hands on what the list means.
-/

namespace CmdletForge.Description

/-- The schema that additional properties have. -/
def Additional.schema? {α : Type} : Additional α → Option α
  | .schema items => some items
  | _ => none

namespace SchemaDoc

/-- The schemas written inside a schema, as far as a schema of its kind holds any, in order. -/
def inner (doc : SchemaDoc) : List SchemaDoc :=
  match doc.kind with
  | .object => doc.properties.map Prod.snd
  | .array => doc.items.toList
  | .map => doc.additional.schema?.toList
  | .union => doc.variants
  | _ => []

/-- A schema is as it is written, whatever the schemas that it holds. -/
structure Outlines (doc : SchemaDoc) (schema : Schema) : Prop where
  kind : schema.kind = doc.kind
  properties : schema.properties.map (·.name) =
    match doc.kind with
    | .object => doc.properties.map Prod.fst
    | _ => []
  /-- It holds what schemas of its kind hold, and nothing else. -/
  slots : schema.slots =
    match doc.kind with
    | .object => schema.properties.map (·.schema)
    | .array | .map => schema.items.toList
    | .union => schema.variants
    | _ => []
  filled : schema.kind = .array ∨ schema.kind = .map → schema.items.isSome

end SchemaDoc

namespace Document

/-- A schema is written in a description, at any depth. -/
inductive Writes (document : Document) : SchemaDoc → Prop
  | schema {name : String} {doc : SchemaDoc} (mem : (name, doc) ∈ document.schemas) : Writes document doc
  | parameter {operation : OperationDoc} {parameter : ParameterDoc} (mem : operation ∈ document.operations)
      (inside : parameter ∈ operation.parameters) : Writes document parameter.schema
  | response {operation : OperationDoc} {doc : SchemaDoc} (mem : operation ∈ document.operations)
      (inside : operation.response = some doc) : Writes document doc
  | inner {outer doc : SchemaDoc} (writes : Writes document outer) (inside : doc ∈ outer.inner) :
      Writes document doc

/-- Somewhere in the description a schema is written so. -/
def Describes (document : Document) (schema : Schema) : Prop :=
  ∃ doc, document.Writes doc ∧ doc.Outlines schema

/-- How many schemas have a name. -/
def named (document : Document) : Nat := document.schemas.length

/-- The names of schemas, with their positions. -/
def table (document : Document) : List (String × SchemaId) :=
  (document.schemas.map Prod.fst).zipIdx

/-- A written schema means a schema of the model. -/
inductive Stands (document : Document) (model : Model) : SchemaDoc → SchemaId → Prop
  | reference {doc : SchemaDoc} {text : String} {id : SchemaId} (refers : doc.reference = some text)
      (found : model.lookup (referenceName text) = some id) : Stands document model doc id
  | inline {doc : SchemaDoc} {id : SchemaId} {schema : Schema} (own : doc.reference = none)
      (inside : document.named ≤ id) (found : model.schema? id = some schema)
      (outlines : doc.Outlines schema) (holds : List.Forall₂ (Stands document model) doc.inner schema.slots) :
      Stands document model doc id

/-- The names of a model are those of the description. -/
structure Ready (document : Document) (model : Model) : Prop where
  table : model.table = document.table
  large : document.named ≤ model.size

/-- What a step on a list of written schemas does. What they mean, they mean however the model goes on. -/
structure Laid (document : Document) (before : Model) (docs : List SchemaDoc) (ids : List SchemaId)
    (after : Model) : Prop where
  added : ∃ added, Model.Added document.Describes document.named before added ids after
  stands : ∀ final, Model.Continues document.named after final →
    List.Forall₂ (document.Stands final) docs ids

/-- What shaping a written schema does. -/
structure Shaped (document : Document) (before : Model) (doc : SchemaDoc) (path : String) (schema : Schema)
    (after : Model) : Prop where
  path : schema.path = path
  outlines : doc.Outlines schema
  laid : document.Laid before doc.inner schema.slots after

variable {document : Document} {before middle after model : Model} {doc : SchemaDoc}
  {docs others : List SchemaDoc} {ids more : List SchemaId} {schema : Schema} {path text name : String}

/-! ## Steps -/

theorem lookup_zipIdx (names : List String) (first : Nat) (name : String) :
    (names.zipIdx first).lookup name = (names.idxOf? name).map (· + first) := by
  induction names generalizing first with
  | nil => rfl
  | cons other names ih =>
    rw [List.zipIdx_cons, List.lookup_cons, ih, List.idxOf?_cons]
    by_cases same : name = other
    · simp [same]
    · rw [beq_eq_false_iff_ne.2 same, beq_eq_false_iff_ne.2 (Ne.symm same)]
      simp [Function.comp_def, Nat.add_comm, Nat.add_left_comm]

/-- A name is looked up as the first schema that has it. -/
theorem Ready.lookup (ready : document.Ready model) (name : String) :
    model.lookup name = (document.schemas.map Prod.fst).idxOf? name := by
  rw [Model.lookup, ready.table, Document.table, lookup_zipIdx]
  simp

theorem Ready.lt_named (ready : document.Ready model) {id : Nat} (found : model.lookup name = some id) :
    id < document.named := by
  rw [ready.lookup] at found
  have bound := (List.findIdx?_eq_some_iff_findIdx_eq.1 found).1
  rwa [List.length_map] at bound

/-- A named schema is meant by a reference, and any other is written out. -/
theorem Ready.lt_named_iff (ready : document.Ready model) {id : Nat} (stands : document.Stands model doc id) :
    id < document.named ↔ doc.reference.isSome := by
  cases stands with
  | reference refers found => exact iff_of_true (ready.lt_named found) (by simp [refers])
  | inline own outside => exact iff_of_false (Nat.not_lt_of_le outside) (by simp [own])

theorem Laid.ready (laid : document.Laid before docs ids after) (ready : document.Ready before) :
    document.Ready after := by
  obtain ⟨added, step⟩ := laid.added
  refine ⟨step.continues.table.trans ready.table, ?_⟩
  rw [step.size]
  exact Nat.le_trans ready.large (Nat.le_add_right _ _)

theorem Laid.continues (laid : document.Laid before docs ids after) :
    Model.Continues document.named before after := by
  obtain ⟨added, step⟩ := laid.added
  exact step.continues

theorem Laid.nil : document.Laid model [] [] model := ⟨⟨[], .nil⟩, fun _ _ => .nil⟩

theorem Laid.append (first : document.Laid before docs ids middle)
    (second : document.Laid middle others more after) :
    document.Laid before (docs ++ others) (ids ++ more) after := by
  obtain ⟨added, step⟩ := first.added
  obtain ⟨later, step'⟩ := second.added
  refine ⟨⟨added ++ later, step.append step'⟩, fun final continues => ?_⟩
  exact List.rel_append (first.stands final (step'.continues.trans continues)) (second.stands final continues)

/-- A reference means a named schema. -/
theorem Laid.reference (ready : document.Ready model) (refers : doc.reference = some text) {id : SchemaId}
    (found : model.lookup (referenceName text) = some id) : document.Laid model [doc] [id] model := by
  refine ⟨⟨[], .reference (ready.lt_named found)⟩, fun final continues => .cons (.reference refers ?_) .nil⟩
  rw [Model.lookup, continues.table]
  exact found

/-- A schema that is written out becomes a schema of its own. -/
theorem Shaped.add (shaped : document.Shaped before doc path schema after) (ready : document.Ready before)
    (writes : document.Writes doc) (own : doc.reference = none) :
    document.Laid before [doc] [after.size] (after.add schema) := by
  obtain ⟨added, step⟩ := shaped.laid.added
  refine ⟨⟨_, step.add ready.large ⟨doc, writes, shaped.outlines⟩⟩, fun final continues => ?_⟩
  have large : document.named ≤ after.size := (shaped.laid.ready ready).large
  have here : (after.add schema).schema? after.size = some schema := List.getElem?_concat_length
  have goesOn : Model.Continues document.named after final := by
    refine ⟨continues.table, fun id other inside found => continues.inlined id other inside ?_⟩
    exact (List.getElem?_append_left (Model.lt_size_of_schema? found)).trans found
  exact .cons (.inline own large (continues.inlined _ _ large here) shaped.outlines
    (shaped.laid.stands final goesOn)) .nil

end Document
end CmdletForge.Description
