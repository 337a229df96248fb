import CmdletForge.Proofs.Description.Faults
import Mathlib.Data.List.TakeWhile

/-!
# What references mean

A description and its model are walked by the same addresses: what is written at an address of the one is held
at that address of the other. Where a reference is written, the schema is held that the last part of the
reference names. A name without a slash is the last part of itself, and of every reference that ends in it after
a slash; a name with a slash never is, so what is written for it means another schema or none.
-/

namespace CmdletForge

namespace Description

/-! ## The last part of a reference -/

theorem not_mem_referenceName (text : String) : '/' ∉ (referenceName text).toList := by
  rw [referenceName, String.toList_ofList, List.mem_reverse]
  intro mem
  simpa using List.mem_takeWhile_imp mem

theorem referenceName_eq_self {name : String} : referenceName name = name ↔ '/' ∉ name.toList := by
  constructor
  · intro same
    rw [← same]
    exact not_mem_referenceName name
  · intro plain
    have all : name.toList.reverse.takeWhile (· ≠ '/') = name.toList.reverse := by
      refine List.takeWhile_eq_self_iff.2 fun c mem => ?_
      simpa using fun same : c = '/' => plain (same ▸ List.mem_reverse.1 mem)
    rw [referenceName, all, List.reverse_reverse, String.ofList_toList]

/-- What stands before a slash does not matter. -/
theorem referenceName_append (front name : String) :
    referenceName (front ++ "/" ++ name) = referenceName name := by
  have back : (front ++ "/" ++ name).toList.reverse = name.toList.reverse ++ '/' :: front.toList.reverse := by
    simp [String.toList_append]
  rw [referenceName, referenceName, back, List.takeWhile_append]
  split
  next whole =>
    have all := List.takeWhile_sublist (fun c => decide (c ≠ '/')) |>.eq_of_length whole
    rw [all]
    simp
  next => rfl

/-! ## Addresses -/

/-- Where a schema stands in a description, and what it means in a model. -/
inductive Address where
  | entry (index : Nat)
  | parameter (operation index : Nat)
  | response (operation : Nat)
  | inside (outer : Address) (index : Nat)

/-- The schema that is written at an address. There is nothing inside a reference. -/
def Document.written? (document : Document) : Address → Option SchemaDoc
  | .entry index => document.schemas[index]?.map Prod.snd
  | .parameter operation index => do
    let operation ← document.operations[operation]?
    let parameter ← operation.parameters[index]?
    return parameter.schema
  | .response operation => do (← document.operations[operation]?).response
  | .inside outer index => do
    let outer ← document.written? outer
    if outer.reference.isSome then none else outer.inner[index]?

end Description

open Description in
/-- The schema that is held at an address. -/
def Model.held? (model : Model) : Address → Option SchemaId
  | .entry index => model.table[index]?.map Prod.snd
  | .parameter operation index => do
    let operation ← model.operations[operation]?
    let parameter ← operation.parameters[index]?
    return parameter.schema
  | .response operation => do (← model.operations[operation]?).response
  | .inside outer index => do (← model.schema? (← model.held? outer)).slots[index]?

namespace Description

theorem getElem?_of_forall₂ {α β : Type} {R : α → β → Prop} {as : List α} {bs : List β}
    (related : List.Forall₂ R as bs) {i : Nat} {a : α} (found : as[i]? = some a) :
    ∃ b, bs[i]? = some b ∧ R a b := by
  induction related generalizing i with
  | nil => simp at found
  | cons here _ ih =>
    cases i with
    | zero =>
      obtain rfl : _ = a := by simpa using found
      exact ⟨_, rfl, here⟩
    | succ i => exact ih (by simpa using found)

namespace Document

variable {document : Document} {model : Model} {doc : SchemaDoc} {id : SchemaId} {address : Address}

/-- What is held where a schema is written: for a reference, the schema that its last part names; for any
other, a schema that holds what is written inside. -/
inductive Means (document : Document) (model : Model) (doc : SchemaDoc) (id : SchemaId) : Prop
  | reference {text : String} (refers : doc.reference = some text)
      (found : model.lookup (referenceName text) = some id)
  | inline {schema : Schema} (own : doc.reference = none) (found : model.schema? id = some schema)
      (holds : List.Forall₂ (document.Stands model) doc.inner schema.slots)

theorem Stands.means (stands : document.Stands model doc id) : document.Means model doc id := by
  cases stands with
  | reference refers found => exact .reference refers found
  | inline own _ found _ holds => exact .inline own found holds

/-- What is written at an address means what is held there. -/
theorem Lowered.held? (lowered : document.Lowered model) (written : document.written? address = some doc) :
    ∃ id, model.held? address = some id ∧ document.Means model doc id := by
  induction address generalizing doc with
  | entry index =>
    obtain ⟨⟨name, _⟩, here, rfl⟩ := Option.map_eq_some_iff.1 written
    obtain ⟨schema, found, defines⟩ := lowered.defined index name _ here
    refine ⟨index, ?_, .inline defines.own found defines.holds⟩
    simp [Model.held?, lowered.table, Document.table, List.getElem?_zipIdx, here]
  | parameter operation index =>
    obtain ⟨offer, here, written⟩ := Option.bind_eq_some_iff.1 written
    obtain ⟨parameter, inside, ⟨⟩⟩ := Option.bind_eq_some_iff.1 written
    obtain ⟨offered, there, offers⟩ := getElem?_of_forall₂ lowered.operations here
    obtain ⟨taken, held, -, stands⟩ := getElem?_of_forall₂ offers.parameters inside
    exact ⟨taken.schema, by simp [Model.held?, there, held], stands.means⟩
  | response operation =>
    obtain ⟨offer, here, inside⟩ := Option.bind_eq_some_iff.1 written
    obtain ⟨offered, there, offers⟩ := getElem?_of_forall₂ lowered.operations here
    have answers := offers.response
    rw [inside] at answers
    cases held : offered.response with
    | none =>
      rw [held] at answers
      cases answers
    | some id =>
      rw [held] at answers
      cases answers with
      | some stands => exact ⟨id, by simp [Model.held?, there, held], stands.means⟩
  | inside outer index ih =>
    obtain ⟨whole, around, inside⟩ := Option.bind_eq_some_iff.1 written
    split at inside
    next => contradiction
    next own =>
      obtain ⟨id, held, means⟩ := ih around
      cases means with
      | reference refers => simp [refers] at own
      | inline _ found holds =>
        obtain ⟨inner, there, stands⟩ := getElem?_of_forall₂ holds inside
        exact ⟨inner, by simp [Model.held?, held, found, there], stands.means⟩

end Document

/-! ## References by name -/

/-- A reference names a schema by its name alone, or as a component of a description. -/
def SchemaDoc.RefersTo (doc : SchemaDoc) (name : String) : Prop :=
  doc.reference = some name ∨ doc.reference = some ("#/components/schemas/" ++ name)

/-- Either way, it ends in the last part of the name. -/
theorem SchemaDoc.RefersTo.referenceName {doc : SchemaDoc} {name text : String} (refersTo : doc.RefersTo name)
    (refers : doc.reference = some text) : referenceName text = referenceName name := by
  rcases refersTo with alone | component
  · obtain rfl : name = text := Option.some.inj (alone.symm.trans refers)
    rfl
  · obtain rfl : "#/components/schemas/" ++ name = text := Option.some.inj (component.symm.trans refers)
    exact referenceName_append "#/components/schemas" name

namespace Document

variable {document : Document} {model : Model} {doc : SchemaDoc} {address : Address} {name : String}

/-- Where a reference is written, the schema is held that its last part names. -/
theorem held?_of_reference (made : document.lower = .ok model) (written : document.written? address = some doc)
    {text : String} (refers : doc.reference = some text) :
    ∃ id, model.held? address = some id ∧ model.lookup (referenceName text) = some id := by
  obtain ⟨id, held, means⟩ := (underway_of_lower made).lowered.held? written
  cases means with
  | reference other found =>
    obtain rfl := Option.some.inj (refers.symm.trans other)
    exact ⟨id, held, found⟩
  | inline own => simp [refers] at own

/-- A reference that is not resolved ends in a name that the table does not have. -/
theorem not_mem_names_of_lower {path text : String}
    (refused : document.lower = .error (.unresolvedReference path text)) :
    referenceName text ∉ document.names := by
  have stops := document.lower_of_firstFault
  split at stops
  next error fault =>
    obtain rfl := Except.error.inj (stops.symm.trans refused)
    obtain ⟨site, -, fault⟩ := List.exists_of_findSome?_eq_some fault
    unfold Site.fault? at fault
    split at fault
    next written refers =>
      split at fault
      next => simp at fault
      next =>
        split at fault
        next => contradiction
        next unknown =>
          obtain ⟨-, rfl⟩ : site.path = path ∧ written = text := by simpa using fault
          exact unknown
    next => split at fault <;> simp at fault
  next =>
    obtain ⟨model, made⟩ := stops
    simp [made] at refused

/-- Different names are not looked up to the same schema. -/
theorem Lowered.eq_of_lookup (lowered : document.Lowered model) {first second : String} {id : SchemaId}
    (one : model.lookup first = some id) (other : model.lookup second = some id) : first = second := by
  rw [lowered.lookup, List.idxOf?_eq_some_iff] at one other
  obtain ⟨_, rfl, -⟩ := one
  obtain ⟨_, same, -⟩ := other
  exact same

/-- **References by name.** Wherever a schema of the table is referred to by its name, alone or as a component,
the schema is held that the last part of the name is looked up to, be it that in which the reference stands, one
before it or one after it, or the first of several. This is the schema that the name is looked up to if and only
if there is no slash in the name; and such a reference is resolved. -/
theorem held?_of_refersTo (document : Document) (name : String) (declared : name ∈ document.names) :
    (∀ model, document.lower = .ok model → model.lookup name = document.names.idxOf? name ∧
      ∀ address doc, document.written? address = some doc → doc.RefersTo name →
        ∃ id, model.held? address = some id ∧ model.lookup (referenceName name) = some id ∧
          (model.lookup name = some id ↔ '/' ∉ name.toList)) ∧
    ('/' ∉ name.toList → ∀ path text, document.lower = .error (.unresolvedReference path text) →
      text ≠ name ∧ text ≠ "#/components/schemas/" ++ name) := by
  constructor
  · intro model made
    have lowered := (underway_of_lower made).lowered
    refine ⟨lowered.lookup name, fun address doc written refersTo => ?_⟩
    obtain ⟨text, refers⟩ : ∃ text, doc.reference = some text :=
      refersTo.elim (⟨_, ·⟩) (⟨_, ·⟩)
    obtain ⟨id, held, found⟩ := held?_of_reference made written refers
    rw [refersTo.referenceName refers] at found
    refine ⟨id, held, found, fun whole => ?_, fun plain => ?_⟩
    · exact referenceName_eq_self.1 (lowered.eq_of_lookup found whole)
    · rwa [referenceName_eq_self.2 plain] at found
  · intro plain path text refused
    have unknown := not_mem_names_of_lower refused
    have own : referenceName name = name := referenceName_eq_self.2 plain
    constructor
    · rintro rfl
      exact unknown (own.symm ▸ declared)
    · rintro rfl
      rw [show "#/components/schemas/" ++ name = "#/components/schemas" ++ "/" ++ name from rfl,
        referenceName_append, own] at unknown
      exact unknown declared

end Document

/-- Nodes that are referred to from before and after, from inside and from an operation; the name is there
twice. -/
def ring : Document where
  schemas :=
    [("List", { type := some "array", items := some { reference := some "Node" } }),
      ("Node",
        { properties :=
            [("next", { reference := some "#/components/schemas/Node" }),
              ("rest", { reference := some "List" })] }),
      ("Node", { properties := [("first", { reference := some "Node" })] })]
  operations :=
    [{ id := "walk"
       parameters := [{ name := "start", schema := { reference := some "Node" } }]
       response := some { type := some "array", items := some { reference := some "#/components/schemas/Node" } } }]

theorem ring_held : ∃ model, ring.lower = .ok model ∧ model.lookup "Node" = some 1 ∧
    ∀ address ∈ [Address.inside (.entry 0) 0, .inside (.entry 1) 0, .inside (.entry 2) 0, .parameter 0 0,
      .inside (.response 0) 0], model.held? address = some 1 := by
  have declared : "Node" ∈ ring.names := by decide
  have ends : ring.lower.isOk = true := by decide +kernel
  cases made : ring.lower with
  | error stop =>
    rw [made] at ends
    contradiction
  | ok model =>
    obtain ⟨first, everywhere⟩ := (Document.held?_of_refersTo ring "Node" declared).1 model made
    have one : model.lookup "Node" = some 1 := first.trans (by decide)
    refine ⟨model, rfl, one, fun address mem => ?_⟩
    obtain ⟨doc, written, refersTo⟩ : ∃ doc, ring.written? address = some doc ∧ doc.RefersTo "Node" := by
      simp only [List.mem_cons, List.not_mem_nil, or_false] at mem
      rcases mem with rfl | rfl | rfl | rfl | rfl
      exacts [⟨_, rfl, .inl rfl⟩, ⟨_, rfl, .inr rfl⟩, ⟨_, rfl, .inl rfl⟩, ⟨_, rfl, .inl rfl⟩, ⟨_, rfl, .inr rfl⟩]
    obtain ⟨id, held, -, same⟩ := everywhere address doc written refersTo
    rw [held, ← one, same.2 (by decide)]

/-- A schema that refers to one with a slash in its name. -/
def shelves : Document where
  schemas :=
    [("a/b", { type := some "string" }), ("b", { type := some "integer" }),
      ("C", { properties := [("x", { reference := some "a/b" })] })]

/-- It gets the other one. -/
theorem shelves_misplaced : ∃ model, shelves.lower = .ok model ∧ "a/b" ∈ shelves.names ∧
    (∃ doc, shelves.written? (.inside (.entry 2) 0) = some doc ∧ doc.RefersTo "a/b") ∧
    model.held? (.inside (.entry 2) 0) = some 1 ∧ model.lookup "a/b" = some 0 :=
  ⟨_, rfl, by decide, ⟨_, rfl, .inl rfl⟩, rfl, rfl⟩

end Description
end CmdletForge
