import CmdletForge.Proofs.Description.Placement

/-!
# How written schemas are added

A lowering that comes to an end has gone through its steps, and each of them has added what was written
inside a schema before the schema itself.
-/

namespace CmdletForge.Description

/-! ## Lowerings that end -/

section Runs

variable {α β : Type} {before after : Model}

theorem run_bind_ok {first : Lowering α} {next : α → Lowering β} {b : β}
    (ran : (first >>= next).run before = .ok (b, after)) :
    ∃ a middle, first.run before = .ok (a, middle) ∧ (next a).run middle = .ok (b, after) := by
  rw [StateT.run_bind] at ran
  cases step : first.run before with
  | error stop =>
    rw [step] at ran
    contradiction
  | ok result =>
    rw [step] at ran
    exact ⟨_, _, rfl, ran⟩

theorem run_pure_ok {a b : α} (ran : (pure a : Lowering α).run before = .ok (b, after)) :
    b = a ∧ after = before := by
  cases ran
  exact ⟨rfl, rfl⟩

/-- A step whose result is put into another. -/
theorem run_bind_pure_ok {first : Lowering α} {f : α → β} {b : β}
    (ran : (first >>= fun a => pure (f a)).run before = .ok (b, after)) :
    ∃ a, first.run before = .ok (a, after) ∧ b = f a := by
  obtain ⟨a, middle, step, last⟩ := run_bind_ok ran
  obtain ⟨rfl, rfl⟩ := run_pure_ok last
  exact ⟨a, step, rfl⟩

theorem run_lift_ok {result : Except DescriptionError α} {a : α}
    (ran : (liftM result : Lowering α).run before = .ok (a, after)) : result = .ok a ∧ after = before := by
  cases result with
  | error stop => contradiction
  | ok b =>
    cases ran
    exact ⟨rfl, rfl⟩

end Runs

/-- A schema that has a kind has it by what is written, and an array says what it holds. -/
theorem classify_ok {doc : SchemaDoc} {path : String} {kind : Kind} (classified : classify doc path = .ok kind) :
    doc.kind = kind ∧ (kind = .array → doc.items.isSome) := by
  unfold classify at classified
  split at classified
  next => contradiction
  next held =>
    obtain rfl := Except.ok.inj classified
    refine ⟨rfl, fun array => ?_⟩
    cases items : doc.items with
    | none => simp [array, items] at held
    | some => rfl

/-- A map says what it holds. -/
theorem additional_of_map {doc : SchemaDoc} (map : doc.kind = .map) : doc.additional.schema?.isSome := by
  unfold SchemaDoc.kind SchemaDoc.kindOfType at map
  cases said : doc.additional with
  | schema items => rfl
  | _ =>
    rw [said] at map
    split at map
    next => contradiction
    next =>
      split at map
      next => contradiction
      next => dsimp only at map; split at map <;> contradiction

namespace Document

variable {document : Document} {before after : Model} {doc : SchemaDoc} {path : String}

/-- A written schema is placed: as what it refers to, or as what it is shaped to. -/
theorem laid_place {shaping : Lowering Schema} {id : SchemaId} (ready : document.Ready before)
    (writes : document.Writes doc)
    (shaped : ∀ {schema middle}, shaping.run before = .ok (schema, middle) →
      document.Shaped before doc path schema middle)
    (ran : (place doc.reference path shaping).run before = .ok (id, after)) :
    document.Laid before [doc] [id] after := by
  unfold place at ran
  split at ran
  next text refers =>
    obtain ⟨model, middle, got, ran⟩ := run_bind_ok ran
    cases got
    split at ran
    next found =>
      obtain ⟨rfl, rfl⟩ := run_pure_ok ran
      exact .reference ready refers found
    next => contradiction
  next own =>
    obtain ⟨schema, middle, first, ran⟩ := run_bind_ok ran
    cases ran
    exact (shaped first).add ready writes own

mutual

theorem shaped_shape (doc : SchemaDoc) {path : String} {before after : Model} {schema : Schema}
    (ready : document.Ready before) (writes : document.Writes doc)
    (ran : (shape doc path).run before = .ok (schema, after)) :
    document.Shaped before doc path schema after := by
  have inside : ∀ inner ∈ doc.inner, document.Writes inner := fun inner mem => writes.inner mem
  obtain ⟨reference, type, format, title, description, default, values, properties, required, items,
    additional, variants, discriminator⟩ := doc
  rw [shape] at ran
  obtain ⟨kind, middle, lifted, ran⟩ := run_bind_ok ran
  obtain ⟨classified, rfl⟩ := run_lift_ok lifted
  obtain ⟨same, array⟩ := classify_ok classified
  cases kind with
  | object =>
    obtain ⟨held, step, rfl⟩ := run_bind_pure_ok ran
    rw [SchemaDoc.inner, same] at inside
    obtain ⟨names, laid⟩ := laid_properties properties ready inside step
    refine ⟨rfl, ⟨same.symm, ?_, ?_, by simp [outline]⟩, ?_⟩
    · rw [same]
      exact names
    · rw [same]
      simp [Schema.slots, outline]
    · rw [SchemaDoc.inner, same]
      simpa [Schema.slots, outline] using laid
  | array =>
    obtain ⟨held, step, rfl⟩ := run_bind_pure_ok ran
    rw [SchemaDoc.inner, same] at inside
    obtain ⟨filled, laid⟩ := laid_items items ready inside step
    refine ⟨rfl, ⟨same.symm, by rw [same]; rfl, ?_, fun _ => filled.trans (array rfl)⟩, ?_⟩
    · rw [same]
      simp [Schema.slots, outline]
    · rw [SchemaDoc.inner, same]
      simpa [Schema.slots, outline] using laid
  | map =>
    obtain ⟨held, step, rfl⟩ := run_bind_pure_ok ran
    rw [SchemaDoc.inner, same] at inside
    obtain ⟨filled, laid⟩ := laid_additional additional ready inside step
    refine ⟨rfl, ⟨same.symm, by rw [same]; rfl, ?_, fun _ => filled.trans (additional_of_map same)⟩, ?_⟩
    · rw [same]
      simp [Schema.slots, outline]
    · rw [SchemaDoc.inner, same]
      simpa [Schema.slots, outline] using laid
  | union =>
    obtain ⟨held, step, rfl⟩ := run_bind_pure_ok ran
    rw [SchemaDoc.inner, same] at inside
    have laid := laid_variants variants ready inside step
    refine ⟨rfl, ⟨same.symm, by rw [same]; rfl, ?_, by simp [outline]⟩, ?_⟩
    · rw [same]
      simp [Schema.slots, outline]
    · rw [SchemaDoc.inner, same]
      simpa [Schema.slots, outline] using laid
  | _ =>
    obtain ⟨rfl, rfl⟩ := run_pure_ok ran
    refine ⟨rfl, ⟨same.symm, by rw [same]; rfl, by rw [same]; rfl, by simp [outline]⟩, ?_⟩
    rw [SchemaDoc.inner, same]
    exact .nil

theorem laid_properties (properties : List (String × SchemaDoc)) {path : String} {before after : Model}
    {shaped : List Property} (ready : document.Ready before)
    (writes : ∀ doc ∈ properties.map Prod.snd, document.Writes doc)
    (ran : (shapeProperties properties path).run before = .ok (shaped, after)) :
    shaped.map (·.name) = properties.map Prod.fst ∧
      document.Laid before (properties.map Prod.snd) (shaped.map (·.schema)) after := by
  match properties with
  | [] =>
    rw [shapeProperties] at ran
    obtain ⟨rfl, rfl⟩ := run_pure_ok ran
    exact ⟨rfl, .nil⟩
  | (name, doc) :: rest =>
    rw [shapeProperties] at ran
    obtain ⟨id, middle, placed, ran⟩ := run_bind_ok ran
    obtain ⟨others, later, rfl⟩ := run_bind_pure_ok ran
    obtain ⟨first, others_write⟩ := List.forall_mem_cons.1 writes
    have here := laid_place ready first (shaped_shape doc ready first) placed
    obtain ⟨names, there⟩ := laid_properties rest (here.ready ready) others_write later
    exact ⟨by simp [names], here.append there⟩

theorem laid_items (items : Option SchemaDoc) {path : String} {before after : Model}
    {shaped : Option SchemaId} (ready : document.Ready before)
    (writes : ∀ doc ∈ items.toList, document.Writes doc)
    (ran : (shapeItems items path).run before = .ok (shaped, after)) :
    shaped.isSome = items.isSome ∧ document.Laid before items.toList shaped.toList after := by
  match items with
  | none =>
    rw [shapeItems] at ran
    obtain ⟨rfl, rfl⟩ := run_pure_ok ran
    exact ⟨rfl, .nil⟩
  | some doc =>
    rw [shapeItems] at ran
    obtain ⟨id, placed, rfl⟩ := run_bind_pure_ok ran
    have first := writes doc (by simp)
    exact ⟨rfl, laid_place ready first (shaped_shape doc ready first) placed⟩

theorem laid_additional (additional : Additional SchemaDoc) {path : String} {before after : Model}
    {shaped : Option SchemaId} (ready : document.Ready before)
    (writes : ∀ doc ∈ additional.schema?.toList, document.Writes doc)
    (ran : (shapeAdditional additional path).run before = .ok (shaped, after)) :
    shaped.isSome = additional.schema?.isSome ∧
      document.Laid before additional.schema?.toList shaped.toList after := by
  match additional with
  | .unsaid =>
    rw [shapeAdditional] at ran
    obtain ⟨rfl, rfl⟩ := run_pure_ok ran
    exact ⟨rfl, .nil⟩
  | .flag =>
    rw [shapeAdditional] at ran
    obtain ⟨rfl, rfl⟩ := run_pure_ok ran
    exact ⟨rfl, .nil⟩
  | .schema doc =>
    rw [shapeAdditional] at ran
    obtain ⟨id, placed, rfl⟩ := run_bind_pure_ok ran
    have first := writes doc (by simp [Additional.schema?])
    exact ⟨rfl, laid_place ready first (shaped_shape doc ready first) placed⟩

theorem laid_variants (variants : List SchemaDoc) {path : String} {index : Nat} {before after : Model}
    {shaped : List SchemaId} (ready : document.Ready before) (writes : ∀ doc ∈ variants, document.Writes doc)
    (ran : (shapeVariants variants path index).run before = .ok (shaped, after)) :
    document.Laid before variants shaped after := by
  match variants with
  | [] =>
    rw [shapeVariants] at ran
    obtain ⟨rfl, rfl⟩ := run_pure_ok ran
    exact .nil
  | doc :: rest =>
    rw [shapeVariants] at ran
    obtain ⟨id, middle, placed, ran⟩ := run_bind_ok ran
    obtain ⟨others, later, rfl⟩ := run_bind_pure_ok ran
    obtain ⟨first, others_write⟩ := List.forall_mem_cons.1 writes
    have here := laid_place ready first (shaped_shape doc ready first) placed
    exact here.append (laid_variants rest (here.ready ready) others_write later)

end

end Document
end CmdletForge.Description
