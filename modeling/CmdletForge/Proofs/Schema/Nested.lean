import CmdletForge.Proofs.Schema.Closed
import Mathlib.Data.List.Nodup
import Mathlib.Logic.Relation

/-!
# Schemas that are held in one place

Some of the first schemas of a model have a name, and may be held anywhere. `Nested` says of all others
that each is held in one place, and only by named schemas, operations and schemas that come after it. A
model gets so by growing: what is added holds the rest of what is added, and what it leaves over is held by
the schema or the operation that comes next.
-/

namespace CmdletForge

/-- The schemas that a schema holds: those of its properties, its items and its variants. -/
def Schema.slots (schema : Schema) : List SchemaId :=
  schema.properties.map (·.schema) ++ schema.items.toList ++ schema.variants

/-- The schemas that have no name in the table, if `named` schemas have one. -/
def inlined (named : Nat) (ids : List SchemaId) : List SchemaId := ids.filter fun id => named ≤ id

theorem mem_inlined {named : Nat} {ids : List SchemaId} {id : SchemaId} :
    id ∈ inlined named ids ↔ id ∈ ids ∧ named ≤ id := by
  simp [inlined]

theorem inlined_append (named : Nat) (ids more : List SchemaId) :
    inlined named (ids ++ more) = inlined named ids ++ inlined named more :=
  List.filter_append ..

theorem inlined_perm {named : Nat} {ids ids' : List SchemaId} (same : ids.Perm ids') :
    (inlined named ids).Perm (inlined named ids') :=
  same.filter _

namespace Model

/-- The schemas that are held, place by place. -/
def slots (model : Model) : List SchemaId := model.schemas.flatMap Schema.slots ++ model.mentions

/-- A schema holds another. -/
def Holds (model : Model) (outer inner : SchemaId) : Prop :=
  ∃ schema, model.schema? outer = some schema ∧ inner ∈ schema.slots

/-- From `named` on, each schema is held in one place, and by none that comes before it. -/
structure Nested (named : Nat) (model : Model) : Prop where
  large : named ≤ model.size
  once : (inlined named model.slots).Perm (List.range' named (model.size - named))
  below : ∀ outer inner, named ≤ outer → named ≤ inner → model.Holds outer inner → inner < outer

/-- What a step adds to a model. `held` are the schemas that the step hands on, to be held by what comes
next. -/
structure Added (fit : Schema → Prop) (named : Nat) (before : Model) (added : List Schema)
    (held : List SchemaId) (after : Model) : Prop where
  eq : after = { before with schemas := before.schemas ++ added }
  once : (inlined named (added.flatMap Schema.slots ++ held)).Perm
    (List.range' before.size added.length)
  below : ∀ (i : Nat) schema, added[i]? = some schema →
    ∀ inner ∈ inlined named schema.slots, inner < before.size + i
  fit : ∀ schema ∈ added, fit schema

/-- A model goes on: schemas without a name stay as they are, and so do the names. -/
structure Continues (named : Nat) (before after : Model) : Prop where
  table : after.table = before.table
  inlined : ∀ (id : Nat) schema, named ≤ id → before.schema? id = some schema →
    after.schema? id = some schema

variable {fit : Schema → Prop} {named : Nat} {model before middle after : Model} {added more : List Schema}
  {held others : List SchemaId} {schema : Schema} {id : Nat}

/-! ## Steps -/

theorem Continues.refl (named : Nat) (model : Model) : Continues named model model where
  table := rfl
  inlined _ _ _ found := found

theorem Continues.trans (first : Continues named before middle) (second : Continues named middle after) :
    Continues named before after where
  table := second.table.trans first.table
  inlined id schema inside found := second.inlined id schema inside (first.inlined id schema inside found)

theorem Added.size (step : Added fit named before added held after) :
    after.size = before.size + added.length := by
  rw [step.eq, Model.size, Model.size, List.length_append]

theorem Added.schema? (step : Added fit named before added held after)
    (found : before.schema? id = some schema) : after.schema? id = some schema := by
  rw [step.eq, Model.schema?, List.getElem?_append_left (lt_size_of_schema? found)]
  exact found

theorem Added.continues (step : Added fit named before added held after) : Continues named before after where
  table := by rw [step.eq]
  inlined _ _ _ found := step.schema? found

theorem Added.nil : Added fit named model [] [] model where
  eq := by simp
  once := by simp [inlined]
  below := by simp
  fit := by simp

/-- A named schema is held again. -/
theorem Added.reference (bound : id < named) : Added fit named model [] [id] model where
  eq := by simp
  once := by simp [inlined, bound]
  below := by simp
  fit := by simp

theorem Added.append (first : Added fit named before added held middle)
    (second : Added fit named middle more others after) :
    Added fit named before (added ++ more) (held ++ others) after where
  eq := by rw [second.eq, first.eq, List.append_assoc]
  once := by
    have split : ((added ++ more).flatMap Schema.slots ++ (held ++ others)).Perm
        ((added.flatMap Schema.slots ++ held) ++ (more.flatMap Schema.slots ++ others)) := by
      rw [List.flatMap_append, List.append_assoc, List.append_assoc]
      refine List.Perm.append_left _ ?_
      rw [← List.append_assoc, ← List.append_assoc]
      exact List.perm_append_comm.append_right _
    refine (inlined_perm split).trans ?_
    rw [inlined_append, List.length_append, ← List.range'_append_1, ← first.size]
    exact first.once.append second.once
  below := by
    intro i schema at_ inner mem
    by_cases early : i < added.length
    · rw [List.getElem?_append_left early] at at_
      exact first.below i schema at_ inner mem
    · rw [List.getElem?_append_right (Nat.le_of_not_lt early)] at at_
      have bound : inner < middle.size + (i - added.length) := second.below _ schema at_ inner mem
      rw [first.size] at bound
      rw [Nat.add_assoc, Nat.add_sub_cancel' (Nat.le_of_not_lt early)] at bound
      exact bound
  fit := by
    intro schema mem
    rcases List.mem_append.1 mem with mem | mem
    · exact first.fit schema mem
    · exact second.fit schema mem

/-- All that a step hands on is held by a new schema, and the new schema is handed on. -/
theorem Added.add (step : Added fit named before added schema.slots after) (large : named ≤ before.size)
    (fits : fit schema) :
    Added fit named before (added ++ [schema]) [after.size] (after.add schema) where
  eq := by simp [step.eq, Model.add]
  once := by
    have bound : named ≤ after.size := by
      rw [step.size]
      omega
    have last : inlined named [after.size] = [after.size] := by simp [inlined, bound]
    rw [List.flatMap_append, List.flatMap_singleton, inlined_append, last, List.length_append,
      ← List.range'_append_1, ← step.size]
    exact step.once.append_right _
  below := by
    intro i other at_ inner mem
    by_cases early : i < added.length
    · rw [List.getElem?_append_left early] at at_
      exact step.below i other at_ inner mem
    · obtain ⟨rfl, rfl⟩ : i = added.length ∧ other = schema := by
        rw [List.getElem?_append_right (Nat.le_of_not_lt early), List.getElem?_singleton] at at_
        split at at_
        next => exact ⟨by omega, (Option.some.inj at_).symm⟩
        next => contradiction
      have listed := step.once.mem_iff.1 (mem_inlined.2
        ⟨List.mem_append_right _ (mem_inlined.1 mem).1, (mem_inlined.1 mem).2⟩)
      exact (List.mem_range'_1.1 listed).2
  fit := by
    intro other mem
    rcases List.mem_append.1 mem with mem | mem
    · exact step.fit other mem
    · rw [List.mem_singleton.1 mem]
      exact fits

/-! ## Models -/

theorem Nested.bounded (nested : Nested named model) {inner : Nat} (mem : inner ∈ model.slots) :
    inner < model.size := by
  have large := nested.large
  by_cases inside : named ≤ inner
  · have listed := List.mem_range'_1.1 (nested.once.mem_iff.1 (mem_inlined.2 ⟨mem, inside⟩))
    omega
  · omega

theorem Nested.closed (nested : Nested named model) (table : ∀ entry ∈ model.table, entry.2 < model.size) :
    model.Closed where
  table := table
  properties schema mem property inside := by
    refine nested.bounded (List.mem_append_left _ (List.mem_flatMap.2 ⟨schema, mem, ?_⟩))
    exact List.mem_append_left _ (List.mem_append_left _ (List.mem_map.2 ⟨property, inside, rfl⟩))
  items schema mem id held := by
    refine nested.bounded (List.mem_append_left _ (List.mem_flatMap.2 ⟨schema, mem, ?_⟩))
    exact List.mem_append_left _ (List.mem_append_right _ (Option.mem_toList.2 held))
  variants schema mem id held :=
    nested.bounded (List.mem_append_left _ (List.mem_flatMap.2 ⟨schema, mem, List.mem_append_right _ held⟩))
  parameters operation mem parameter inside := by
    refine nested.bounded (List.mem_append_right _ (List.mem_flatMap.2 ⟨operation, mem, ?_⟩))
    exact List.mem_append_left _ (List.mem_map.2 ⟨parameter, inside, rfl⟩)
  response operation mem id answers := by
    refine nested.bounded (List.mem_append_right _ (List.mem_flatMap.2 ⟨operation, mem, ?_⟩))
    exact List.mem_append_right _ (Option.mem_toList.2 answers)

theorem Nested.count_eq_one (nested : Nested named model) (inside : named ≤ id) (bound : id < model.size) :
    model.slots.count id = 1 := by
  have kept : (inlined named model.slots).count id = model.slots.count id :=
    List.count_filter (by simpa using inside)
  rw [← kept, nested.once.count_eq]
  exact List.count_eq_one_of_mem (List.nodup_range' 1 Nat.one_pos) (List.mem_range'_1.2 (by omega))

/-- No schema without a name is inside itself, unless by way of a named one. -/
theorem Nested.acyclic (nested : Nested named model) (id : SchemaId) :
    ¬ Relation.TransGen (fun outer inner => named ≤ outer ∧ named ≤ inner ∧ model.Holds outer inner)
      id id := by
  have later : ∀ outer inner, Relation.TransGen
      (fun outer inner => named ≤ outer ∧ named ≤ inner ∧ model.Holds outer inner) outer inner →
      inner < outer := by
    intro outer inner path
    induction path with
    | single edge => exact nested.below _ _ edge.1 edge.2.1 edge.2.2
    | tail _ edge ih => exact Nat.lt_trans (nested.below _ _ edge.1 edge.2.1 edge.2.2) ih
  exact fun cycle => Nat.lt_irrefl id (later id id cycle)

theorem Holds.of_added (step : Added fit named before added held after) {outer inner : Nat}
    (holds : after.Holds outer inner) :
    before.Holds outer inner ∨
      ∃ i schema, outer = before.size + i ∧ added[i]? = some schema ∧ inner ∈ schema.slots := by
  obtain ⟨schema, found, mem⟩ := holds
  rw [step.eq, Model.schema?] at found
  by_cases old : outer < before.size
  · rw [List.getElem?_append_left old] at found
    exact .inl ⟨schema, found, mem⟩
  · have new := Nat.le_of_not_lt old
    rw [List.getElem?_append_right new] at found
    exact .inr ⟨outer - before.size, schema, (Nat.add_sub_cancel' new).symm, found, mem⟩

/-- A step keeps the order of what it adds and of what was there. -/
theorem Nested.below_of_added (nested : Nested named before)
    (step : Added fit named before added held after) {outer inner : Nat} (outside : named ≤ outer)
    (inside : named ≤ inner) (holds : after.Holds outer inner) : inner < outer := by
  rcases holds.of_added step with old | ⟨i, schema, rfl, at_, mem⟩
  · exact nested.below outer inner outside inside old
  · exact step.below i schema at_ inner (mem_inlined.2 ⟨mem, inside⟩)

theorem Nested.once_of_added (nested : Nested named before)
    (step : Added fit named before added held after) {slots : List SchemaId}
    (taken : slots.Perm (before.slots ++ (added.flatMap Schema.slots ++ held))) :
    (inlined named slots).Perm (List.range' named (after.size - named)) := by
  have large := nested.large
  have split : List.range' named (after.size - named) =
      List.range' named (before.size - named) ++ List.range' before.size added.length := by
    have start : before.size = named + (before.size - named) := by omega
    have total : after.size - named = before.size - named + added.length := by
      rw [step.size]
      omega
    rw [total, ← List.range'_append_1, ← start]
  rw [split]
  refine (inlined_perm taken).trans ?_
  rw [inlined_append]
  exact nested.once.append step.once

theorem flatMap_set_perm {α β : Type} (f : α → List β) {all : List α} {i : Nat} {old : α} (new : α)
    (at_ : all[i]? = some old) (bare : f old = []) :
    ((all.set i new).flatMap f).Perm (all.flatMap f ++ f new) := by
  obtain ⟨bound, rfl⟩ := List.getElem?_eq_some_iff.1 at_
  have whole : all.flatMap f = (all.take i).flatMap f ++ (all.drop (i + 1)).flatMap f := by
    conv_lhs => rw [← List.take_append_drop i all, List.drop_eq_getElem_cons bound]
    rw [List.flatMap_append, List.flatMap_cons, bare, List.nil_append]
  rw [List.set_eq_take_append_cons_drop, if_pos bound, List.flatMap_append, List.flatMap_cons, whole,
    List.append_assoc]
  exact List.Perm.append_left _ List.perm_append_comm

/-- A schema that was put off comes to hold what was handed on. -/
theorem Nested.define (nested : Nested named before)
    (step : Added fit named before added schema.slots middle) (bound : id < named) {old : Schema}
    (found : middle.schema? id = some old) (bare : old.slots = [])
    {name : Option String} (eq : after = { middle with schemas := middle.schemas.set id { schema with name } }) :
    Nested named after := by
  have size : after.size = middle.size := by simp [eq, Model.size]
  refine ⟨?_, ?_, ?_⟩
  · rw [size, step.size]
    exact Nat.le_trans nested.large (Nat.le_add_right _ _)
  · rw [size]
    refine nested.once_of_added step ?_
    have set : (after.schemas.flatMap Schema.slots).Perm
        (middle.schemas.flatMap Schema.slots ++ schema.slots) := by
      rw [eq]
      exact flatMap_set_perm Schema.slots { schema with name } found bare
    refine (set.append_right _).trans (List.perm_iff_count.2 fun inner => ?_)
    simp only [eq, step.eq, slots, mentions, List.flatMap_append, List.count_append]
    omega
  · intro outer inner outside inside holds
    refine nested.below_of_added step outside inside ?_
    obtain ⟨other, at_, mem⟩ := holds
    refine ⟨other, ?_, mem⟩
    rw [eq, Model.schema?, List.getElem?_set_ne (by omega)] at at_
    exact at_

/-- An operation comes to hold what was handed on. -/
theorem Nested.addOperation (nested : Nested named before) {operation : Operation}
    (step : Added fit named before added operation.mentions after) :
    Nested named (after.addOperation operation) := by
  refine ⟨?_, ?_, ?_⟩
  · change named ≤ after.size
    rw [step.size]
    exact Nat.le_trans nested.large (Nat.le_add_right _ _)
  · refine nested.once_of_added step (List.perm_iff_count.2 fun inner => ?_)
    simp only [step.eq, slots, mentions, Model.addOperation, List.flatMap_append, List.flatMap_singleton,
      List.count_append]
    omega
  · exact fun outer inner outside inside holds => nested.below_of_added step outside inside holds

end Model
end CmdletForge
