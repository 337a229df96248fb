import CmdletForge.Proofs.Schema.Closed
import Mathlib.Data.List.Induction
import Std.Data.HashMap.Lemmas

/-!
# Models that are built call by call

A builder of models is called in any order: schemas are added, declared under a name or reserved for later,
defined as often as one likes, and operations are added. A call writes a schema at one position at most, and
`Step.Lawful` is all that it does. What a run of calls comes to follows from that: a schema is what was last
written at its position, under the name that was first given there.
-/

namespace CmdletForge

/-- A call on a builder of models. -/
inductive BuildCall where
  | add (schema : Schema)
  | declare (name : String) (schema : Schema)
  | reserve (name path : String)
  | define (id : SchemaId) (schema : Schema)
  | addOperation (operation : Operation)

namespace BuildCall

/-- What a call makes of a model. The position that is defined must be there. -/
def perform (model : Model) : BuildCall → Option Model
  | add schema => some (model.add schema)
  | declare name schema => some (model.declare name schema)
  | reserve name path => some (model.reserve name path)
  | define id schema => model.define id schema
  | addOperation operation => some (model.addOperation operation)

/-- The schema that a call adds at the end. -/
def added? : BuildCall → Option Schema
  | add schema => some schema
  | declare name schema => some { schema with name := some name }
  | reserve name path => some { Model.placeholder path with name := some name }
  | _ => none

/-- The position that a call defines. -/
def defined? : BuildCall → Option SchemaId
  | define id _ => some id
  | _ => none

/-- Every position that calls define is there by then, on a model of this size. -/
def Fit : (size : Nat) → List BuildCall → Prop
  | _, [] => True
  | size, call :: calls =>
    (∀ id ∈ call.defined?, id < size) ∧ Fit (size + call.added?.toList.length) calls

instance decidableFit : (size : Nat) → (calls : List BuildCall) → Decidable (Fit size calls)
  | _, [] => .isTrue trivial
  | size, call :: calls =>
    have := decidableFit (size + call.added?.toList.length) calls
    inferInstanceAs (Decidable ((∀ id ∈ call.defined?, id < size) ∧ _))

/-- A call that was made: the model before it and after it. -/
structure Step where
  before : Model
  call : BuildCall
  after : Model

/-- Calls made one after the other, each on what the one before it left, and what they leave. -/
def history (model : Model) : List BuildCall → Option (List Step × Model)
  | [] => some ([], model)
  | call :: calls => do
    let after ← call.perform model
    let (steps, last) ← history after calls
    return (⟨model, call, after⟩ :: steps, last)

namespace Step

/-- The position that is handed out. -/
def minted? (step : Step) : Option SchemaId := step.call.added?.map fun _ => step.before.size

/-- The schema that is written at a position. -/
def written? (id : SchemaId) (step : Step) : Option Schema :=
  match step.call with
  | .define other schema => if other = id then some schema else none
  | call => if step.before.size = id then call.added? else none

/-- The entry that is made in the table. -/
def entry? (step : Step) : Option (String × SchemaId) :=
  match step.call with
  | .declare name _ => some (name, step.before.size)
  | .reserve name _ => some (name, step.before.size)
  | _ => none

/-- The operation that is added. -/
def operation? (step : Step) : Option Operation :=
  match step.call with
  | .addOperation operation => some operation
  | _ => none

/-- All that a step does. The name that a schema had stays. -/
structure Lawful (step : Step) : Prop where
  present : ∀ id ∈ step.call.defined?, id < step.before.size
  written : ∀ id schema, step.written? id = some schema → step.after.schema? id =
    some { schema with name := (step.before.schema? id).bind Schema.name <|> schema.name }
  kept : ∀ id, step.written? id = none → step.after.schema? id = step.before.schema? id
  size : step.after.size = step.before.size + step.call.added?.toList.length
  table : step.after.table = step.before.table ++ step.entry?.toList
  operations : step.after.operations = step.before.operations ++ step.operation?.toList
  title : step.after.title = step.before.title
  version : step.after.version = step.before.version

end Step

variable {model after : Model} {call : BuildCall} {step : Step} {id : SchemaId} {schema : Schema}

/-! ## One call -/

theorem written?_of_added (added : step.call.added? = some schema) (id : SchemaId) :
    step.written? id = if step.before.size = id then some schema else none := by
  obtain ⟨before, call, after⟩ := step
  cases call with
  | define => contradiction
  | addOperation => contradiction
  | _ => simp_all [Step.written?]

/-- A step that adds a schema at the end, with an entry of the table or without one. -/
theorem lawful_of_added (added : step.call.added? = some schema)
    (grown : step.after = { step.before.add schema with table := step.before.table ++ step.entry?.toList }) :
    step.Lawful := by
  have written := written?_of_added added
  have plain : step.operation? = none := by
    obtain ⟨before, call, after⟩ := step
    cases call with
    | addOperation => contradiction
    | _ => rfl
  have nodes : step.after.schemas = step.before.schemas ++ [schema] := by rw [grown]; rfl
  constructor
  case present =>
    obtain ⟨before, call, after⟩ := step
    cases call with
    | define => contradiction
    | _ => simp [defined?]
  case written =>
    intro id schema' writes
    rw [written] at writes
    split at writes
    next last =>
      obtain rfl := Option.some.inj writes
      simp [Model.schema?, nodes, ← last, Model.size]
    next => contradiction
  case kept =>
    intro id writes
    rw [written] at writes
    split at writes
    next => contradiction
    next other =>
      unfold Model.size at other
      rw [Model.schema?, Model.schema?, nodes]
      rcases Nat.lt_or_gt_of_ne other with beyond | inside
      · rw [List.getElem?_eq_none (Nat.le_of_lt beyond), List.getElem?_eq_none]
        rw [List.length_append]
        exact beyond
      · exact List.getElem?_append_left inside
  case size => simp [Model.size, nodes, added]
  case table => rw [grown]
  case operations =>
    rw [grown, plain]
    simp [Model.add]
  case title => rw [grown]; rfl
  case version => rw [grown]; rfl

theorem lawful_of_perform (performed : call.perform model = some after) :
    (Step.mk model call after).Lawful := by
  cases call with
  | add schema =>
    obtain rfl := Option.some.inj performed
    refine lawful_of_added rfl ?_
    simp [Step.entry?, Model.add]
  | declare name schema =>
    obtain rfl := Option.some.inj performed
    exact lawful_of_added rfl rfl
  | reserve name path =>
    obtain rfl := Option.some.inj performed
    exact lawful_of_added rfl rfl
  | define id schema =>
    obtain ⟨old, found, made⟩ := Option.bind_eq_some_iff.1 performed
    obtain rfl := Option.some.inj made
    have bound := Model.lt_size_of_schema? found
    constructor
    case present => simpa [defined?] using bound
    case written =>
      intro other schema' writes
      obtain ⟨rfl, rfl⟩ : id = other ∧ schema = schema' := by simpa [Step.written?] using writes
      change (model.schemas.set id _)[id]? = _
      rw [List.getElem?_set_self bound, found]
      rfl
    case kept =>
      intro other writes
      have apart : id ≠ other := by simpa [Step.written?] using writes
      simp [Model.schema?, apart]
    case size => simp [Model.size, added?]
    case table => simp [Step.entry?]
    case operations => simp [Step.operation?]
    case title => rfl
    case version => rfl
  | addOperation operation =>
    obtain rfl := Option.some.inj performed
    constructor
    case present => simp [defined?]
    case written =>
      intro id schema writes
      simp [Step.written?, added?] at writes
    case kept => intro id _; rfl
    case size => simp [Model.size, added?, Model.addOperation]
    case table => simp [Step.entry?, Model.addOperation]
    case operations => rfl
    case title => rfl
    case version => rfl

theorem Step.Lawful.added (lawful : step.Lawful) (minted : step.minted? = some id) :
    step.after.schema? id = step.call.added? := by
  obtain ⟨schema, added, rfl⟩ := Option.map_eq_some_iff.1 minted
  have new : step.before.schema? step.before.size = none := List.getElem?_eq_none (Nat.le_refl _)
  rw [lawful.written _ schema (by rw [written?_of_added added, if_pos rfl]), new, added]
  rfl

/-- A name stays. -/
theorem Step.Lawful.named (lawful : step.Lawful) {name : String}
    (named : (step.before.schema? id).bind Schema.name = some name) :
    (step.after.schema? id).bind Schema.name = some name := by
  cases writes : step.written? id with
  | none => rwa [lawful.kept id writes]
  | some schema =>
    rw [lawful.written id schema writes, named]
    rfl

/-- An entry of the table is made with its schema. -/
theorem Step.Lawful.entry (lawful : step.Lawful) {name : String} (entry : step.entry? = some (name, id)) :
    id = step.before.size ∧ (step.after.schema? id).bind Schema.name = some name := by
  obtain ⟨schema, added, same, place⟩ : ∃ schema, step.call.added? = some schema ∧
      schema.name = some name ∧ step.before.size = id := by
    obtain ⟨before, call, after⟩ := step
    cases call <;> simp_all [Step.entry?, added?]
  have minted : step.minted? = some id := by rw [Step.minted?, added, ← place]; rfl
  refine ⟨place.symm, ?_⟩
  rw [lawful.added minted, added]
  exact same

/-! ## Runs of calls -/

/-- What was written at a position, one after the other. -/
def writings (id : SchemaId) (steps : List Step) : List Schema := steps.filterMap (Step.written? id)

/-- What writings come to: the last of them, under the first name. -/
def node? (writings : List Schema) : Option Schema :=
  writings.getLast?.map fun last => { last with name := writings.findSome? Schema.name }

/-- What a run of calls tells of the model that it leaves. -/
structure Accounts (steps : List Step) (model : Model) : Prop where
  node : ∀ id, model.schema? id = node? (writings id steps)
  minted : steps.filterMap Step.minted? = List.range model.size
  table : model.table = steps.filterMap Step.entry?
  operations : model.operations = steps.filterMap Step.operation?
  /-- A schema keeps the name that it has after any of the steps. -/
  permanent : ∀ step ∈ steps, ∀ id name, (step.after.schema? id).bind Schema.name = some name →
    (model.schema? id).bind Schema.name = some name
  named : ∀ name id, (name, id) ∈ model.table → (model.schema? id).bind Schema.name = some name
  increasing : (model.table.map Prod.snd).Pairwise (· < ·)

theorem node?_concat (before : List Schema) (schema : Schema) :
    node? (before ++ [schema]) =
      some { schema with name := (node? before).bind Schema.name <|> schema.name } := by
  unfold node?
  rw [List.getLast?_concat, List.findSome?_append]
  cases before using List.reverseRecOn with
  | nil => simp
  | append_singleton front last => simp

theorem filterMap_concat {α β : Type} (f : α → Option β) (xs : List α) (x : α) :
    (xs ++ [x]).filterMap f = xs.filterMap f ++ (f x).toList := by
  rw [List.filterMap_append]
  cases found : f x <;> simp [found]

theorem Accounts.empty (title version : String) : Accounts [] { title, version } := by
  constructor <;> simp [Model.schema?, Model.size, writings, node?]

/-- The model goes on from where the steps left it. -/
theorem Accounts.concat {steps : List Step} (accounts : Accounts steps step.before)
    (lawful : step.Lawful) : Accounts (steps ++ [step]) step.after := by
  constructor
  case node =>
    intro id
    unfold writings
    rw [filterMap_concat]
    cases writes : step.written? id with
    | none =>
      rw [lawful.kept id writes, accounts.node id]
      simp [writings]
    | some schema =>
      rw [lawful.written id schema writes, accounts.node id]
      exact (node?_concat ..).symm
  case minted =>
    rw [filterMap_concat, accounts.minted, lawful.size, Step.minted?]
    cases step.call.added? with
    | none => simp
    | some schema => simp [List.range_succ]
  case table => rw [filterMap_concat, lawful.table, accounts.table]
  case operations => rw [filterMap_concat, lawful.operations, accounts.operations]
  case permanent =>
    intro earlier mem id name named
    rcases List.mem_append.1 mem with mem | mem
    · exact lawful.named (accounts.permanent earlier mem id name named)
    · rwa [← List.mem_singleton.1 mem]
  case named =>
    intro name id mem
    rw [lawful.table] at mem
    rcases List.mem_append.1 mem with mem | mem
    · exact lawful.named (accounts.named name id mem)
    · exact (lawful.entry (Option.mem_toList.1 mem)).2
  case increasing =>
    rw [lawful.table, List.map_append]
    refine List.pairwise_append.2 ⟨accounts.increasing, ?_, ?_⟩
    · cases step.entry? <;> simp
    · intro earlier mem last new
      obtain ⟨⟨name, _⟩, old, rfl⟩ := List.mem_map.1 mem
      obtain ⟨⟨name', _⟩, made, rfl⟩ := List.mem_map.1 new
      obtain ⟨rfl, -⟩ := lawful.entry (Option.mem_toList.1 made)
      obtain ⟨schema, found, -⟩ := Option.bind_eq_some_iff.1 (accounts.named name _ old)
      exact Model.lt_size_of_schema? found

/-- Calls that fit are all performed, each step does what it should, and the run accounts for what it
leaves. -/
theorem Accounts.continued {front : List Step} (accounts : Accounts front model) (calls : List BuildCall)
    (fit : Fit model.size calls) : ∃ steps last, history model calls = some (steps, last) ∧
      steps.map (·.call) = calls ∧ (∀ step ∈ steps, step.Lawful) ∧ Accounts (front ++ steps) last := by
  induction calls generalizing model front with
  | nil => exact ⟨[], model, rfl, rfl, by simp, by simpa using accounts⟩
  | cons call calls ih =>
    obtain ⟨bound, rest⟩ := fit
    obtain ⟨after, performed⟩ : ∃ after, call.perform model = some after := by
      cases call with
      | define id schema =>
        obtain ⟨old, found⟩ := Model.exists_schema (bound id rfl)
        exact ⟨_, by simp [perform, Model.define, found]; rfl⟩
      | _ => exact ⟨_, rfl⟩
    have lawful := lawful_of_perform performed
    have further := accounts.concat lawful
    rw [← lawful.size] at rest
    obtain ⟨steps, last, run, asked, lawfuls, told⟩ := ih further rest
    refine ⟨⟨model, call, after⟩ :: steps, last, ?_, by simp [asked], ?_, by simpa using told⟩
    · simp [history, performed, run]
    · exact List.forall_mem_cons.2 ⟨lawful, lawfuls⟩

end BuildCall

/-! ## The finished model -/

namespace Model

/-- The index of a finished model: under each name, the first position that the table gives it. -/
def index (model : Model) : Std.HashMap String SchemaId :=
  model.table.foldl (fun index entry => index.insertIfNew entry.1 entry.2) ∅

theorem getElem?_foldl_insertIfNew (table : List (String × SchemaId)) (index : Std.HashMap String SchemaId)
    (name : String) : (table.foldl (fun index entry => index.insertIfNew entry.1 entry.2) index)[name]? =
      (index[name]? <|> table.lookup name) := by
  induction table generalizing index with
  | nil => simp
  | cons entry table ih =>
    obtain ⟨first, id⟩ := entry
    rw [List.foldl_cons, ih, Std.HashMap.getElem?_insertIfNew, List.lookup_cons]
    by_cases same : first = name
    · subst same
      cases known : index[first]? with
      | none => simp [← Std.HashMap.isSome_getElem?_iff_mem, known]
      | some id' => simp [← Std.HashMap.isSome_getElem?_iff_mem, known]
    · have differ : (name == first) = false := beq_eq_false_iff_ne.2 (Ne.symm same)
      simp [same, differ]

theorem getElem?_index (model : Model) (name : String) : model.index[name]? = model.lookup name := by
  rw [index, getElem?_foldl_insertIfNew]
  simp [lookup]

end Model

namespace BuildCall

/-- A schema is defined: its node changes and nothing else does. The node keeps the name that it had, and takes
the one of the schema if it had none. -/
structure Defines (before : Model) (id : SchemaId) (schema : Schema) (after : Model) : Prop where
  node : ∃ old, before.schema? id = some old ∧
    after.schema? id = some { schema with name := old.name <|> schema.name }
  others : ∀ other, other ≠ id → after.schema? other = before.schema? other
  size : after.size = before.size
  table : after.table = before.table
  operations : after.operations = before.operations
  title : after.title = before.title
  version : after.version = before.version

/-- What holds of a model that calls have built, and of the steps on the way. -/
structure Construction (calls : List BuildCall) (steps : List Step) (model : Model) : Prop where
  performed : steps.map (·.call) = calls
  /-- The positions that are handed out are those of the schemas, each once, in order. -/
  minted : steps.filterMap Step.minted? = List.range model.size
  placed : ∀ step ∈ steps, ∀ id, step.minted? = some id →
    step.after.schema? id = step.call.added? ∧ (step.after.schema? id).isSome
  valid : ∀ step ∈ steps, ∀ id, step.minted? = some id → (model.schema? id).isSome
  defined : ∀ step ∈ steps, ∀ id schema, step.call = .define id schema →
    Defines step.before id schema step.after
  /-- A schema keeps the name that it has after any of the steps. -/
  permanent : ∀ step ∈ steps, ∀ id name, (step.after.schema? id).bind Schema.name = some name →
    (model.schema? id).bind Schema.name = some name
  /-- A schema is what was last written at its position, under the first name that was written there. -/
  node : ∀ id, model.schema? id = (writings id steps).getLast?.map fun last =>
    { last with name := (writings id steps).findSome? Schema.name }
  operations : model.operations = steps.filterMap Step.operation?
  table : model.table = steps.filterMap Step.entry?
  named : ∀ name id, (name, id) ∈ model.table →
    ∃ node, model.schema? id = some node ∧ node.name = some name
  increasing : (model.table.map Prod.snd).Pairwise (· < ·)
  /-- The index finds the first entry of a name. -/
  found : ∀ name id, model.index[name]? = some id ↔
    ∃ front back, model.table = front ++ (name, id) :: back ∧ ∀ entry ∈ front, entry.1 ≠ name
  absent : ∀ name, model.index[name]? = none ↔ ∀ entry ∈ model.table, entry.1 ≠ name
  lookup : ∀ name, model.lookup name = model.index[name]?

variable {step : Step} {id : SchemaId} {schema : Schema}

theorem Step.Lawful.defines (lawful : step.Lawful) (call : step.call = .define id schema) :
    Defines step.before id schema step.after := by
  have writes : ∀ other, step.written? other = if id = other then some schema else none := by
    intro other
    rw [Step.written?, call]
  obtain ⟨old, found⟩ := Model.exists_schema (lawful.present id (by rw [call]; rfl))
  constructor
  case node =>
    refine ⟨old, found, ?_⟩
    rw [lawful.written id schema (by rw [writes, if_pos rfl]), found]
    rfl
  case others =>
    intro other apart
    exact lawful.kept other (by rw [writes, if_neg (Ne.symm apart)])
  case size => simpa [call, added?] using lawful.size
  case table => simpa [Step.entry?, call] using lawful.table
  case operations => simpa [Step.operation?, call] using lawful.operations
  case title => exact lawful.title
  case version => exact lawful.version

/-- **Models are built as they are called for.** Calls that define positions of the model only are all
performed, and what they build holds what was written last under the names that were given first. -/
theorem construction_of_calls (title version : String) (calls : List BuildCall) (fit : Fit 0 calls) :
    ∃ steps model, history { title, version } calls = some (steps, model) ∧
      Construction calls steps model := by
  obtain ⟨steps, model, run, asked, lawful, accounts⟩ :=
    (Accounts.empty title version).continued calls fit
  rw [List.nil_append] at accounts
  have valid : ∀ step ∈ steps, ∀ id, step.minted? = some id → (model.schema? id).isSome := by
    intro step mem id minted
    have place : id ∈ List.range model.size := by
      rw [← accounts.minted]
      exact List.mem_filterMap.2 ⟨step, mem, minted⟩
    obtain ⟨schema, found⟩ := Model.exists_schema (List.mem_range.1 place)
    rw [found]
    rfl
  refine ⟨steps, model, run, ?_⟩
  constructor
  case performed => exact asked
  case minted => exact accounts.minted
  case placed =>
    intro step mem id minted
    have placed := (lawful step mem).added minted
    refine ⟨placed, ?_⟩
    obtain ⟨schema, added, -⟩ := Option.map_eq_some_iff.1 minted
    rw [placed, added]
    rfl
  case valid => exact valid
  case defined => exact fun step mem id schema call => (lawful step mem).defines call
  case permanent => exact accounts.permanent
  case node => exact accounts.node
  case operations => exact accounts.operations
  case table => exact accounts.table
  case named => exact fun name id mem => Option.bind_eq_some_iff.1 (accounts.named name id mem)
  case increasing => exact accounts.increasing
  case found =>
    intro name id
    rw [Model.getElem?_index, Model.lookup, List.lookup_eq_some_iff]
    simp only [bne_iff_ne, ne_comm]
  case absent =>
    intro name
    rw [Model.getElem?_index, Model.lookup, List.lookup_eq_none_iff]
    simp only [bne_iff_ne, ne_comm]
  case lookup => exact fun name => (model.getElem?_index name).symm

/-- A schema that is reserved and holds itself through a list, the list without a name at first, and another
schema of the same name. -/
def nodeCalls : List BuildCall :=
  [.reserve "Node" "/schemas/Node",
    .add { kind := .array, path := "/schemas/Node/properties/next", items := some 0 },
    .define 0 { kind := .object, path := "/schemas/Node", name := some "Knot", properties := [⟨"next", 1⟩] },
    .declare "Node" { kind := .boolean, path := "/schemas/Node" },
    .define 1 { kind := .array, path := "/schemas/Next", name := some "Next", items := some 0 },
    .define 1 { kind := .map, path := "/schemas/Next", name := some "Later", items := some 2 }]

theorem construction_of_nodeCalls : Fit 0 nodeCalls ∧
    ∃ steps model, history { title := "Nodes", version := "1" } nodeCalls = some (steps, model) ∧
      Construction nodeCalls steps model ∧
      model.schemas.map (·.name) = [some "Node", some "Next", some "Node"] := by
  have fit : Fit 0 nodeCalls := by decide
  obtain ⟨steps, model, run, built⟩ := construction_of_calls "Nodes" "1" nodeCalls fit
  have names : (history { title := "Nodes", version := "1" } nodeCalls).map
      (fun built => built.2.schemas.map (·.name)) = some [some "Node", some "Next", some "Node"] := rfl
  rw [run] at names
  exact ⟨fit, steps, model, run, built, Option.some.inj names⟩

end BuildCall
end CmdletForge
