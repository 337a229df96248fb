import CmdletForge.Proofs.Namespace.Basic
import Mathlib.Data.List.Nodup

/-!
# Namespaces with an index

A namespace finds its definitions by looking through them. Here it keeps an index of their positions by name
beside them, and a call changes the two in place, so that what is changed before a failure stays changed.
`Exact` says that the index has the positions of the names and nothing else. As long as it has, every call
does one of the things that `Taken` lists, and the namespace without an index does the same.
-/

namespace CmdletForge.Namespace

variable {δ : Type}

/-- A namespace with an index of the positions of its definitions by name. -/
structure Indexed (δ : Type) where
  space : Namespace δ
  index : List (String × Nat) := []

/-- Steps that change an indexed namespace. -/
abbrev Changing (δ : Type) := ExceptT Failure (StateM (Indexed δ))

namespace Indexed

/-! ## Calls -/

/-- The definition at the position that the index has for a name. -/
def get? (now : Indexed δ) (name : String) : Option δ :=
  (now.index.lookup name).bind fun i => now.space.definitions[i]?

/-- The index has the name. -/
def contains (now : Indexed δ) (name : String) : Bool := (now.index.lookup name).isSome

/-- The namespace in a phase. -/
def enter (now : Indexed δ) (phase : Phase) : Indexed δ :=
  { now with space := { now.space with phase } }

/-- The definition at a position, changed. -/
def alter (now : Indexed δ) (i : Nat) (edit : δ → δ) : Indexed δ :=
  { now with space := { now.space with definitions := now.space.definitions.modify i edit } }

variable [Named δ]

/-- One more definition, with its position in the index. -/
def add (now : Indexed δ) (definition : δ) : Indexed δ where
  space := now.space.extend definition
  index := (Named.name definition, now.space.definitions.length) :: now.index

/-- A call that changes a namespace. -/
inductive Call (δ : Type) where
  | start
  | insert (definition : δ)
  | change (name : String) (edit : δ → δ)
  | finish

namespace Call

/-- Makes a call. The answer is whether there was something to change. -/
def perform : Call δ → Changing δ Bool
  | start => do
    let now ← get
    if now.space.phase = .constructed then
      set (now.enter .initializing)
      return true
    else throw now.space.wrongPhase
  | insert definition => do
    let now ← get
    if now.space.phase = .initializing then
      if now.contains (Named.name definition) then
        throw (.duplicateDefinition now.space.fullName (Named.name definition))
      else
        set (now.add definition)
        return true
    else throw now.space.wrongPhase
  | change name edit => do
    let now ← get
    if now.space.phase = .initializing then
      match now.index.lookup name with
      | none => return false
      | some i =>
        set (now.alter i edit)
        return true
    else throw now.space.wrongPhase
  | finish => do
    let now ← get
    if now.space.phase = .finalized then throw now.space.wrongPhase
    else
      set (now.enter .finalized)
      return true

/-- The same call of a namespace without an index. -/
def ask : Call δ → Namespace δ → Except Failure (Option (Namespace δ))
  | start, space => space.begin.map some
  | insert definition, space => (space.insert definition).map some
  | change name edit, space => space.update name edit
  | finish, space => space.finalize.map some

/-- A change leaves the name of a definition as it is. -/
def Keeps : Call δ → Prop
  | change name edit => ∀ definition : δ, Named.name definition = name →
      Named.name (edit definition) = name
  | _ => True

/-- When a call succeeds. -/
def Allowed (space : Namespace δ) : Call δ → Prop
  | start => space.phase = .constructed
  | insert definition => space.phase = .initializing ∧ Named.name definition ∉ space.names
  | change _ _ => space.phase = .initializing
  | finish => space.phase ≠ .finalized

end Call

/-! ## The index -/

/-- The index has the positions of the names, and nothing else. -/
def Exact (now : Indexed δ) : Prop :=
  ∀ (name : String) (i : Nat), now.index.lookup name = some i ↔ now.space.names[i]? = some name

variable {now : Indexed δ} {name : String} {i : Nat}

theorem Exact.nodup (exact : now.Exact) : now.space.names.Nodup := by
  refine List.nodup_iff_getElem?_ne_getElem?.2 fun i j before bound same => ?_
  obtain ⟨name, here⟩ : ∃ name, now.space.names[j]? = some name := ⟨_, List.getElem?_eq_getElem bound⟩
  have first := (exact name i).2 (same.trans here)
  rw [(exact name j).2 here] at first
  have := Option.some.inj first
  omega

theorem Exact.mem_iff (exact : now.Exact) : now.contains name = true ↔ name ∈ now.space.names := by
  rw [contains, Option.isSome_iff_exists, List.mem_iff_getElem?]
  exact exists_congr fun i => exact name i

theorem Exact.index_eq_none (exact : now.Exact) :
    now.index.lookup name = none ↔ name ∉ now.space.names := by
  rw [← exact.mem_iff, contains, Option.not_isSome_iff_eq_none]

/-- A definition stands where the index says. -/
theorem Exact.exists_definition (exact : now.Exact) (indexed : now.index.lookup name = some i) :
    ∃ definition, now.space.definitions[i]? = some definition ∧ Named.name definition = name := by
  have here := (exact name i).1 indexed
  rw [names, List.getElem?_map] at here
  exact Option.map_eq_some_iff.1 here

/-- The index finds what a search finds. -/
theorem Exact.get?_eq (exact : now.Exact) (name : String) : now.get? name = now.space.get? name := by
  unfold get? Namespace.get?
  cases indexed : now.index.lookup name with
  | none =>
    have absent := exact.index_eq_none.1 indexed
    rw [Option.bind_none, eq_comm, List.find?_eq_none]
    intro definition mem same
    exact absent (List.mem_map.2 ⟨definition, mem, by simpa using same⟩)
  | some i =>
    obtain ⟨definition, here, rfl⟩ := exact.exists_definition indexed
    rw [Option.bind_some, here]
    cases found : now.space.definitions.find? (Named.name · = Named.name definition) with
    | none =>
      have never := List.find?_eq_none.1 found definition (List.mem_of_getElem? here)
      simp at never
    | some other =>
      have same : Named.name other = Named.name definition := by simpa using List.find?_some found
      have distinct : (now.space.definitions.map Named.name).Nodup := exact.nodup
      rw [List.inj_on_of_nodup_map distinct (List.mem_of_getElem? here)
        (List.mem_of_find?_eq_some found) same.symm]

/-! ## What a call does -/

theorem Exact.empty (fullName : String) : ({ space := { fullName } } : Indexed δ).Exact := by
  intro name i
  simp [names]

theorem names_alter (found : now.space.names[i]? = some name) {edit : δ → δ}
    (keeps : (Call.change name edit).Keeps) : (now.alter i edit).space.names = now.space.names := by
  rw [names, List.getElem?_map] at found
  obtain ⟨definition, here, rfl⟩ := Option.map_eq_some_iff.1 found
  refine List.ext_getElem? fun j => ?_
  simp only [names, alter, List.getElem?_map, List.getElem?_modify]
  by_cases same : i = j
  · subst same
    simp [here, keeps definition rfl]
  · simp [same]

theorem Exact.enter (exact : now.Exact) (phase : Phase) : (now.enter phase).Exact := exact

theorem Exact.add (exact : now.Exact) {definition : δ} (fresh : Named.name definition ∉ now.space.names) :
    (now.add definition).Exact := by
  have length : now.space.definitions.length = now.space.names.length := by simp [names]
  have beyond : now.space.names[now.space.names.length]? = none := List.getElem?_eq_none (Nat.le_refl _)
  intro name i
  have entry : (now.add definition).index.lookup name =
      if Named.name definition = name then some now.space.names.length else now.index.lookup name := by
    rw [Indexed.add, List.lookup_cons, length]
    by_cases same : name = Named.name definition
    · simp [same]
    · rw [beq_eq_false_iff_ne.2 same, if_neg (Ne.symm same)]
  have grown : (now.add definition).space.names[i]? =
      if i = now.space.names.length then some (Named.name definition) else now.space.names[i]? := by
    rw [Indexed.add, names_extend]
    split
    next last => rw [last, List.getElem?_concat_length]
    next other =>
      rcases Nat.lt_or_gt_of_ne other with before | after
      · exact List.getElem?_append_left before
      · rw [List.getElem?_eq_none (by simp; omega), List.getElem?_eq_none (by omega)]
  rw [entry, grown]
  by_cases same : Named.name definition = name
  · subst same
    rw [if_pos rfl]
    split
    next last => simp [last]
    next other =>
      exact iff_of_false (by simpa using Ne.symm other) fun here => fresh (List.mem_of_getElem? here)
  · rw [if_neg same]
    split
    next last =>
      refine iff_of_false (fun indexed => ?_) (by simpa using same)
      rw [exact, last, beyond] at indexed
      contradiction
    next => exact exact name i

theorem Exact.alter (exact : now.Exact) (found : now.space.names[i]? = some name) {edit : δ → δ}
    (keeps : (Call.change name edit).Keeps) : (now.alter i edit).Exact := by
  intro other j
  rw [names_alter found keeps]
  exact exact other j

/-- What a call does: how it answers, and the namespace after it. -/
inductive Taken (now : Indexed δ) : Call δ → Except Failure Bool → Indexed δ → Prop
  | refused {call : Call δ} {failure : Failure} (barred : ¬ call.Allowed now.space)
      (asked : call.ask now.space = .error failure) : Taken now call (.error failure) now
  | started (new : now.space.phase = .constructed) : Taken now .start (.ok true) (now.enter .initializing)
  | added {definition : δ} (opened : now.space.phase = .initializing)
      (fresh : Named.name definition ∉ now.space.names) :
      Taken now (.insert definition) (.ok true) (now.add definition)
  | absent {name : String} {edit : δ → δ} (opened : now.space.phase = .initializing)
      (absent : name ∉ now.space.names) : Taken now (.change name edit) (.ok false) now
  | changed {name : String} {edit : δ → δ} {i : Nat} (opened : now.space.phase = .initializing)
      (found : now.space.names[i]? = some name) :
      Taken now (.change name edit) (.ok true) (now.alter i edit)
  | finished (unsealed : now.space.phase ≠ .finalized) :
      Taken now .finish (.ok true) (now.enter .finalized)

omit [Named δ] in
theorem run_get {α : Type} (next : Indexed δ → Changing δ α) (now : Indexed δ) :
    (MonadState.get >>= next : Changing δ α).run.run now = (next now).run.run now := rfl

/-- **One call.** -/
theorem Exact.taken (exact : now.Exact) (call : Call δ) :
    Taken now call (call.perform.run.run now).1 (call.perform.run.run now).2 := by
  cases call with
  | start =>
    rw [Call.perform, run_get]
    by_cases new : now.space.phase = .constructed
    · rw [if_pos new]
      exact .started new
    · rw [if_neg new]
      exact .refused new (by simp [Call.ask, begin, new, Except.map])
  | insert definition =>
    rw [Call.perform, run_get]
    by_cases opened : now.space.phase = .initializing
    · rw [if_pos opened]
      by_cases taken : Named.name definition ∈ now.space.names
      · rw [if_pos (exact.mem_iff.2 taken)]
        refine .refused (fun allowed => allowed.2 taken) ?_
        rw [Call.ask, insert_of_taken opened taken]
        rfl
      · rw [if_neg (mt exact.mem_iff.1 taken)]
        exact .added opened taken
    · rw [if_neg opened]
      exact .refused (fun allowed => opened allowed.1) (by simp [Call.ask, insert, opened, Except.map])
  | change name edit =>
    rw [Call.perform, run_get]
    by_cases opened : now.space.phase = .initializing
    · rw [if_pos opened]
      cases indexed : now.index.lookup name with
      | none => exact .absent opened (exact.index_eq_none.1 indexed)
      | some i => exact .changed opened ((exact name i).1 indexed)
    · rw [if_neg opened]
      exact .refused opened (by simp [Call.ask, update, opened])
  | finish =>
    rw [Call.perform, run_get]
    by_cases finalized : now.space.phase = .finalized
    · rw [if_pos finalized]
      exact .refused (not_not.2 finalized) (by simp [Call.ask, finalize, finalized, Except.map])
    · rw [if_neg finalized]
      exact .finished finalized

end Indexed
end CmdletForge.Namespace
