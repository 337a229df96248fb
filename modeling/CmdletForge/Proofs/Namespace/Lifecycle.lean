import CmdletForge.Namespace.Support
import CmdletForge.Proofs.Namespace.Indexed

/-!
# The life of a namespace

Any calls, one after the other, on a new namespace. Each one answers as the same call of a namespace without
an index, and a call that fails leaves everything as it was. The index stays exact, so a name is found
where it was added, with what was last written under it. Once the namespace is finalized, nothing changes it.
-/

namespace CmdletForge

/-- How far along a phase is. -/
def Phase.rank : Phase → Nat
  | .constructed => 0
  | .initializing => 1
  | .finalized => 2

namespace Namespace.Indexed

variable {δ : Type} [Named δ]

/-- A call that was made: the namespace before it, the answer, and the namespace after it. -/
structure Step (δ : Type) where
  before : Indexed δ
  call : Call δ
  answer : Except Failure Bool
  after : Indexed δ

/-- The step of a call. -/
def step (now : Indexed δ) (call : Call δ) : Step δ where
  before := now
  call := call
  answer := (call.perform.run.run now).1
  after := (call.perform.run.run now).2

/-- Calls made one after the other, each on what the one before it left. -/
def history (now : Indexed δ) : List (Call δ) → List (Step δ)
  | [] => []
  | call :: calls => now.step call :: history (now.step call).after calls

/-- What calls leave. -/
def performAll (now : Indexed δ) : List (Call δ) → Indexed δ
  | [] => now
  | call :: calls => performAll (now.step call).after calls

namespace Step

/-- The name that a step adds. -/
def inserted : Step δ → Option String
  | { call := .insert definition, answer := .ok _, .. } => some (Named.name definition)
  | _ => none

/-- What stands under a name once a step is made, from what stood there before it. -/
def write (name : String) (last : Option δ) : Step δ → Option δ
  | { call := .insert definition, answer := .ok _, .. } =>
    if Named.name definition = name then some definition else last
  | { call := .change other edit, answer := .ok _, .. } => if other = name then last.map edit else last
  | _ => last

/-- What holds of each step. -/
structure Lawful (step : Step δ) : Prop where
  forward : step.before.space.phase.rank ≤ step.after.space.phase.rank
  exact : step.before.Exact ∧ step.after.Exact
  granted : step.answer.isOk = true ↔ step.call.Allowed step.before.space
  refused : ∀ failure, step.answer = .error failure → step.after = step.before
  /-- A namespace without an index does the same. -/
  asked : step.call.ask step.before.space =
    step.answer.map fun found => if found then some step.after.space else none
  settled : step.before.space.phase = .finalized → step.after = step.before

end Step

/-- What holds of a namespace after its steps. -/
structure Lifecycle (steps : List (Step δ)) (final : Indexed δ) : Prop where
  lawful : ∀ step ∈ steps, step.Lawful
  exact : final.Exact
  distinct : final.space.names.Nodup
  found : ∀ name, final.get? name = final.space.get? name
  contained : ∀ name, final.contains name = true ↔ name ∈ final.space.names
  /-- The definitions stand in the order in which they were added. -/
  order : final.space.names = steps.filterMap Step.inserted
  /-- What is found under a name is what was last written there. -/
  last : ∀ name, final.get? name = steps.foldl (Step.write name) none
  settled : ∀ step ∈ steps, step.call = .finish → step.answer.isOk = true →
    step.after.space.phase = .finalized ∧ final = step.after

/-! ## One step -/

variable {now after : Indexed δ} {call : Call δ} {answer : Except Failure Bool} {name : String} {i : Nat}

theorem get?_add (exact : now.Exact) (definition : δ) :
    (now.add definition).get? name =
      if Named.name definition = name then some definition else now.get? name := by
  rw [get?, get?, add, List.lookup_cons, extend]
  by_cases same : name = Named.name definition
  · simp [same]
  · rw [beq_eq_false_iff_ne.2 same, if_neg (Ne.symm same)]
    cases indexed : now.index.lookup name with
    | none => rfl
    | some j =>
      obtain ⟨other, here, -⟩ := exact.exists_definition indexed
      exact List.getElem?_append_left (List.getElem?_eq_some_iff.1 here).1

theorem get?_alter (exact : now.Exact) (found : now.space.names[i]? = some name) (edit : δ → δ)
    (other : String) :
    (now.alter i edit).get? other =
      if name = other then (now.get? other).map edit else now.get? other := by
  simp only [get?, alter]
  cases indexed : now.index.lookup other with
  | none => simp
  | some j =>
    rw [Option.bind_some, Option.bind_some, List.getElem?_modify]
    have there := (exact other j).1 indexed
    by_cases same : name = other
    · have first := (exact other i).2 (same ▸ found)
      rw [indexed] at first
      rw [if_pos same]
      simp [Option.some.inj first]
    · have apart : i ≠ j := by
        rintro rfl
        rw [found] at there
        exact same (Option.some.inj there)
      rw [if_neg same]
      simp [apart]

/-- The position of a name is where a search changes a definition. -/
theorem changeFirst_eq_modify (exact : now.Exact) (found : now.space.names[i]? = some name)
    (edit : δ → δ) :
    changeFirst name edit now.space.definitions = now.space.definitions.modify i edit := by
  rw [changeFirst_eq_map exact.nodup]
  refine List.ext_getElem? fun j => ?_
  rw [List.getElem?_map, List.getElem?_modify]
  cases here : now.space.definitions[j]? with
  | none => simp
  | some definition =>
    have named : now.space.names[j]? = some (Named.name definition) := by simp [names, here]
    have same : Named.name definition = name ↔ i = j := by
      constructor
      · rintro rfl
        have first := (exact _ i).2 found
        rw [(exact _ j).2 named] at first
        exact (Option.some.inj first).symm
      · rintro rfl
        rw [named] at found
        exact Option.some.inj found
    simp only [Option.map_some, same]
    split <;> rfl

theorem Taken.exact (taken : Taken now call answer after) (exact : now.Exact) (keeps : call.Keeps) :
    after.Exact := by
  cases taken with
  | refused => exact exact
  | started => exact exact.enter _
  | added _ fresh => exact exact.add fresh
  | absent => exact exact
  | changed _ found => exact exact.alter found keeps
  | finished => exact exact.enter _

theorem Taken.lawful (taken : Taken now call answer after) (exact : now.Exact) (keeps : call.Keeps) :
    Step.Lawful { before := now, call, answer, after } := by
  refine ⟨?_, ⟨exact, taken.exact exact keeps⟩, ?_, ?_, ?_, ?_⟩
  · cases taken with
    | started new => simp [new, enter, Phase.rank]
    | finished =>
      dsimp [enter]
      cases now.space.phase <;> simp [Phase.rank]
    | _ => exact Nat.le_refl _
  · cases taken with
    | refused barred => exact iff_of_false (by simp [Except.isOk, Except.toBool]) barred
    | started new => exact iff_of_true rfl new
    | added opened fresh => exact iff_of_true rfl ⟨opened, fresh⟩
    | absent opened => exact iff_of_true rfl opened
    | changed opened => exact iff_of_true rfl opened
    | finished unsealed => exact iff_of_true rfl unsealed
  · rintro failure rfl
    cases taken
    rfl
  · cases taken with
    | refused _ asked => exact asked
    | started new => simp [Call.ask, begin, new, enter, Except.map]
    | added opened fresh =>
      simp only [Call.ask]
      rw [insert_of_fresh opened fresh]
      rfl
    | absent opened absent =>
      rw [← contains_iff, Bool.not_eq_true] at absent
      simp [Call.ask, update, opened, absent, Except.map]
    | changed opened found =>
      have contained := contains_iff.2 (List.mem_of_getElem? found)
      simp [Call.ask, update, contained, changeFirst_eq_modify exact found, alter, opened, Except.map]
    | finished unsealed => simp [Call.ask, finalize, unsealed, enter, Except.map]
  · intro finalized
    cases taken <;> simp_all

theorem Taken.finalized (taken : Taken now .finish answer after) (ok : answer.isOk = true) :
    after.space.phase = .finalized := by
  cases taken with
  | refused => contradiction
  | finished => rfl

/-- One step adds the name that it adds, at the end. -/
theorem Taken.names_eq (taken : Taken now call answer after) (keeps : call.Keeps) :
    after.space.names =
      now.space.names ++ (Step.inserted { before := now, call, answer, after }).toList := by
  cases taken with
  | refused => simp [Step.inserted]
  | started => simp [Step.inserted, enter, names]
  | added => exact names_extend _
  | absent => simp [Step.inserted]
  | changed _ found => simp [Step.inserted, names_alter found keeps]
  | finished => simp [Step.inserted, enter, names]

theorem Taken.get?_eq (taken : Taken now call answer after) (exact : now.Exact) (name : String) :
    after.get? name = Step.write name (now.get? name) { before := now, call, answer, after } := by
  cases taken with
  | refused => simp [Step.write]
  | started => rfl
  | added => exact get?_add exact _
  | @absent other edit _ absent =>
    have none : now.get? other = none := by rw [get?, exact.index_eq_none.2 absent, Option.bind_none]
    simp only [Step.write]
    split
    next same => rw [← same, none, Option.map_none]
    next => rfl
  | changed _ found => exact get?_alter exact found _ name
  | finished => rfl

/-! ## All steps -/

/-- Nothing changes a finalized namespace. -/
theorem Exact.performAll_finalized (exact : now.Exact) (finalized : now.space.phase = .finalized)
    {calls : List (Call δ)} (keeps : ∀ call ∈ calls, call.Keeps) : now.performAll calls = now := by
  induction calls with
  | nil => rfl
  | cons call calls ih =>
    obtain ⟨keep, keeps⟩ := List.forall_mem_cons.1 keeps
    have same : (now.step call).after = now := ((exact.taken call).lawful exact keep).settled finalized
    rw [performAll, same, ih keeps]

/-- What holds of the steps that calls make on any namespace with an exact index. -/
structure Continued (now : Indexed δ) (steps : List (Step δ)) (final : Indexed δ) : Prop where
  lawful : ∀ step ∈ steps, step.Lawful
  exact : final.Exact
  order : final.space.names = now.space.names ++ steps.filterMap Step.inserted
  last : ∀ name, final.get? name = steps.foldl (Step.write name) (now.get? name)
  settled : ∀ step ∈ steps, step.call = .finish → step.answer.isOk = true →
    step.after.space.phase = .finalized ∧ final = step.after

theorem Exact.continued (exact : now.Exact) {calls : List (Call δ)} (keeps : ∀ call ∈ calls, call.Keeps) :
    Continued now (now.history calls) (now.performAll calls) := by
  induction calls generalizing now with
  | nil => exact ⟨by simp [history], exact, by simp [history, performAll], fun _ => rfl, by simp [history]⟩
  | cons call calls ih =>
    obtain ⟨keep, keeps⟩ := List.forall_mem_cons.1 keeps
    have taken : Taken now call (now.step call).answer (now.step call).after := exact.taken call
    have later := taken.exact exact keep
    have rest := ih later keeps
    rw [history, performAll]
    refine ⟨?_, rest.exact, ?_, fun name => ?_, ?_⟩
    · exact List.forall_mem_cons.2 ⟨taken.lawful exact keep, rest.lawful⟩
    · have grown : (now.step call).after.space.names =
          now.space.names ++ (now.step call).inserted.toList := taken.names_eq keep
      rw [rest.order, grown, List.append_assoc, List.filterMap_cons]
      cases (now.step call).inserted <;> rfl
    · rw [rest.last name, taken.get?_eq exact name, List.foldl_cons]
      rfl
    · refine List.forall_mem_cons.2 ⟨?_, rest.settled⟩
      intro finish ok
      have finalized : (now.step call).after.space.phase = .finalized := by
        cases (finish : call = .finish)
        exact taken.finalized ok
      exact ⟨finalized, later.performAll_finalized finalized keeps⟩

/-- **The life of a namespace.** Whatever calls are made on a new namespace, as long as no change gives
a definition another name. -/
theorem lifecycle_of_calls (fullName : String) (calls : List (Call δ)) (keeps : ∀ call ∈ calls, call.Keeps) :
    Lifecycle (history { space := { fullName } } calls) (performAll { space := { fullName } } calls) := by
  have run := (Exact.empty (δ := δ) fullName).continued keeps
  refine ⟨run.lawful, run.exact, run.exact.nodup, run.exact.get?_eq, fun _ => run.exact.mem_iff, ?_, ?_,
    run.settled⟩
  · simpa [names] using run.order
  · intro name
    simpa [get?] using run.last name

/-- A runtime type added too early, twice, changed, and added again too late. -/
theorem lifecycle_of_switchParameter :
    let switch : SupportDefinition := ⟨"SwitchParameter", "Api.Support.SwitchParameter", "class", "bool"⟩
    let calls : List (Call SupportDefinition) :=
      [.insert switch, .start, .start, .insert switch, .insert switch,
        .change "SwitchParameter" fun type => { type with declaration := "struct" },
        .change "Stream" fun type => { type with replaces := "byte[]" },
        .finish, .finish, .insert switch]
    (∀ call ∈ calls, call.Keeps) ∧
      ((history { space := { fullName := "Api.Support" } } calls).map fun step => step.answer.toOption) =
        [none, some true, none, some true, none, some true, some false, some true, none, none] ∧
      Lifecycle (history { space := { fullName := "Api.Support" } } calls)
        (performAll { space := { fullName := "Api.Support" } } calls) := by
  intro switch calls
  have keeps : ∀ call ∈ calls, call.Keeps := by simp [calls, Call.Keeps, Named.name]
  exact ⟨keeps, by decide, lifecycle_of_calls _ _ keeps⟩

end Namespace.Indexed
end CmdletForge
