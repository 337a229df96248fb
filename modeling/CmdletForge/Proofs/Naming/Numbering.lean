import CmdletForge.Proofs.Naming.Unique
import Mathlib.Data.Finset.Card
import Mathlib.Order.Bounds.Defs

/-!
# Names numbered by counting

`uniqueName` looks for a number among as many as there are taken names. Whoever counts up from 1 until a name is
free has no such bound in sight, and the counter may have a greatest number. `countedName?` counts in this way and
has no result if the counter would have to go on above its limit. A counter with room for more numbers than there
are different taken names always comes to an end, at the name that `uniqueName` finds: a counter of 32 bits with a
sign, which has the limit 2³¹ - 1, does so beside any fewer names than that.
-/

namespace CmdletForge.Naming

/-! ## Counting -/

/-- Counts on from a number to the first that makes a free name. The counter is one number ahead of the one that
is tried, and holds none above the limit. -/
def countFrom? (limit : Nat) (taken : List String) (candidate : String) (n : Nat) : Option String :=
  if n < limit then
    if numbered candidate n ∈ taken then countFrom? limit taken candidate (n + 1)
    else some (numbered candidate n)
  else none
termination_by limit - n

/-- The candidate if it is free, else what counting from 1 comes to. -/
def countedName? (limit : Nat) (taken : List String) (candidate : String) : Option String :=
  if candidate ∈ taken then countFrom? limit taken candidate 1 else some candidate

/-- Counted names for the candidates in order, each one taken from then on. -/
def countedNames? (limit : Nat) (taken : List String) : List String → Option (List String)
  | [] => some []
  | candidate :: rest => do
    let name ← countedName? limit taken candidate
    let names ← countedNames? limit (name :: taken) rest
    return name :: names

/-- The numbers from a given one on that make a free name. -/
def freeFrom (taken : List String) (candidate : String) (start : Nat) : Set Nat :=
  {n | start ≤ n ∧ numbered candidate n ∉ taken}

section Counting

variable {limit start n : Nat} {taken candidates : List String} {candidate : String}

/-- A taken number is passed over. -/
theorem countFrom?_of_taken (room : n < limit) (used : numbered candidate n ∈ taken) :
    countFrom? limit taken candidate n = countFrom? limit taken candidate (n + 1) := by
  rw [countFrom?, if_pos room, if_pos used]

/-- A free number ends the count. -/
theorem countFrom?_of_free (room : n < limit) (free : numbered candidate n ∉ taken) :
    countFrom? limit taken candidate n = some (numbered candidate n) := by
  rw [countFrom?, if_pos room, if_neg free]

/-- The count comes to the least number that is free, if the counter has room for it. -/
theorem countFrom?_of_isLeast (least : IsLeast (freeFrom taken candidate start) n) (room : n < limit) :
    countFrom? limit taken candidate start = some (numbered candidate n) := by
  obtain ⟨⟨reached, free⟩, below⟩ := least
  obtain ⟨steps, rfl⟩ := Nat.exists_eq_add_of_le reached
  induction steps generalizing start with
  | zero => exact countFrom?_of_free room free
  | succ steps ih =>
    have used : numbered candidate start ∈ taken := by
      by_contra other
      have bound := below ⟨Nat.le_refl start, other⟩
      omega
    have next : start + (steps + 1) = start + 1 + steps := by omega
    rw [next] at room below free
    rw [countFrom?_of_taken (by omega) used, next]
    refine ih room (fun m its => below ⟨Nat.le_of_succ_le its.1, its.2⟩) (Nat.le_add_right _ _) free

/-- A taken name gets the least number that is free, and this is not above the number of different names. -/
theorem exists_isLeast (used : candidate ∈ taken) : ∃ n ≤ taken.toFinset.card,
    IsLeast (freeFrom taken candidate 1) n ∧ uniqueName taken candidate = numbered candidate n := by
  have spec := uniqueName_spec taken candidate
  generalize uniqueName taken candidate = name at spec ⊢
  cases spec with
  | same free => exact absurd used free
  | numbered n used bound free least =>
    refine ⟨n + 1, ?_, ⟨⟨Nat.le_add_left 1 n, free⟩, ?_⟩, rfl⟩
    · -- Repetitions among the taken names do not count.
      obtain ⟨k, few, other⟩ := exists_free (List.mem_dedup.2 used)
      rw [List.mem_dedup] at other
      rw [List.card_toFinset]
      by_contra more
      exact other (least k (by omega))
    · rintro m ⟨positive, other⟩
      by_contra less
      have lower := least (m - 1) (by omega)
      rw [Nat.sub_add_cancel positive] at lower
      exact other lower

/-- A counter with room for more numbers than there are taken names comes to the unique name. -/
theorem countedName?_eq (room : taken.toFinset.card < limit) :
    countedName? limit taken candidate = some (uniqueName taken candidate) := by
  unfold countedName?
  split
  next used =>
    obtain ⟨n, bound, least, same⟩ := exists_isLeast used
    rw [same]
    exact countFrom?_of_isLeast least (by omega)
  next free => rw [uniqueName, if_neg free]

/-- Each name of a row takes one number more. -/
theorem countedNames?_eq (room : taken.toFinset.card + candidates.length ≤ limit) :
    countedNames? limit taken candidates = some (uniqueNames taken candidates) := by
  induction candidates generalizing taken with
  | nil => rfl
  | cons candidate rest ih =>
    rw [List.length_cons] at room
    have more : (uniqueName taken candidate :: taken).toFinset.card ≤ taken.toFinset.card + 1 := by
      rw [List.toFinset_cons]
      exact Finset.card_insert_le _ _
    rw [countedNames?, countedName?_eq (by omega), Option.bind_eq_bind, Option.bind_some, ih (by omega),
      Option.bind_eq_bind, Option.bind_some, uniqueNames]
    rfl

end Counting

/-! ## What counting comes to -/

/-- A name for a candidate beside taken ones: the candidate if it is free, else its form with the least free
number, which is not above the number of different taken names. -/
structure Settled (taken : List String) (candidate name : String) : Prop where
  free : name ∉ taken
  own : candidate ∉ taken → name = candidate
  least : candidate ∈ taken → ∃ n ≤ taken.toFinset.card,
    IsLeast (freeFrom taken candidate 1) n ∧ name = numbered candidate n

theorem settled_uniqueName (taken : List String) (candidate : String) :
    Settled taken candidate (uniqueName taken candidate) := by
  refine ⟨uniqueName_not_mem taken candidate, fun free => ?_, exists_isLeast⟩
  rw [uniqueName, if_neg free]

/-- **Names by counting.** A counter with room for more numbers than there are different taken names comes to an
end, and at which name does not depend on the room. In a row each name takes one number more; the names are
different from each other and from the taken ones. -/
theorem uniqueNames_counted (taken : List String) :
    (∀ candidate, Settled taken candidate (uniqueName taken candidate) ∧
      ∀ limit, taken.toFinset.card < limit →
        countedName? limit taken candidate = some (uniqueName taken candidate)) ∧
    ∀ candidates, (uniqueNames taken candidates).Nodup ∧ (uniqueNames taken candidates).Disjoint taken ∧
      ∀ limit, taken.toFinset.card + candidates.length ≤ limit →
        countedNames? limit taken candidates = some (uniqueNames taken candidates) := by
  refine ⟨fun candidate => ⟨settled_uniqueName taken candidate, fun _ => countedName?_eq⟩, fun candidates => ?_⟩
  obtain ⟨distinct, free⟩ := nodup_uniqueNames taken candidates
  exact ⟨distinct, free, fun _ => countedNames?_eq⟩

/-- Names that look like numbered ones, before and behind the name that they look like, and a counter of 32 bits
with a sign. -/
theorem widgets_counted :
    ["Widget", "Widget1"].toFinset.card + ["Widget", "Widget1", "Widget", "Gadget"].length ≤ 0x7FFFFFFF ∧
      countedNames? 0x7FFFFFFF ["Widget", "Widget1"] ["Widget", "Widget1", "Widget", "Gadget"] =
        some ["Widget2", "Widget11", "Widget3", "Gadget"] := by
  have room : ["Widget", "Widget1"].toFinset.card + ["Widget", "Widget1", "Widget", "Gadget"].length ≤
      0x7FFFFFFF := by decide
  have names : uniqueNames ["Widget", "Widget1"] ["Widget", "Widget1", "Widget", "Gadget"] =
      ["Widget2", "Widget11", "Widget3", "Gadget"] := by decide +kernel
  refine ⟨room, ?_⟩
  rw [← names]
  exact ((uniqueNames_counted ["Widget", "Widget1"]).2 _).2.2 _ room

end CmdletForge.Naming
