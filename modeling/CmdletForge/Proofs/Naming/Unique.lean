import CmdletForge.Naming.Unique
import Mathlib.Data.List.Nodup
import Mathlib.Data.List.Perm.Subperm

/-!
# A free name is found

`uniqueName` never runs out of numbers: a name and its first `k` numbered forms are `k + 1` different
texts, so `k` taken names cannot hold them all. `UniqueName` says which text comes out. Names that are
given in a row are taken for those that come later, and `NumberedTo` says when one of them becomes a name
that its candidate was not.
-/

namespace CmdletForge.Naming

theorem numbered_injective (candidate : String) : Function.Injective (numbered candidate) := by
  intro m n same
  have text : m.repr = n.repr := (String.append_right_inj candidate).1 same
  have digits : Nat.toDigits 10 m = Nat.toDigits 10 n := by
    rw [← Nat.toList_repr, ← Nat.toList_repr, text]
  calc m = Nat.ofDigitChars 10 (Nat.toDigits 10 m) 0 := by simp
    _ = Nat.ofDigitChars 10 (Nat.toDigits 10 n) 0 := by rw [digits]
    _ = n := by simp

/-- A number makes a name longer. -/
theorem numbered_ne (candidate : String) (n : Nat) : numbered candidate n ≠ candidate := by
  intro same
  have empty : n.repr = "" := by
    apply (String.append_right_inj candidate).1
    rw [String.append_empty]
    exact same
  exact Nat.repr_ne_empty empty

/-- Among as many numbers as there are taken names, one is free if the name itself is not. -/
theorem exists_free {taken : List String} {candidate : String} (used : candidate ∈ taken) :
    ∃ n < taken.length, numbered candidate (n + 1) ∉ taken := by
  by_contra! all
  let forms := candidate :: (List.range taken.length).map fun n => numbered candidate (n + 1)
  have distinct : forms.Nodup := by
    refine List.nodup_cons.2 ⟨?_, ?_⟩
    · intro mem
      obtain ⟨n, -, same⟩ := List.mem_map.1 mem
      exact numbered_ne candidate (n + 1) same
    · refine List.Nodup.map ?_ List.nodup_range
      exact fun m n same => Nat.succ.inj (numbered_injective candidate same)
  have covered : forms ⊆ taken := by
    intro name mem
    rcases List.mem_cons.1 mem with rfl | mem
    · exact used
    · obtain ⟨n, bound, rfl⟩ := List.mem_map.1 mem
      exact all n (List.mem_range.1 bound)
  have fits := (List.subperm_of_subset distinct covered).length_le
  have length : forms.length = taken.length + 1 := by simp [forms]
  omega

/-- What a name becomes beside taken ones: itself if it is free, else its form with the least number
that is free, which is not above the number of taken names. -/
inductive UniqueName (taken : List String) (candidate : String) : String → Prop
  | same (free : candidate ∉ taken) : UniqueName taken candidate candidate
  | numbered (n : Nat) (used : candidate ∈ taken) (bound : n < taken.length)
      (free : numbered candidate (n + 1) ∉ taken)
      (least : ∀ m < n, numbered candidate (m + 1) ∈ taken) :
      UniqueName taken candidate (numbered candidate (n + 1))

theorem uniqueName_spec (taken : List String) (candidate : String) :
    UniqueName taken candidate (uniqueName taken candidate) := by
  unfold uniqueName
  by_cases used : candidate ∈ taken
  · rw [if_pos used, List.find?_map]
    cases found : (List.range taken.length).find?
        ((fun name => decide (name ∉ taken)) ∘ fun n => numbered candidate (n + 1)) with
    | none =>
      obtain ⟨n, bound, free⟩ := exists_free used
      have taken := List.find?_eq_none.1 found n (List.mem_range.2 bound)
      simp [free] at taken
    | some n =>
      obtain ⟨free, bound, least⟩ := List.find?_range_eq_some.1 found
      refine .numbered n used (List.mem_range.1 bound) (by simpa using free) fun m lower => ?_
      simpa using least m lower
  · rw [if_neg used]
    exact .same used

/-- A unique name is free. -/
theorem uniqueName_not_mem (taken : List String) (candidate : String) :
    uniqueName taken candidate ∉ taken := by
  have spec := uniqueName_spec taken candidate
  generalize uniqueName taken candidate = name at spec ⊢
  cases spec with
  | same free => exact free
  | numbered n used bound free least => exact free

theorem uniqueName_ne_empty (taken : List String) {candidate : String} (nonempty : candidate ≠ "") :
    uniqueName taken candidate ≠ "" := by
  have spec := uniqueName_spec taken candidate
  generalize uniqueName taken candidate = name at spec ⊢
  cases spec with
  | same => exact nonempty
  | numbered n => simp [numbered, nonempty]

/-! ## Names in a row -/

theorem uniqueName_reverse (taken : List String) (candidate : String) :
    uniqueName taken.reverse candidate = uniqueName taken candidate := by
  simp [uniqueName]

theorem length_uniqueNames (taken candidates : List String) :
    (uniqueNames taken candidates).length = candidates.length := by
  induction candidates generalizing taken with
  | nil => rfl
  | cons candidate rest ih => simp [uniqueNames, ih]

/-- The names of a row are taken for those that come after it. -/
theorem uniqueNames_append (taken front back : List String) :
    uniqueNames taken (front ++ back) =
      uniqueNames taken front ++ uniqueNames ((uniqueNames taken front).reverse ++ taken) back := by
  induction front generalizing taken with
  | nil => rfl
  | cons candidate rest ih => simp [uniqueNames, ih]

theorem nodup_uniqueNames (taken candidates : List String) :
    (uniqueNames taken candidates).Nodup ∧ ∀ name ∈ uniqueNames taken candidates, name ∉ taken := by
  induction candidates generalizing taken with
  | nil => simp [uniqueNames]
  | cons candidate rest ih =>
    obtain ⟨distinct, free⟩ := ih (uniqueName taken candidate :: taken)
    refine ⟨List.nodup_cons.2 ⟨fun again => free _ again List.mem_cons_self, distinct⟩, ?_⟩
    intro name mem
    rcases List.mem_cons.1 mem with rfl | mem
    · exact uniqueName_not_mem taken candidate
    · exact fun used => free name mem (List.mem_cons_of_mem _ used)

theorem exists_of_mem_uniqueNames {taken candidates : List String} {name : String}
    (mem : name ∈ uniqueNames taken candidates) :
    ∃ taken, ∃ candidate ∈ candidates, uniqueName taken candidate = name := by
  induction candidates generalizing taken with
  | nil => contradiction
  | cons candidate rest ih =>
    rcases List.mem_cons.1 mem with rfl | mem
    · exact ⟨taken, candidate, List.mem_cons_self, rfl⟩
    · obtain ⟨taken, later, its, same⟩ := ih mem
      exact ⟨taken, later, List.mem_cons_of_mem _ its, same⟩

/-- In a row of things with unique names, each has that of its candidate beside those before it. -/
theorem eq_uniqueName_of_split {ι : Type} {name candidate : ι → String} {earlier later : List ι} {x : ι}
    (names : (earlier ++ x :: later).map name = uniqueNames [] ((earlier ++ x :: later).map candidate)) :
    name x = uniqueName (earlier.map name) (candidate x) := by
  rw [List.map_append, List.map_append, uniqueNames_append] at names
  have lengths : (earlier.map name).length = (uniqueNames [] (earlier.map candidate)).length := by
    rw [length_uniqueNames, List.length_map, List.length_map]
  obtain ⟨before, rest⟩ := List.append_inj names lengths
  rw [← before, List.append_nil, List.map_cons, List.map_cons, uniqueNames, uniqueName_reverse] at rest
  exact (List.cons.inj rest).1

/-! ## Names reached by a number -/

/-- Beside taken names the number of a candidate makes it a given name: the candidate and its forms with
lower numbers are taken, and the name is not. -/
structure NumberedTo (taken : List String) (candidate name : String) (n : Nat) : Prop where
  form : name = numbered candidate (n + 1)
  used : candidate ∈ taken
  lower : ∀ m < n, numbered candidate (m + 1) ∈ taken
  free : name ∉ taken

/-- A candidate that is not a given name becomes that name by a number or not at all. -/
theorem uniqueName_eq_iff {taken : List String} {candidate name : String} (other : candidate ≠ name) :
    uniqueName taken candidate = name ↔ ∃ n, NumberedTo taken candidate name n := by
  have spec := uniqueName_spec taken candidate
  generalize uniqueName taken candidate = unique at spec
  cases spec with
  | same free =>
    constructor
    · exact fun same => absurd same other
    · rintro ⟨n, numbered⟩
      exact absurd numbered.used free
  | numbered n used bound free least =>
    constructor
    · rintro rfl
      exact ⟨n, rfl, used, least, free⟩
    · rintro ⟨m, rfl, -, lower, available⟩
      -- Both numbers are the least that is free.
      rcases Nat.lt_trichotomy n m with less | rfl | more
      · exact absurd (lower n less) free
      · rfl
      · exact absurd (least m more) available

/-- A name that is reached by a number ends in a digit. -/
theorem NumberedTo.digit {taken : List String} {candidate name : String} {n : Nat}
    (numbered : NumberedTo taken candidate name n) : ∃ c ∈ name.toList.getLast?, c.isDigit = true := by
  have digits : (n + 1).repr.toList = Nat.toDigits 10 (n + 1) := Nat.toList_repr
  have nonempty : Nat.toDigits 10 (n + 1) ≠ [] := Nat.toDigits_ne_nil
  refine ⟨(Nat.toDigits 10 (n + 1)).getLast nonempty, ?_, ?_⟩
  · rw [numbered.form, Naming.numbered, String.toList_append, Nat.toString_eq_repr, digits,
      List.getLast?_append_of_ne_nil _ nonempty, List.getLast?_eq_some_getLast nonempty]
    exact Option.mem_some_self _
  · exact Nat.isDigit_of_mem_toDigits (by decide) (by decide) (List.getLast_mem nonempty)

end CmdletForge.Naming
