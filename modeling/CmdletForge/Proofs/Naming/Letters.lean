import CmdletForge.Proofs.Naming.Beginnings
import Mathlib.Data.List.Sort

/-!
# Letters in lowercase

All that is lowercase is a letter, so what separates words is never lowercase. A letter or number of a word stays
one letter or number when it is put into lowercase, with one exception: the capital `İ` becomes a small `i` and a
dot above it, and this dot is neither. Nothing is said here of uppercase, where more characters are spelled out.

Both facts are about whole tables. `covers` compares two tables that are in order by going through them once.
-/

namespace CmdletForge.Naming
open CmdletForge.Text

/-! ## Tables in tables -/

/-- Whether ranges lie inside of others, both in increasing order: each of the others takes away from the front
what lies inside of it, and nothing is left. -/
def covers (outer inner : List (Nat × Nat)) : Bool :=
  (outer.foldl (fun left r => left.dropWhile fun range => r.1.ble range.1 && range.2.ble r.2) inner).isEmpty

theorem within_of_covers {outer inner : List (Nat × Nat)} (all : covers outer inner = true)
    {range : Nat × Nat} (mem : range ∈ inner) : within outer range.1 range.2 = true := by
  rw [covers, List.isEmpty_iff] at all
  induction outer generalizing inner with
  | nil =>
    rw [List.foldl_nil] at all
    rw [all] at mem
    contradiction
  | cons r outer ih =>
    rw [List.foldl_cons] at all
    rw [within, List.any_cons, Bool.or_eq_true]
    rw [← List.takeWhile_append_dropWhile (p := fun range => r.1.ble range.1 && range.2.ble r.2) (l := inner)] at mem
    rcases List.mem_append.1 mem with taken | left
    · exact .inl (List.all_eq_true.1 List.all_takeWhile range taken)
    · exact .inr (ih all left)

/-- Ranges around the code points that a run leads to. Where small letters alternate with capitals, what lies
between them are letters too, but not so in the alphabets beyond `0xFFFF`. -/
def images (run : CaseRun) : List (Nat × Nat) :=
  if run.step = 1 ∨ run.last ≤ 0xFFFF then [(run.target, run.target + (run.last - run.first))]
  else (List.range ((run.last - run.first) / run.step + 1)).map fun k =>
    (run.target + k * run.step, run.target + k * run.step)

/-- The tables that lie inside of the one of letters. -/
structure LetterTables : Prop where
  lowercase : covers alphabeticRanges lowercaseRanges = true
  images : covers alphabeticRanges
    ((lowerRuns.flatMap images).insertionSort fun range other => range.1.ble other.1 = true) = true

theorem letterTables : LetterTables := by
  constructor <;> decide +kernel

theorem isAlphanumeric_of_isLowercase {c : Char} (low : isLowercase c = true) : isAlphanumeric c = true := by
  obtain ⟨range, mem, inside⟩ := inRanges_iff.1 low
  have letter : isAlphabetic c = true := inRanges_of_within (within_of_covers letterTables.lowercase mem) inside
  rw [isAlphanumeric, letter, Bool.true_or]

/-- What is no part of a word is not lowercase. -/
theorem not_isLowercase_of_apart {c : Char} (apart : isAlphanumeric c = false) : isLowercase c = false := by
  rw [← Bool.not_eq_true]
  intro low
  rw [isAlphanumeric_of_isLowercase low] at apart
  contradiction

/-! ## Lowercase of one character -/

theorem exists_images {run : CaseRun} {code image : Nat} (mapped : run.image? code = some image) :
    ∃ range ∈ images run, range.1 ≤ image ∧ image ≤ range.2 := by
  have bounds := image_bounds mapped
  unfold CaseRun.image? at mapped
  split at mapped
  next its =>
    obtain rfl := Option.some.inj mapped
    obtain ⟨low, high, whole⟩ := its
    unfold images
    split
    next => exact ⟨_, List.mem_singleton_self _, bounds⟩
    next =>
      -- The code point is a number of steps behind the first.
      have steps : (code - run.first) / run.step * run.step = code - run.first :=
        Nat.div_mul_cancel (Nat.dvd_of_mod_eq_zero whole)
      have few : (code - run.first) / run.step ≤ (run.last - run.first) / run.step :=
        Nat.div_le_div_right (by omega)
      refine ⟨_, List.mem_map.2 ⟨(code - run.first) / run.step, List.mem_range.2 (by omega), rfl⟩, ?_⟩
      rw [steps]
      exact ⟨Nat.le_refl _, Nat.le_refl _⟩
  next => contradiction

/-- The dot above a letter, on its own. -/
def dotAbove : Char := '\u0307'

theorem isAlphanumeric_dotted : isAlphanumeric 'İ' = true ∧ isAlphanumeric dotAbove = false := by
  decide +kernel

theorem toLower_dotted : toLower 'İ' = ['i', dotAbove] :=
  rfl

/-- A letter or number stays one in lowercase, unless it is the capital with a dot. -/
theorem exists_toLower {c : Char} (alnum : isAlphanumeric c = true) (other : c ≠ 'İ') :
    ∃ d, toLower c = [d] ∧ isAlphanumeric d = true := by
  have unlisted : lowerSpelled.lookup c.toNat = none := by
    rw [List.lookup_eq_none_iff]
    intro entry mem
    obtain rfl := List.mem_singleton.1 mem
    rw [bne_iff_ne]
    exact fun same => other (Char.toNat_inj.1 same)
  unfold toLower mapCase
  rw [unlisted]
  dsimp only
  split
  next image found =>
    obtain ⟨run, listed, mapped⟩ := List.exists_of_findSome?_eq_some found
    obtain ⟨range, mem, inside⟩ := exists_images mapped
    have sorted : range ∈ (lowerRuns.flatMap images).insertionSort fun range other =>
        range.1.ble other.1 = true := by
      rw [List.mem_insertionSort]
      exact List.mem_flatMap.2 ⟨run, listed, mem⟩
    have code := toNat_ofNat_of_letters (lettered_lower.runs run listed) (image_bounds mapped)
    have letter : isAlphabetic (Char.ofNat image) = true := by
      rw [isAlphabetic, code]
      exact inRanges_of_within (within_of_covers letterTables.images sorted) inside
    exact ⟨_, rfl, by rw [isAlphanumeric, letter, Bool.true_or]⟩
  next => exact ⟨c, rfl, alnum⟩

end CmdletForge.Naming
