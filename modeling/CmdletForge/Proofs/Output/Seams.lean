import CmdletForge.Proofs.Output.Precedence

/-!
# Texts put together

Where no occurrence of a literal lies across the seam of two texts, the tilings of the two make up the tiling
of the whole: up to the seam, what follows it decides nothing, and reading stops at the seam.
-/

namespace CmdletForge.SubstitutionTable

variable {entries : List (List Char × List Char)} {entry : List Char × List Char} {tiles others : List Tile}
  {literal front a b : List Char}

/-- The literal occurs in the two texts together, with a beginning in the first and an end in the second. -/
def Straddles (literal a b : List Char) : Prop :=
  ∃ place < a.length, OccursAt literal (a ++ b) place ∧ a.length < place + literal.length

instance (literal a b : List Char) : Decidable (Straddles literal a b) :=
  inferInstanceAs (Decidable (∃ place < a.length, _ ∧ _))

theorem Straddles.behind (straddles : Straddles literal a b) (front : List Char) :
    Straddles literal (front ++ a) b := by
  obtain ⟨place, inside, occurs, across⟩ := straddles
  refine ⟨front.length + place, ?_, ?_, ?_⟩
  · rw [List.length_append]
    omega
  · rw [OccursAt, List.append_assoc, List.drop_length_add_append]
    exact occurs
  · rw [List.length_append]
    omega

/-- What follows a text does not decide whether a literal starts it. -/
theorem prefix_append_iff (nonempty : a ≠ []) (apart : ¬ Straddles literal a b) :
    literal <+: a ++ b ↔ literal <+: a := by
  constructor
  · intro starts
    have short : literal.length ≤ a.length := by
      by_contra long
      refine apart ⟨0, List.length_pos_iff.2 nonempty, starts, ?_⟩
      omega
    exact List.prefix_of_prefix_length_le starts (List.prefix_append a b) short
  · intro starts
    exact starts.trans (List.prefix_append a b)

theorem Earliest.append (first : Earliest entries entry a) (nonempty : a ≠ [])
    (seam : ∀ entry ∈ entries, ¬ Straddles entry.1 a b) : Earliest entries entry (a ++ b) := by
  have same := startsWith?_congr fun other mem => prefix_append_iff nonempty (seam other mem)
  rw [← startsWith?_eq_some_iff] at first ⊢
  rw [same, first]

/-- Tilings of two texts make up one of the whole, if no literal lies across the seam. -/
theorem Tiling.append (full : ∀ entry ∈ entries, entry.1 ≠ []) (tiling : Tiling entries tiles a)
    (following : Tiling entries others b) (seam : ∀ entry ∈ entries, ¬ Straddles entry.1 a b) :
    Tiling entries (tiles ++ others) (a ++ b) := by
  induction tiling with
  | done => exact following
  | @kept c rest _ none _ ih =>
    refine .kept (fun entry mem starts => ?_) (ih fun entry mem straddles => ?_)
    · exact none entry mem ((prefix_append_iff (List.cons_ne_nil c rest) (seam entry mem)).1 starts)
    · exact seam entry mem (straddles.behind [c])
  | @replaced literal replacement rest _ first _ ih =>
    have nonempty : literal ++ rest ≠ [] := List.append_ne_nil_of_left_ne_nil (full _ first.mem) rest
    have whole := first.append nonempty seam
    rw [List.append_assoc] at whole ⊢
    exact .replaced whole (ih fun entry mem straddles => seam entry mem (straddles.behind literal))

/-- **A table works on both sides of a seam by itself**, if no occurrence of a literal lies across it. -/
theorem apply_append {additions : List (String × String)} {a b : String}
    (seam : ∀ entry ∈ (ofAdditions additions).pairs, ¬ Straddles entry.1 a.toList b.toList) :
    (ofAdditions additions).apply (a ++ b) =
      (ofAdditions additions).apply a ++ (ofAdditions additions).apply b := by
  have full := full_ofAdditions additions
  have whole := (tiling_pieces full a.toList).append full (tiling_pieces full b.toList) seam
  have tiles := whole.eq_pieces full
  rw [← String.toList_inj, String.toList_append, toList_apply, toList_apply, toList_apply,
    String.toList_append, rewrite, ← tiles, List.flatMap_append, rewrite, rewrite]

/-- The first text ends with the beginning of a literal, which the second does not complete. -/
theorem overlapping_append :
    (∀ entry ∈ (ofAdditions overlapping).pairs, ¬ Straddles entry.1 "x Foo.Ba".toList "z Bar.Baz".toList) ∧
    (ofAdditions overlapping).apply ("x Foo.Ba" ++ "z Bar.Baz") =
      (ofAdditions overlapping).apply "x Foo.Ba" ++ (ofAdditions overlapping).apply "z Bar.Baz" := by
  have seam : ∀ entry ∈ (ofAdditions overlapping).pairs,
      ¬ Straddles entry.1 "x Foo.Ba".toList "z Bar.Baz".toList := by
    decide +kernel
  exact ⟨seam, apply_append seam⟩

end CmdletForge.SubstitutionTable
