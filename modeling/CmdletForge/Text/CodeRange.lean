/-!
# Character classes as lists of code point ranges

A class of characters is a list of closed ranges of code points, in increasing order. The tables
of this folder hold the classes of the Unicode character database that naming needs; `inRanges`
is the one test on all of them.
-/

namespace CmdletForge.Text

/-- Membership of a code point in a list of closed ranges. -/
def inRanges (ranges : List (Nat × Nat)) (code : Nat) : Bool :=
  ranges.any fun r => decide (r.1 ≤ code) && decide (code ≤ r.2)

theorem inRanges_iff {ranges : List (Nat × Nat)} {code : Nat} :
    inRanges ranges code = true ↔ ∃ r ∈ ranges, r.1 ≤ code ∧ code ≤ r.2 := by
  simp [inRanges]

end CmdletForge.Text
