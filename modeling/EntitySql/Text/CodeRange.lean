/-!
# Ranges of code points

Unicode properties are stored as lists of inclusive ranges of code points.

## Main definitions

* `inRanges` : whether a code point lies in one of the ranges.
-/

namespace EntitySql.Text

/-- Whether `code` lies in one of the inclusive ranges. -/
def inRanges (code : Nat) (ranges : List (Nat × Nat)) : Bool :=
  ranges.any fun r => r.1 ≤ code && code ≤ r.2

theorem inRanges_eq_true_iff {code : Nat} {ranges : List (Nat × Nat)} :
    inRanges code ranges = true ↔ ∃ r ∈ ranges, r.1 ≤ code ∧ code ≤ r.2 := by
  simp [inRanges]

end EntitySql.Text
