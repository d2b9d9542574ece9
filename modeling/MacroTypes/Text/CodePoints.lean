/-!
# Sets of characters as ranges of code points

The properties of the Unicode Character Database that this library consults (version 17.0) are
written as lists of inclusive ranges of code points, in increasing order.
-/

namespace MacroTypes.Text

/-- Inclusive ranges of code points. -/
abbrev CodePoints := List (Nat × Nat)

/-- Whether a character lies in one of the ranges. -/
def CodePoints.contains (ranges : CodePoints) (c : Char) : Bool :=
  ranges.any fun (first, last) => first ≤ c.toNat && c.toNat ≤ last

theorem CodePoints.contains_iff {ranges : CodePoints} {c : Char} :
    ranges.contains c = true ↔ ∃ r ∈ ranges, r.1 ≤ c.toNat ∧ c.toNat ≤ r.2 := by
  simp [CodePoints.contains]

end MacroTypes.Text
