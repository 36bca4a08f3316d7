/-!
# Sets of code points

A set of characters given as a list of closed ranges of code points, in ascending order.  The
tables of character properties in this folder are such lists.
-/

namespace Refit.Text

/-- Closed ranges of code points; a character belongs to the set when one of them holds it. -/
abbrev Ranges := List (Nat × Nat)

/-- Whether the set holds a character. -/
def Ranges.holds (ranges : Ranges) (c : Char) : Bool :=
  ranges.any fun (low, high) => low ≤ c.toNat && c.toNat ≤ high

theorem Ranges.holds_iff {ranges : Ranges} {c : Char} :
    ranges.holds c = true ↔ ∃ r ∈ ranges, r.1 ≤ c.toNat ∧ c.toNat ≤ r.2 := by
  simp [Ranges.holds]

end Refit.Text
