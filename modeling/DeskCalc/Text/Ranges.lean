/-! # Sets of characters given by ranges

A character class of the Unicode standard is a list of closed ranges of code points.

* `Ranges`: the list, in ascending order.
* `Ranges.has`: whether a character lies in one of the ranges.
-/

namespace DeskCalc.Text
set_option autoImplicit false

/-- Closed ranges of code points, lowest first. -/
abbrev Ranges := List (Nat × Nat)

/-- The character lies in one of the ranges. -/
def Ranges.has (rs : Ranges) (c : Char) : Bool :=
  rs.any fun r => r.1 ≤ c.toNat && c.toNat ≤ r.2

theorem Ranges.has_iff {rs : Ranges} {c : Char} :
    rs.has c = true ↔ ∃ r ∈ rs, r.1 ≤ c.toNat ∧ c.toNat ≤ r.2 := by
  simp [Ranges.has]

end DeskCalc.Text
