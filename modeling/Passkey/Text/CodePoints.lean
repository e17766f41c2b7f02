/-
Passkey/Text/CodePoints.lean

Sets of characters given as intervals of code points, the form in which the
Unicode character database states its properties.
-/
namespace Passkey.Text

/-- A set of code points, as a list of closed intervals. -/
structure CodePoints where
  intervals : List (Nat × Nat)
deriving DecidableEq, Repr

/-- Whether the character lies in one of the intervals. -/
def CodePoints.contains (s : CodePoints) (c : Char) : Bool :=
  s.intervals.any fun i => i.1 ≤ c.toNat && c.toNat ≤ i.2

/-- Membership is membership in one of the intervals. -/
theorem CodePoints.contains_iff {s : CodePoints} {c : Char} :
    s.contains c = true ↔ ∃ i ∈ s.intervals, i.1 ≤ c.toNat ∧ c.toNat ≤ i.2 := by
  simp [contains, List.any_eq_true, Bool.and_eq_true]

end Passkey.Text
