/-!
# Ranges of code points

A class of characters is written as a list of closed ranges, ascending and apart.
-/

namespace DocPress.Ranges

/-- The number lies in one of the ranges. -/
def has (rs : List (Nat × Nat)) (n : Nat) : Bool :=
  rs.any fun r => r.1 ≤ n && n ≤ r.2

/-- Ascending, and with a gap between neighbours. -/
def Apart : List (Nat × Nat) → Bool
  | [] => true
  | [r] => r.1 ≤ r.2
  | r :: s :: rs => r.1 ≤ r.2 && r.2 < s.1 && Apart (s :: rs)

theorem has_eq_true_iff {rs : List (Nat × Nat)} {n : Nat} :
    has rs n = true ↔ ∃ r ∈ rs, r.1 ≤ n ∧ n ≤ r.2 := by
  simp [has]

end DocPress.Ranges
