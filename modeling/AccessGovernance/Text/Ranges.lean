/-! # Tables of code points

A character property is a list of inclusive ranges of code points. A look-up reads the list only as
far as the ranges do not lie above the character.
-/

namespace AccessGovernance.Text

/-- Inclusive ranges of code points, ascending and disjoint. -/
abbrev Ranges := List (Nat × Nat)

def Ranges.contains : Ranges → Nat → Bool
  | [], _ => false
  | (low, high) :: rest, n =>
      if n < low then false else if n ≤ high then true else contains rest n

end AccessGovernance.Text
