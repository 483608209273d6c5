/-! Sets of code points, written as ranges in ascending order. -/

namespace Reckoner.Text

/-- Ranges of code points, each with both its ends, in ascending order and apart from each other. -/
abbrev CodeSet := List (Nat × Nat)

namespace CodeSet

/-- The order of the ranges ends the search at the first range beyond the code point. -/
def contains : CodeSet → Nat → Bool
  | [], _ => false
  | (first, last) :: rest, n => if n < first then false else n ≤ last || contains rest n

end CodeSet
end Reckoner.Text
