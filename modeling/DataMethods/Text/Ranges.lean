/-!
# Sets of characters as ranges

A property of characters is kept as closed ranges of code points in ascending order. `holds` walks
them and stops at the first range that does not lie wholly below the code point.
-/

namespace DataMethods.Text

/-- Closed ranges of code points, ascending and apart. -/
abbrev Ranges := List (Nat × Nat)

namespace Ranges

/-- Does one of the ranges hold `n`? -/
def holds : Ranges → Nat → Bool
  | [], _ => false
  | (first, last) :: rs, n => if n ≤ last then decide (first ≤ n) else holds rs n

end Ranges

end DataMethods.Text
