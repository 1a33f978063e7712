/-!
# Characters - Ranges of code points

Properties of characters are given as ascending lists of closed ranges of code
points.  Membership stops at the first range that lies beyond the code point, so
the common characters at the front of a table are decided at once.
-/

namespace Shelfmark
namespace Character

/-- Whether `n` lies in one of the closed ranges, which stand in ascending order. -/
def inRanges : List (Nat × Nat) → Nat → Bool
  | [], _ => false
  | (first, last) :: rest, n =>
    if n < first then false else n ≤ last || inRanges rest n

end Character
end Shelfmark
