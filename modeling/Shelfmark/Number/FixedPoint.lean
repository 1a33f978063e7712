import Shelfmark.Number.Binary64
import Shelfmark.Text.Basic

/-!
# Numbers - Fixed-point digits

A double has a finite decimal expansion.  Printing it with a given number of
places rounds that expansion once, half to even, so what is printed never
depends on how the digits are produced.
-/

namespace Shelfmark
namespace Number

/-- The digits of a number before and after the point. -/
structure FixedPoint where
  /-- The digits before the point, at least one. -/
  whole : Text
  /-- The digits after the point, as many as there are places. -/
  fraction : Text
  deriving Repr, DecidableEq

/-- The digits of `n / 10 ^ places`. -/
def FixedPoint.ofScaled (n places : Nat) : FixedPoint :=
  let digits := Text.padZeros (places + 1) (Nat.toDigits 10 n)
  ⟨digits.take (digits.length - places), digits.drop (digits.length - places)⟩

/-- The digits of a number of units, rounded half to even to the given number of places. -/
def FixedPoint.ofUnits (units places : Nat) : FixedPoint :=
  .ofScaled (roundHalfEven (units * Nat.pow 10 places) unitsPerOne) places

end Number
end Shelfmark
