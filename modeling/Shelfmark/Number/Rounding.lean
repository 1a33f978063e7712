/-!
# Numbers - Rounding a quotient

One rule serves wherever a number is cut to a grid, be it the binary grid of
floating point or the decimal grid of a printed number: the nearest point wins,
and a tie goes to the even one.
-/

namespace Shelfmark
namespace Number

/-- The natural number nearest to `num / den`, the even one of two that are equally near. -/
def roundHalfEven (num den : Nat) : Nat :=
  let down := num / den
  let twice := 2 * (num % den)
  if twice < den then down
  else if den < twice then down + 1
  else if down % 2 = 0 then down
  else down + 1

/-- A quotient without remainder is its own rounding. -/
theorem roundHalfEven_mul_right (n den : Nat) (pos : 0 < den) :
    roundHalfEven (n * den) den = n := by
  simp [roundHalfEven, Nat.mul_div_cancel n pos, pos]

end Number
end Shelfmark
