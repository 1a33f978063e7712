import Shelfmark.Number.FixedPoint

/-!
# Numbers - The shortest decimal

A message writes a double with as few digits as identify it: the decimal reads
back as the same double, no shorter one does, and of the decimals of that
length it is the nearest.  It is always written out with its zeros, never with
an exponent.

For each length the two neighbours of the value on the grid of decimals of
that length are tested against the interval of numbers that round to the
double.  Seventeen digits always suffice.
-/

namespace Shelfmark
namespace Number

/-! ## The numbers that round to a double -/

/-- The decimals that round to one double lie between two bounds, given in quarters of a
unit. -/
structure RoundingInterval where
  /-- The lower bound in quarter units. -/
  lower : Nat
  /-- The upper bound in quarter units. -/
  upper : Nat
  /-- Whether the bounds themselves round to the double. -/
  closed : Bool
  deriving Repr, DecidableEq

/-- The interval of a positive double.  Half the way to each neighbour belongs to it, the
ends included if the significand is even; below a power of two the neighbour is nearer. -/
def RoundingInterval.ofUnits (units : Nat) : RoundingInterval :=
  let step := spacing units
  let atPower := decide (step > 1) && units == Nat.pow 2 units.log2
  { lower := 4 * units - (if atPower then step else 2 * step)
    upper := 4 * units + 2 * step
    closed := units / step % 2 == 0 }

/-- Whether `num / den` quarter units lie in the interval. -/
def RoundingInterval.holds (interval : RoundingInterval) (num den : Nat) : Bool :=
  if interval.closed then
    decide (interval.lower * den ≤ num) && decide (num ≤ interval.upper * den)
  else
    decide (interval.lower * den < num) && decide (num < interval.upper * den)

/-! ## Decimals of a given length -/

/-- The decimal `digits * 10 ^ exponent`. -/
structure Decimal where
  /-- The digits as one number. -/
  digits : Nat
  /-- The place of the last digit. -/
  exponent : Int
  deriving Repr, DecidableEq

/-- The number of digits before the point of a positive double; negative when zeros follow
the point.  The factor makes the smallest double exceed one. -/
def pointPosition (units : Nat) : Int :=
  (Nat.toDigits 10 (units * Nat.pow 10 324 / unitsPerOne)).length - 324

/-- The nearest decimal with `length` digits that rounds to the double, if there is one; the
greater of two that are equally near. -/
def Decimal.ofLength? (units length : Nat) : Option Decimal :=
  let exponent := pointPosition units - length
  let num := units * Nat.pow 10 (-exponent).toNat
  let den := unitsPerOne * Nat.pow 10 exponent.toNat
  let down := num / den
  let interval := RoundingInterval.ofUnits units
  let fits (d : Nat) := interval.holds (4 * d * den) (Nat.pow 10 (-exponent).toNat)
  let nearDown := decide (2 * (num % den) < den)
  if fits down && (nearDown || !fits (down + 1)) then some ⟨down, exponent⟩
  else if fits (down + 1) then some ⟨down + 1, exponent⟩
  else none

/-- The shortest decimal that rounds to a positive double. -/
def Decimal.shortest (units : Nat) : Decimal :=
  ((List.range' 1 17).findSome? (Decimal.ofLength? units)).getD ⟨0, 0⟩

/-! ## Text -/

/-- A decimal written out, with a point only if something other than zeros follows it. -/
def Decimal.text (d : Decimal) : Text :=
  let digits := FixedPoint.ofScaled (d.digits * Nat.pow 10 d.exponent.toNat) (-d.exponent).toNat
  let fraction := digits.fraction.dropEndWhile (· == '0')
  if fraction.isEmpty then digits.whole else digits.whole ++ ['.'] ++ fraction

/-- The text of a double: its sign, also for zero, and the shortest decimal or a word. -/
def Binary64.text : Binary64 → Text
  | .nan => "NaN".toList
  | .signed negative size =>
    (if negative then ['-'] else []) ++
      match size with
      | .infinite => "inf".toList
      | .finite 0 => ['0']
      | .finite (units + 1) => (Decimal.shortest (units + 1)).text

end Number
end Shelfmark
