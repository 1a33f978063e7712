import Shelfmark.Number.Rounding

/-!
# Numbers - Double precision

Class numbers are read into double precision and printed from it, so digits
beyond its reach are lost in a definite way.  Every finite double is a whole
number of units of `2 ^ -1074`; a value is kept as that number, and arithmetic
is exact arithmetic on it followed by one rounding.

Main definitions:

- `Magnitude.nearest` rounds a quotient of units to the nearest double, ties to
  the even significand, and what is too large to infinity.
- `Binary64.ofDecimal` reads a decimal with any number of digits correctly.
- `Magnitude.add`, `mul`, `div` and `floor` are the operations on magnitudes
  that rounding a class number down takes.
-/

namespace Shelfmark
namespace Number

/-! ## The grid -/

/-- The number of units in one: the smallest positive double is `1 / unitsPerOne`. -/
def unitsPerOne : Nat := Nat.pow 2 1074

/-- The number of units from which on a value counts as infinite, `2 ^ 1024` in all. -/
def infiniteUnits : Nat := Nat.pow 2 2098

/-- The distance of neighbouring doubles around a number of units.  A significand has 53
bits, so the distance doubles with each bit beyond them. -/
def spacing (units : Nat) : Nat :=
  Nat.pow 2 (units.log2 - 52)

/-- The size of a double, sign apart. -/
inductive Magnitude where
  /-- A whole number of units. -/
  | finite (units : Nat)
  /-- Beyond every finite double. -/
  | infinite
  deriving Repr, DecidableEq

/-- A double: not a number, or a sign and a size. -/
inductive Binary64 where
  /-- The result of no meaningful computation. -/
  | nan
  /-- A signed value; zero too has a sign. -/
  | signed (negative : Bool) (size : Magnitude)
  deriving Repr, DecidableEq

/-! ## Rounding to the grid -/

namespace Magnitude

/-- The double nearest to `num / den` units, ties to the even significand. -/
def nearest (num den : Nat) : Magnitude :=
  let step := spacing (num / den)
  let units := roundHalfEven num (den * step) * step
  if infiniteUnits ≤ units then infinite else finite units

/-- The double nearest to `digits * 10 ^ exponent`.  Two bounds on the position of the first
digit keep the powers small: `10 ^ 400` exceeds every double, and `10 ^ -400` is nearer to
zero than to any other. -/
def ofDecimal (digits : Nat) (exponent : Int) : Magnitude :=
  if digits = 0 then finite 0
  else
    let point := exponent + (Nat.toDigits 10 digits).length
    if 400 < point then infinite
    else if point < -400 then finite 0
    else if 0 ≤ exponent then nearest (digits * Nat.pow 10 exponent.toNat * unitsPerOne) 1
    else nearest (digits * unitsPerOne) (Nat.pow 10 (-exponent).toNat)

/-! ## Arithmetic -/

/-- The sum with a finite number of units, rounded. -/
def add : Magnitude → Nat → Magnitude
  | finite a, b => nearest (a + b) 1
  | infinite, _ => infinite

/-- The product with a positive finite number of units, rounded. -/
def mul : Magnitude → Nat → Magnitude
  | finite a, b => nearest (a * b) unitsPerOne
  | infinite, _ => infinite

/-- The quotient by a positive finite number of units, rounded. -/
def div : Magnitude → Nat → Magnitude
  | finite a, b => nearest (a * unitsPerOne) b
  | infinite, _ => infinite

/-- The greatest whole number that does not exceed the value. -/
def floor : Magnitude → Magnitude
  | finite a => finite (a / unitsPerOne * unitsPerOne)
  | infinite => infinite

end Magnitude

end Number
end Shelfmark
