import Mathlib.Algebra.Order.Field.Basic
import Mathlib.Algebra.Order.Field.Rat
import Mathlib.Data.Nat.Cast.Order.Field
import Mathlib.Tactic.Linarith
import Shelfmark.Proofs.Number.Shortest
import Shelfmark.Proofs.Number.Whole

/-!
# Numbers - Arithmetic with doubles

Every operation on doubles is the exact operation followed by one rounding.  The rounding is off by
at most one part in `2 ^ 53`, or by half of the smallest double where that is more, and its result
is infinite exactly from half way between the greatest double and the power of two behind it.

Main results:

- Theorem `isNear_nearestUnits`: the error of a rounding.
- Theorem `nearest_eq_infinite_iff`: the quotients that are rounded to infinity.
- Theorem `nearest_eq_finite_of_lt`: the others are rounded to finite doubles.
-/

namespace Shelfmark
namespace Number

/-! ## The error of a rounding -/

/-- The number that a number of units stands for. -/
def value (units : Nat) : ℚ :=
  units / unitsPerOne

/-- Half of the smallest positive double. -/
def underflow : ℚ :=
  1 / (2 * unitsPerOne)

/-- A number of units is as near to a number as a rounding brings it: off by one part in `2 ^ 53`,
and by half of the smallest double. -/
def IsNear (units : Nat) (exact : ℚ) : Prop :=
  |value units - exact| ≤ exact / 2 ^ 53 + underflow

/-- There are units in one, as a fraction. -/
theorem cast_unitsPerOne_pos : (0 : ℚ) < unitsPerOne :=
  Nat.cast_pos.mpr unitsPerOne_pos

/-- The smallest double is small. -/
theorem underflow_le : underflow ≤ 1 / 10 ^ 30 := by
  have hlt : 10 ^ 30 < unitsPerOne := ten_pow_lt_unitsPerOne (by omega)
  have hle : (10 ^ 30 : ℚ) ≤ unitsPerOne := by exact_mod_cast hlt.le
  rw [underflow]
  exact one_div_le_one_div_of_le (by norm_num) (by linarith)

/-- It is not negative. -/
theorem underflow_nonneg : 0 ≤ underflow :=
  one_div_nonneg.mpr (mul_nonneg zero_le_two cast_unitsPerOne_pos.le)

/-- A value is not negative. -/
theorem value_nonneg (units : Nat) : 0 ≤ value units :=
  div_nonneg (Nat.cast_nonneg _) (Nat.cast_nonneg _)

/-- Values are in the order of their units. -/
theorem value_le_value {a b : Nat} : value a ≤ value b ↔ a ≤ b := by
  rw [value, value, div_le_div_iff_of_pos_right cast_unitsPerOne_pos, Nat.cast_le]

/-- The units of a whole number stand for it. -/
theorem value_mul_unitsPerOne (n : Nat) : value (n * unitsPerOne) = n := by
  rw [value, Nat.cast_mul, mul_div_assoc, div_self cast_unitsPerOne_pos.ne', mul_one]

/-- Units that are added stand for the sum. -/
theorem value_add (a b : Nat) : value (a + b) = value a + value b := by
  rw [value, Nat.cast_add, add_div]
  rfl

/-- The whole number below a value. -/
theorem value_floor (units : Nat) :
    ((units / unitsPerOne : Nat) : ℚ) ≤ value units ∧
      value units < (units / unitsPerOne : Nat) + 1 := by
  have hdown : units / unitsPerOne * unitsPerOne ≤ units := Nat.div_mul_le_self _ _
  have hup : units < (units / unitsPerOne + 1) * unitsPerOne :=
    Nat.lt_mul_of_div_lt (Nat.lt_succ_self _) unitsPerOne_pos
  rw [value, le_div_iff₀ cast_unitsPerOne_pos, div_lt_iff₀ cast_unitsPerOne_pos]
  exact ⟨by exact_mod_cast hdown, by exact_mod_cast hup⟩

namespace Magnitude

/-! ## The operations -/

/-- A sum is rounded once. -/
theorem add_finite (a b : Nat) : (finite a).add b = nearest (a + b) 1 :=
  rfl

/-- A product is rounded once. -/
theorem mul_finite (a b : Nat) : (finite a).mul b = nearest (a * b) unitsPerOne :=
  rfl

/-- A finite product is a double. -/
theorem isDouble_of_mul {size : Magnitude} {b units : Nat} (h : size.mul b = finite units) :
    IsDouble units := by
  cases size with
  | finite a =>
    rw [mul_finite] at h
    exact isDouble_of_nearest _ h
  | infinite => cases h

/-- A quotient is rounded once. -/
theorem div_finite (a b : Nat) : (finite a).div b = nearest (a * unitsPerOne) b :=
  rfl

/-- A finite number is rounded down to a whole one. -/
theorem floor_finite (a : Nat) : (finite a).floor = finite (a / unitsPerOne * unitsPerOne) :=
  rfl

/-- The step around a quotient is at most one unit and one part in `2 ^ 52`. -/
theorem cast_spacing_le {quotient : ℚ} {n : Nat} (h : (n : ℚ) ≤ quotient) :
    (spacing n : ℚ) ≤ 1 + quotient / 2 ^ 52 := by
  rcases spacing_le n with hone | hle
  · have hquotient : 0 ≤ quotient := (Nat.cast_nonneg _).trans h
    rw [hone, Nat.cast_one]
    linarith [div_nonneg hquotient (by norm_num : (0 : ℚ) ≤ 2 ^ 52)]
  · have hle' : (spacing n : ℚ) * 2 ^ 52 ≤ n := by exact_mod_cast hle
    linarith

/-- A quotient is rounded to a number of units at most half a step away. -/
theorem abs_nearestUnits_sub_le (num : Nat) {den : Nat} (pos : 0 < den) :
    |(nearestUnits num den : ℚ) - num / den| ≤ num / den / 2 ^ 53 + 1 / 2 := by
  obtain ⟨hup, hdown⟩ := nearest_error num pos
  have hden : (0 : ℚ) < den := Nat.cast_pos.mpr pos
  have hspacing := cast_spacing_le (Nat.cast_div_le : ((num / den : Nat) : ℚ) ≤ num / den)
  have hup' : (2 * num : ℚ) ≤ 2 * (nearestUnits num den * den) + den * spacing (num / den) := by
    exact_mod_cast hup
  have hdown' : (2 * (nearestUnits num den * den) : ℚ) ≤ 2 * num + den * spacing (num / den) := by
    exact_mod_cast hdown
  have hnum : (num : ℚ) / den * den = num := div_mul_cancel₀ _ hden.ne'
  generalize (num : ℚ) / den = quotient at hspacing hnum ⊢
  generalize (spacing (num / den) : ℚ) = step at hspacing hup' hdown'
  have hlow : quotient ≤ nearestUnits num den + step / 2 := by
    refine le_of_mul_le_mul_right ?_ hden
    linarith
  have hhigh : (nearestUnits num den : ℚ) ≤ quotient + step / 2 := by
    refine le_of_mul_le_mul_right ?_ hden
    linarith
  rw [abs_le]
  constructor
  · linarith
  · linarith

/-- Rounding a quotient of units is off by at most one part in `2 ^ 53` and half a unit. -/
theorem isNear_nearestUnits (num : Nat) {den : Nat} (pos : 0 < den) :
    IsNear (nearestUnits num den) (num / den / unitsPerOne) := by
  have herror := abs_nearestUnits_sub_le num pos
  have hscale : value (nearestUnits num den) - num / den / unitsPerOne =
      (nearestUnits num den - num / den) / unitsPerOne := by
    rw [value, sub_div]
  have hbound : (num : ℚ) / den / unitsPerOne / 2 ^ 53 + underflow =
      (num / den / 2 ^ 53 + 1 / 2) / unitsPerOne := by
    rw [underflow, add_div, div_right_comm, div_div 1 2]
  rw [IsNear, hscale, hbound, abs_div, abs_of_pos cast_unitsPerOne_pos]
  exact div_le_div_of_nonneg_right herror cast_unitsPerOne_pos.le

end Magnitude

/-! ## Overflow -/

/-- The number of units half way between the greatest double and the power of two behind it. -/
def overflowUnits : Nat :=
  infiniteUnits - Nat.pow 2 2044

/-- The greatest double: a whole step in front of infinity, and half a step in front of what is
rounded to it. -/
def greatestUnits : Nat :=
  infiniteUnits - Nat.pow 2 2045

/-- The last step in front of infinity, as the sum of its halves. -/
theorem exists_half : ∃ half, unitsPerOne < half ∧ greatestUnits + half = overflowUnits ∧
    overflowUnits + half = infiniteUnits :=
  ⟨Nat.pow 2 2044, by decide +kernel⟩

/-- The greatest double is one. -/
theorem isDouble_greatestUnits : IsDouble greatestUnits :=
  ⟨by decide +kernel, by decide +kernel⟩

/-- It is the greatest. -/
theorem IsDouble.le_greatestUnits {units : Nat} (h : IsDouble units) : units ≤ greatestUnits := by
  have hinfinite : infiniteUnits = Nat.pow 2 53 * Nat.pow 2 2045 := by
    unfold infiniteUnits
    apply two_pow_eq_mul
    omega
  have hle := add_two_pow_le hinfinite h.spacing_dvd h.lt_infinite
  unfold greatestUnits
  apply Nat.le_sub_of_add_le
  exact hle

/-- Moderate numbers are far from infinity. -/
theorem lt_overflowUnits {units : Nat} (h : units ≤ Nat.pow 2 64 * unitsPerOne) :
    units < overflowUnits := by
  have hfar : Nat.pow 2 64 * unitsPerOne < overflowUnits := by decide +kernel
  exact Nat.lt_of_le_of_lt h hfar

namespace Magnitude

section Overflow

variable {num den : Nat} (pos : 0 < den)

include pos

/-- A quotient is rounded beyond the greatest double exactly from half way between that and the
power of two behind it. -/
theorem infiniteUnits_le_nearestUnits_iff :
    infiniteUnits ≤ nearestUnits num den ↔ overflowUnits * den ≤ num := by
  constructor
  · intro hle
    obtain ⟨half, hhalf, hgreatest, hinfinite⟩ := exists_half
    have hhalf := Nat.mul_pos (unitsPerOne_pos.trans hhalf) pos
    have hnear := dist_nearestUnits_le num pos isDouble_greatestUnits.spacing_dvd
    have hscaled := Nat.mul_le_mul_right den hle
    rw [← hinfinite, ← hgreatest] at hscaled
    rw [← hgreatest]
    simp only [Nat.add_mul] at hscaled ⊢
    unfold Nat.dist at hnear
    omega
  · intro hle
    have hmono : nearestUnits overflowUnits 1 ≤ nearestUnits num den :=
      nearestUnits_mono (by omega) Nat.one_pos pos
    have hlimit : nearestUnits overflowUnits 1 = infiniteUnits := by decide +kernel
    rwa [hlimit] at hmono

/-- A quotient is rounded to infinity exactly from half way between the greatest double and the
power of two behind it. -/
theorem nearest_eq_infinite_iff : nearest num den = infinite ↔ overflowUnits * den ≤ num := by
  rw [← infiniteUnits_le_nearestUnits_iff pos, nearest_eq]
  split
  · exact iff_of_true rfl ‹_›
  · exact iff_of_false Magnitude.noConfusion ‹_›

/-- Below that it is rounded to a finite double. -/
theorem nearest_eq_finite_of_lt (h : num < overflowUnits * den) :
    nearest num den = finite (nearestUnits num den) := by
  refine nearest_eq_finite (Nat.lt_of_not_le fun hle => ?_)
  exact Nat.not_le.mpr h ((infiniteUnits_le_nearestUnits_iff pos).mp hle)

end Overflow

end Magnitude
end Number
end Shelfmark
