import Mathlib.Algebra.Group.Nat.Defs
import Shelfmark.Number.Binary64

/-!
# Numbers - The grid of doubles

Doubles are whole numbers of units, and how far apart two of them are follows from their
size.  The bounds here keep the powers of two and ten in question symbolic.

Main results:

- Theorem `lt_infiniteUnits`: infinity begins far beyond `2 ^ 64`.
- Theorem `ten_pow_lt_unitsPerOne`: moderate powers of ten are less than the units in one.
- Theorem `spacing_le`: doubles are close to each other beside their size.
-/

namespace Shelfmark
namespace Number

/-! ## Powers of two -/

/-- A power of two is positive. -/
theorem two_pow_pos (a : Nat) : 0 < Nat.pow 2 a :=
  Nat.two_pow_pos a

/-- A power of two splits with its exponent. -/
theorem two_pow_eq_mul (a b c : Nat) (h : a + b = c) :
    Nat.pow 2 c = Nat.pow 2 a * Nat.pow 2 b := by
  rw [← h]
  exact Nat.pow_add 2 a b

/-- Powers of two ascend with their exponents. -/
theorem two_pow_lt (a b : Nat) (h : a < b) : Nat.pow 2 a < Nat.pow 2 b :=
  Nat.pow_lt_pow_right Nat.one_lt_two h

/-- Three bits are less than a decimal digit. -/
theorem two_pow_le_ten_pow {a b : Nat} (h : a ≤ 3 * b) : Nat.pow 2 a ≤ 10 ^ b :=
  calc 2 ^ a ≤ 2 ^ (3 * b) := Nat.pow_le_pow_right Nat.zero_lt_two h
    _ = (2 ^ 3) ^ b := Nat.pow_mul 2 3 b
    _ ≤ 10 ^ b := Nat.pow_le_pow_left (by omega) b

/-! ## Units and spacing -/

/-- There are units in one. -/
theorem unitsPerOne_pos : 0 < unitsPerOne := by
  unfold unitsPerOne
  apply two_pow_pos

/-- Infinity begins at `2 ^ 1024`. -/
theorem infiniteUnits_eq : infiniteUnits = Nat.pow 2 1024 * unitsPerOne := by
  unfold infiniteUnits unitsPerOne
  apply two_pow_eq_mul
  omega

/-- Infinity begins far beyond `2 ^ 64`. -/
theorem lt_infiniteUnits {units : Nat} (h : units ≤ Nat.pow 2 64 * unitsPerOne) :
    units < infiniteUnits := by
  have hpow : Nat.pow 2 64 < Nat.pow 2 1024 := by
    apply two_pow_lt
    omega
  rw [infiniteUnits_eq]
  apply Nat.lt_of_le_of_lt h
  apply Nat.mul_lt_mul_of_pos_right
  · exact hpow
  · exact unitsPerOne_pos

/-- Powers of ten with a moderate exponent are less than the units in one. -/
theorem ten_pow_lt_unitsPerOne {places : Nat} (h : places ≤ 256) : 10 ^ places < unitsPerOne := by
  have hle : 10 ^ places ≤ (2 ^ 4) ^ places := Nat.pow_le_pow_left (by omega) places
  have hlt : (2 ^ 4) ^ places < unitsPerOne := by
    rw [← Nat.pow_mul]
    unfold unitsPerOne
    apply two_pow_lt
    omega
  exact Nat.lt_of_le_of_lt hle hlt

/-- Great powers of ten exceed twice the units in one. -/
theorem two_mul_unitsPerOne_le {places : Nat} (h : 400 ≤ places) :
    2 * unitsPerOne ≤ 10 ^ places := by
  have hsplit : Nat.pow 2 1075 = Nat.pow 2 1 * unitsPerOne := by
    unfold unitsPerOne
    apply two_pow_eq_mul
    omega
  have htwo : Nat.pow 2 1 = 2 := rfl
  rw [htwo] at hsplit
  rw [← hsplit]
  apply two_pow_le_ten_pow
  omega

/-- Infinity has fewer than 400 digits in front of the point. -/
theorem infiniteUnits_mul_le (places : Nat) :
    infiniteUnits * 10 ^ places ≤ 10 ^ (400 + places) * unitsPerOne := by
  have hpower : Nat.pow 2 1024 * 10 ^ places ≤ 10 ^ (400 + places) := by
    rw [Nat.pow_add]
    apply Nat.mul_le_mul_right
    apply two_pow_le_ten_pow
    omega
  rw [infiniteUnits_eq]
  generalize Nat.pow 2 1024 = power at hpower ⊢
  rw [Nat.mul_right_comm]
  exact Nat.mul_le_mul_right unitsPerOne hpower

/-- There is something between two doubles. -/
theorem spacing_pos (units : Nat) : 0 < spacing units :=
  two_pow_pos (units.log2 - 52)

/-- Doubles are one unit apart, or so little that `2 ^ 52` steps do not exceed their size. -/
theorem spacing_le (units : Nat) : spacing units = 1 ∨ spacing units * 2 ^ 52 ≤ units := by
  unfold spacing
  by_cases hsmall : units.log2 ≤ 52
  · left
    rw [Nat.sub_eq_zero_of_le hsmall]
  · right
    have hne : units ≠ 0 := by
      rintro rfl
      simp at hsmall
    rw [Nat.pow_eq, ← Nat.pow_add, Nat.sub_add_cancel (by omega)]
    exact Nat.log2_self_le hne

end Number
end Shelfmark
