import Shelfmark.Proofs.Number.Monotone

/-!
# Numbers - Whole numbers in double precision

A whole number goes through double precision unchanged exactly if it has at most 53 significant
bits.  Others are rounded: what is read is another whole number with so many bits, or infinity.

Main results:

- Theorem `isExact_roundHalfEven`: a double rounded to a whole number has at most 53 bits.
- Theorem `roundHalfEven_ofDecimal_iff`: a whole number is written as it was read exactly if it has
  at most 53 bits.
-/

namespace Shelfmark
namespace Number

/-- A whole number with at most 53 significant bits. -/
def IsExact (n : Nat) : Prop :=
  ∃ significand exponent, significand < 2 ^ 53 ∧ n = significand * 2 ^ exponent

/-- Small numbers have few bits. -/
theorem isExact_of_lt {n : Nat} (h : n < 2 ^ 53) : IsExact n :=
  ⟨n, 0, h, (Nat.mul_one n).symm⟩

/-- Units of whole numbers with at most 53 bits are on the grid. -/
theorem IsExact.spacing_dvd {n : Nat} (h : IsExact n) :
    spacing (n * unitsPerOne) ∣ n * unitsPerOne := by
  obtain ⟨significand, exponent, hlt, rfl⟩ := h
  have hsplit : Nat.pow 2 (exponent + 1074) = Nat.pow 2 exponent * unitsPerOne := by
    unfold unitsPerOne
    apply two_pow_eq_mul
    rfl
  rw [Nat.mul_assoc, ← Nat.pow_eq, ← hsplit]
  exact spacing_dvd_of_le hlt.le

/-- The double nearest to a whole number with at most 53 bits is that number. -/
theorem IsExact.nearestUnits_eq {n : Nat} (h : IsExact n) :
    Magnitude.nearestUnits (n * unitsPerOne) 1 = n * unitsPerOne := by
  have hnear := Magnitude.dist_nearestUnits_le (n * unitsPerOne) Nat.one_pos h.spacing_dvd
  rw [Nat.mul_one, Nat.mul_one, Nat.dist_self] at hnear
  exact Nat.eq_of_dist_eq_zero (Nat.le_zero.mp hnear)

/-- A double rounded to a whole number has at most 53 bits. -/
theorem isExact_roundHalfEven {units : Nat} (h : spacing units ∣ units) :
    IsExact (roundHalfEven units unitsPerOne) := by
  by_cases hlarge : 1126 ≤ units.log2
  · -- All doubles of this size are whole numbers.
    have hspacing : spacing units = Nat.pow 2 (units.log2 - 1126) * unitsPerOne := by
      unfold spacing unitsPerOne
      apply two_pow_eq_mul
      omega
    have hlt := Magnitude.div_spacing_lt units 1
    rw [Nat.div_one, Nat.one_mul] at hlt
    have hunits : units = units / spacing units * Nat.pow 2 (units.log2 - 1126) * unitsPerOne := by
      rw [Nat.mul_assoc, ← hspacing, Nat.div_mul_cancel h]
    refine ⟨units / spacing units, units.log2 - 1126, hlt, ?_⟩
    conv_lhs => rw [hunits]
    exact roundHalfEven_mul_right _ _ unitsPerOne_pos
  · have hbound : units ≤ Nat.pow 2 52 * unitsPerOne := by
      have hpow {bits : Nat} (hbits : units.log2 + 1 ≤ bits) : units ≤ Nat.pow 2 bits :=
        (Nat.lt_of_lt_of_le Nat.lt_log2_self (Nat.pow_le_pow_right Nat.zero_lt_two hbits)).le
      have hsplit : Nat.pow 2 1126 = Nat.pow 2 52 * unitsPerOne := by
        unfold unitsPerOne
        apply two_pow_eq_mul
        omega
      rw [← hsplit]
      apply hpow
      omega
    have hround := roundHalfEven_mono hbound unitsPerOne_pos
    rw [roundHalfEven_mul_right _ _ unitsPerOne_pos] at hround
    exact isExact_of_lt (Nat.lt_of_le_of_lt hround (two_pow_lt 52 53 (Nat.lt_succ_self 52)))

/-- A whole number is written as it was read exactly if it has at most 53 bits. -/
theorem roundHalfEven_ofDecimal_iff {n units : Nat}
    (h : Magnitude.ofDecimal n 0 = .finite units) :
    roundHalfEven units unitsPerOne = n ↔ IsExact n := by
  constructor
  · rintro rfl
    exact isExact_roundHalfEven (Magnitude.isDouble_of_ofDecimal h).spacing_dvd
  · intro hexact
    have hread : Magnitude.ofDecimal n (-((0 : Nat) : Int)) = .finite units := h
    have hunits := Magnitude.eq_nearestUnits_of_ofDecimal hread
    rw [Nat.pow_zero] at hunits
    rw [hunits, hexact.nearestUnits_eq]
    exact roundHalfEven_mul_right _ _ unitsPerOne_pos

end Number
end Shelfmark
