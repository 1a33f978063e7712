import Shelfmark.Proofs.Number.Nearest

/-!
# Numbers - Order through double precision

Of two decimals the greater one is not read as the smaller double, and not printed as the smaller
decimal.  This needs no more of rounding than that nothing on the grid is nearer than the result:
if two results were in the wrong order, both quotients would have to be half way between them, and
so be the same quotient.

Main results:

- Theorem `eq_of_crossed`: quotients whose nearest points are in the wrong order are equal.
- Theorem `roundHalfEven_mono`: greater numbers are not rounded to smaller ones.
- Theorem `Magnitude.nearestUnits_mono`: greater quotients are not rounded to smaller doubles.
- Theorem `Magnitude.ofDecimal_mono`: greater decimals are not read as smaller doubles.
-/

namespace Shelfmark
namespace Number

section Quotients

variable {num num' den den' : Nat}

/-! ## Points that are as near as any other -/

/-- If the greater of two points is as near to a quotient as the smaller one, and the smaller one as
near to a quotient that is not less, then both quotients are half way between the points. -/
theorem eq_of_crossed {m n : Nat} (hle : num * den' ≤ num' * den) (hlt : n < m)
    (hm : Nat.dist (m * den) num ≤ Nat.dist (n * den) num)
    (hn : Nat.dist (n * den') num' ≤ Nat.dist (m * den') num') (pos : 0 < den) (pos' : 0 < den') :
    num * den' = num' * den := by
  have hlow : (m + n) * den ≤ 2 * num := by
    have hstep := Nat.mul_lt_mul_of_pos_right hlt pos
    rw [Nat.add_mul]
    unfold Nat.dist at hm
    omega
  have hhigh : 2 * num' ≤ (m + n) * den' := by
    have hstep := Nat.mul_lt_mul_of_pos_right hlt pos'
    rw [Nat.add_mul]
    unfold Nat.dist at hn
    omega
  have hback : 2 * (num' * den) ≤ 2 * (num * den') :=
    calc 2 * (num' * den) = 2 * num' * den := (Nat.mul_assoc 2 num' den).symm
      _ ≤ (m + n) * den' * den := Nat.mul_le_mul_right den hhigh
      _ = (m + n) * den * den' := Nat.mul_right_comm _ _ _
      _ ≤ 2 * num * den' := Nat.mul_le_mul_right den' hlow
      _ = 2 * (num * den') := Nat.mul_assoc 2 num den'
  omega

/-! ## Rounding to whole numbers -/

/-- The rounding of a quotient does not change when it is expanded. -/
theorem roundHalfEven_mul_mul (num den : Nat) {k : Nat} (pos : 0 < k) :
    roundHalfEven (num * k) (den * k) = roundHalfEven num den := by
  have hlt (a b : Nat) : a * k < b * k ↔ a < b := Nat.mul_lt_mul_right pos
  unfold roundHalfEven
  rw [Nat.mul_div_mul_right _ _ pos, Nat.mul_mod_mul_right, ← Nat.mul_assoc]
  simp only [hlt]

/-- Greater numbers are not rounded to smaller ones. -/
theorem roundHalfEven_mono (h : num ≤ num') (pos : 0 < den) :
    roundHalfEven num den ≤ roundHalfEven num' den := by
  by_contra hlt
  have heq := eq_of_crossed (Nat.mul_le_mul_right den h) (Nat.lt_of_not_le hlt)
    (dist_roundHalfEven_le num pos _) (dist_roundHalfEven_le num' pos _) pos pos
  rw [Nat.eq_of_mul_eq_mul_right pos heq] at hlt
  exact hlt (Nat.le_refl _)

/-! ## Rounding to doubles -/

namespace Magnitude

/-- The double nearest to a quotient does not change when the quotient is expanded. -/
theorem nearestUnits_mul_mul (num den : Nat) {k : Nat} (pos : 0 < k) :
    nearestUnits (num * k) (den * k) = nearestUnits num den := by
  unfold nearestUnits
  rw [Nat.mul_div_mul_right _ _ pos, Nat.mul_right_comm, roundHalfEven_mul_mul _ _ pos]

/-- Greater quotients are not rounded to smaller doubles. -/
theorem nearestUnits_mono (h : num * den' ≤ num' * den) (pos : 0 < den) (pos' : 0 < den') :
    nearestUnits num den ≤ nearestUnits num' den' := by
  by_contra hlt
  have heq := eq_of_crossed h (Nat.lt_of_not_le hlt)
    (dist_nearestUnits_le num pos (spacing_dvd_nearestUnits num'))
    (dist_nearestUnits_le num' pos' (spacing_dvd_nearestUnits num)) pos pos'
  have hsame : nearestUnits num den = nearestUnits num' den' :=
    calc nearestUnits num den
        = nearestUnits (num * den') (den * den') := (nearestUnits_mul_mul num den pos').symm
      _ = nearestUnits (num' * den) (den' * den) := by rw [heq, Nat.mul_comm den]
      _ = nearestUnits num' den' := nearestUnits_mul_mul num' den' pos
  exact hlt (Nat.le_of_eq hsame)

end Magnitude

end Quotients

/-! ## Reading decimals -/

namespace Magnitude

variable {digits digits' fraction fraction' units units' : Nat}

/-- A decimal that is read as a finite double has at most 400 digits in front of the point. -/
theorem lt_ten_pow_of_ofDecimal (h : ofDecimal digits (-(fraction : Int)) = finite units) :
    digits < 10 ^ (400 + fraction) := by
  by_contra hlarge
  have hmany : 400 + fraction < (Nat.toDigits 10 digits).length := by
    rw [← Nat.not_le, Nat.length_toDigits_le_iff (by omega) (by omega)]
    exact hlarge
  have hne : digits ≠ 0 := by
    rintro rfl
    exact hlarge (Nat.pow_pos (by omega))
  rw [ofDecimal, if_neg hne] at h
  simp only at h
  rw [if_pos (by omega)] at h
  exact Magnitude.noConfusion h

/-- A decimal that is read as a finite double is read as the nearest one. -/
theorem eq_nearestUnits_of_ofDecimal (h : ofDecimal digits (-(fraction : Int)) = finite units) :
    units = nearestUnits (digits * unitsPerOne) (10 ^ fraction) := by
  rw [ofDecimal_eq_nearest (lt_ten_pow_of_ofDecimal h), nearest_eq] at h
  split at h
  · exact Magnitude.noConfusion h
  · exact (finite.inj h).symm

/-- Greater decimals are not read as smaller doubles. -/
theorem ofDecimal_mono (h : ofDecimal digits (-(fraction : Int)) = finite units)
    (h' : ofDecimal digits' (-(fraction' : Int)) = finite units')
    (hle : digits * 10 ^ fraction' ≤ digits' * 10 ^ fraction) : units ≤ units' := by
  have hcross : digits * unitsPerOne * 10 ^ fraction' ≤ digits' * unitsPerOne * 10 ^ fraction := by
    have hmul := Nat.mul_le_mul_right unitsPerOne hle
    rwa [Nat.mul_right_comm, Nat.mul_right_comm digits'] at hmul
  rw [eq_nearestUnits_of_ofDecimal h, eq_nearestUnits_of_ofDecimal h']
  exact nearestUnits_mono hcross (Nat.pow_pos (by omega)) (Nat.pow_pos (by omega))

end Magnitude
end Number
end Shelfmark
