import Mathlib.Tactic.Linarith
import Mathlib.Tactic.Ring
import Shelfmark.Proofs.Number.Binary64

/-!
# Numbers - Decimals through double precision

A class number is read into double precision and printed from it.  Reading is off
by at most half the distance of neighbouring doubles, and printing takes the
nearest decimal, so a decimal is printed as it was read whenever that distance is
small beside the last place printed.

Main results:

- Theorem `roundHalfEven_error`: rounding is off by at most a half.
- Theorem `roundHalfEven_eq_of_near`: a whole number nearer than a half is the result.
- Theorem `Magnitude.nearest_error`: the error of rounding to a double.
- Theorem `Magnitude.ofDecimal_eq_nearest`: a decimal is read as the double nearest to it.
- Theorem `Magnitude.roundHalfEven_ofDecimal`: decimals of up to fifteen digits survive
  reading and printing.
- Theorem `Magnitude.ofDecimal_finite`: a decimal below one thousand is finite.
-/

namespace Shelfmark
namespace Number

/-! ## Rounding a quotient -/

/-- Rounding a quotient is off by at most a half. -/
theorem roundHalfEven_error (num : Nat) {den : Nat} (pos : 0 < den) :
    2 * num ≤ 2 * (roundHalfEven num den * den) + den ∧
      2 * (roundHalfEven num den * den) ≤ 2 * num + den := by
  have hdiv : num = num / den * den + num % den := (Nat.div_add_mod' num den).symm
  have hmod : num % den < den := Nat.mod_lt _ pos
  have hup : (num / den + 1) * den = num / den * den + den := by ring
  unfold roundHalfEven
  simp only
  split
  · omega
  · split
    · rw [hup]
      omega
    · split
      · omega
      · rw [hup]
        omega

/-- A whole number that is nearer to a quotient than a half is its rounding. -/
theorem roundHalfEven_eq_of_near {num den n : Nat} (hlow : 2 * num < 2 * (n * den) + den)
    (hhigh : 2 * (n * den) < 2 * num + den) : roundHalfEven num den = n := by
  have pos : 0 < den := by
    rcases Nat.eq_zero_or_pos den with h | h
    · subst h
      omega
    · exact h
  obtain ⟨hup, hdown⟩ := roundHalfEven_error num pos
  -- The rounding and the number are multiples of `den` less than `den` apart.
  rcases lt_trichotomy (roundHalfEven num den) n with h | h | h
  · have hle := Nat.mul_le_mul_right den h
    rw [Nat.succ_mul] at hle
    omega
  · exact h
  · have hle := Nat.mul_le_mul_right den h
    rw [Nat.succ_mul] at hle
    omega

/-! ## Rounding to a double -/

namespace Magnitude

/-- The number of units to which a quotient is rounded, before it is compared with infinity. -/
def nearestUnits (num den : Nat) : Nat :=
  roundHalfEven num (den * spacing (num / den)) * spacing (num / den)

/-- A quotient is rounded to a number of units, or to infinity if these are too many. -/
theorem nearest_eq (num den : Nat) :
    nearest num den =
      if infiniteUnits ≤ nearestUnits num den then infinite
      else finite (nearestUnits num den) := by
  rw [nearest, nearestUnits]

/-- A quotient that is not too large is rounded to a finite number of units. -/
theorem nearest_eq_finite {num den : Nat} (h : nearestUnits num den < infiniteUnits) :
    nearest num den = finite (nearestUnits num den) := by
  rw [nearest_eq, if_neg (Nat.not_le.mpr h)]

/-- What is less than half a unit is rounded to zero. -/
theorem nearest_eq_zero {num den : Nat} (h : 2 * num < den) : nearest num den = finite 0 := by
  have hquotient : num / den = 0 := Nat.div_eq_of_lt (by omega)
  have hround : roundHalfEven num (den * spacing (num / den)) = 0 := by
    have hone : spacing 0 = 1 := rfl
    rw [hquotient, hone, Nat.mul_one]
    exact roundHalfEven_eq_of_near (by omega) (by omega)
  have hunits : nearestUnits num den = 0 := by rw [nearestUnits, hround, Nat.zero_mul]
  rw [nearest_eq_finite (by rw [hunits]; exact lt_infiniteUnits (Nat.zero_le _)), hunits]

/-- Rounding to a double is off by at most half the distance of neighbouring doubles. -/
theorem nearest_error (num : Nat) {den : Nat} (pos : 0 < den) :
    2 * num ≤ 2 * (nearestUnits num den * den) + den * spacing (num / den) ∧
      2 * (nearestUnits num den * den) ≤ 2 * num + den * spacing (num / den) := by
  have hstep := Nat.mul_pos pos (spacing_pos (num / den))
  have hunits : roundHalfEven num (den * spacing (num / den)) * (den * spacing (num / den)) =
      nearestUnits num den * den := by
    unfold nearestUnits
    ring
  have herror := roundHalfEven_error num hstep
  rw [hunits] at herror
  exact herror

/-! ## Decimals -/

/-- The distance of doubles around a decimal of at most 52 bits is small beside its last place. -/
theorem spacing_mul_lt {digits fraction places : Nat} (hfraction : fraction ≤ places)
    (hplaces : places ≤ 256) (hsize : digits * 10 ^ (places - fraction) < 2 ^ 52) :
    spacing (digits * unitsPerOne / 10 ^ fraction) * 10 ^ places < unitsPerOne := by
  rcases spacing_le (digits * unitsPerOne / 10 ^ fraction) with hone | hle
  · rw [hone, Nat.one_mul]
    exact ten_pow_lt_unitsPerOne hplaces
  · have hscale : 10 ^ places = 10 ^ fraction * 10 ^ (places - fraction) := by
      rw [← Nat.pow_add, Nat.add_sub_cancel' hfraction]
    have hmul := (Nat.le_div_iff_mul_le (Nat.pow_pos (by omega))).mp hle
    have hscaled := Nat.mul_le_mul_right (10 ^ (places - fraction)) hmul
    have hbound := Nat.mul_lt_mul_of_pos_right hsize unitsPerOne_pos
    refine Nat.lt_of_mul_lt_mul_left (a := 2 ^ 52) ?_
    calc 2 ^ 52 * (spacing (digits * unitsPerOne / 10 ^ fraction) * 10 ^ places)
        = spacing (digits * unitsPerOne / 10 ^ fraction) * 2 ^ 52 * 10 ^ fraction *
            10 ^ (places - fraction) := by rw [hscale]; ring
      _ ≤ digits * unitsPerOne * 10 ^ (places - fraction) := hscaled
      _ = digits * 10 ^ (places - fraction) * unitsPerOne := by ring
      _ < 2 ^ 52 * unitsPerOne := hbound

/-- A decimal is read as the double nearest to it, if it has at most 400 digits in front of the
point. -/
theorem ofDecimal_eq_nearest {digits fraction : Nat} (h : digits < 10 ^ (400 + fraction)) :
    ofDecimal digits (-(fraction : Int)) = nearest (digits * unitsPerOne) (10 ^ fraction) := by
  have hlength : (Nat.toDigits 10 digits).length ≤ 400 + fraction :=
    (Nat.length_toDigits_le_iff (by omega) (by omega)).mpr h
  unfold ofDecimal
  by_cases hdigits : digits = 0
  · rw [if_pos hdigits, hdigits, Nat.zero_mul]
    exact (nearest_eq_zero (Nat.pow_pos (by omega))).symm
  · rw [if_neg hdigits]
    simp only
    rw [if_neg (by omega)]
    split
    · -- The decimal is nearer to zero than to the smallest double.
      have hsmall : digits < 10 ^ (Nat.toDigits 10 digits).length :=
        (Nat.length_toDigits_le_iff (by omega) Nat.length_toDigits_pos).mp (Nat.le_refl _)
      refine (nearest_eq_zero ?_).symm
      calc 2 * (digits * unitsPerOne)
          = digits * (2 * unitsPerOne) := Nat.mul_left_comm _ _ _
        _ < 10 ^ (Nat.toDigits 10 digits).length * 10 ^ (fraction - (Nat.toDigits 10 digits).length) :=
            Nat.mul_lt_mul_of_lt_of_le hsmall (two_mul_unitsPerOne_le (by omega))
              (Nat.pow_pos (by omega))
        _ = 10 ^ fraction := by rw [← Nat.pow_add, Nat.add_sub_cancel' (by omega)]
    · split
      · have hzero : fraction = 0 := by omega
        subst hzero
        simp
      · simp

/-- Decimals survive double precision.  A decimal that makes at most 52 bits with all places
printed is read as a finite double, and rounding that double to these places gives it back. -/
theorem roundHalfEven_ofDecimal {digits fraction places : Nat} (hfraction : fraction ≤ places)
    (hplaces : places ≤ 256) (hsize : digits * 10 ^ (places - fraction) < 2 ^ 52) :
    ∃ units, ofDecimal digits (-(fraction : Int)) = finite units ∧
      roundHalfEven (units * 10 ^ places) unitsPerOne = digits * 10 ^ (places - fraction) := by
  have hscalepos : 0 < 10 ^ (places - fraction) := Nat.pow_pos (by omega)
  have hdigits : digits < 2 ^ 52 :=
    Nat.lt_of_le_of_lt (Nat.le_mul_of_pos_right _ hscalepos) hsize
  have hlength : digits < 10 ^ (400 + fraction) :=
    calc digits < 10 ^ 16 := by omega
      _ ≤ 10 ^ (400 + fraction) := Nat.pow_le_pow_right (by omega) (by omega)
  rw [ofDecimal_eq_nearest hlength]
  have hscale : 10 ^ fraction * 10 ^ (places - fraction) = 10 ^ places := by
    rw [← Nat.pow_add, Nat.add_sub_cancel' hfraction]
  have hstep := spacing_mul_lt hfraction hplaces hsize
  obtain ⟨hup, hdown⟩ := nearest_error (digits * unitsPerOne)
    (Nat.pow_pos (by omega) : 0 < 10 ^ fraction)
  generalize spacing (digits * unitsPerOne / 10 ^ fraction) = step at hstep hup hdown
  generalize hunits : nearestUnits (digits * unitsPerOne) (10 ^ fraction) = units at hup hdown
  -- Scaled to the places printed, the error is less than half a unit of the last place.
  have hlow := Nat.mul_le_mul_right (10 ^ (places - fraction)) hup
  have hhigh := Nat.mul_le_mul_right (10 ^ (places - fraction)) hdown
  rw [← hscale] at hstep
  have hround : roundHalfEven (units * 10 ^ places) unitsPerOne =
      digits * 10 ^ (places - fraction) := by
    rw [← hscale]
    refine roundHalfEven_eq_of_near ?_ ?_
    · linarith
    · linarith
  have hfinite : units < infiniteUnits := by
    refine lt_infiniteUnits ?_
    have hone : 1 ≤ 10 ^ fraction * 10 ^ (places - fraction) := by
      rw [hscale]
      exact Nat.pow_pos (by omega)
    have hunits := Nat.le_mul_of_pos_right units hone
    have hvalue := Nat.mul_lt_mul_of_pos_right hsize unitsPerOne_pos
    linarith
  refine ⟨units, ?_, hround⟩
  rw [nearest_eq_finite (by rw [hunits]; exact hfinite), hunits]

/-- A decimal below one thousand is read as a finite double, however many digits it has. -/
theorem ofDecimal_finite {digits fraction : Nat} (h : digits < 1000 * 10 ^ fraction) :
    ∃ units, ofDecimal digits (-(fraction : Int)) = finite units := by
  have hpow : 0 < 10 ^ fraction := Nat.pow_pos (by omega)
  have hlength : digits < 10 ^ (400 + fraction) :=
    calc digits < 10 ^ (3 + fraction) := by rwa [Nat.pow_add]
      _ ≤ 10 ^ (400 + fraction) := Nat.pow_le_pow_right (by omega) (by omega)
  have hnum : digits * unitsPerOne < 1000 * unitsPerOne * 10 ^ fraction := by
    have hmul := Nat.mul_lt_mul_of_pos_right h unitsPerOne_pos
    linarith
  rw [ofDecimal_eq_nearest hlength]
  refine ⟨_, nearest_eq_finite (lt_infiniteUnits ?_)⟩
  have hquotient : digits * unitsPerOne / 10 ^ fraction < 1000 * unitsPerOne :=
    (Nat.div_lt_iff_lt_mul hpow).mpr hnum
  have hspacing : spacing (digits * unitsPerOne / 10 ^ fraction) ≤ 1000 * unitsPerOne := by
    have hpos := unitsPerOne_pos
    rcases spacing_le (digits * unitsPerOne / 10 ^ fraction) with hone | hle
    · omega
    · omega
  obtain ⟨-, hdown⟩ := nearest_error (digits * unitsPerOne) hpow
  have hstep := Nat.mul_le_mul_left (10 ^ fraction) hspacing
  refine Nat.le_of_mul_le_mul_right ?_ hpow
  have hpos := Nat.mul_pos unitsPerOne_pos hpow
  have hbound : Nat.pow 2 64 = 18446744073709551616 := rfl
  rw [hbound]
  nlinarith only [hdown, hstep, hnum, hpos]

end Magnitude
end Number
end Shelfmark
