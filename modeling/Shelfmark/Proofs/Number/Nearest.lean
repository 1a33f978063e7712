import Mathlib.Data.Nat.Dist
import Shelfmark.Number.Numeral
import Shelfmark.Proofs.Number.Rounding

/-!
# Numbers - Nearest doubles

A decimal printed from a double is near that double, and reading it takes the double nearest to
the decimal.  That one is at least as near as the first, so it is printed as the same decimal.

Main results:

- Theorem `roundHalfEven_eq_iff`: a rounding is nearer than a half, or as near and even.
- Theorem `isDouble_of_nearest`: what is rounded to a double is one.
- Theorem `Magnitude.dist_nearestUnits_le`: no double is nearer than the one rounded to.
- Theorem `Magnitude.roundHalfEven_ofDecimal_of_isDouble`: a decimal printed from a double is
  printed again from the double it is read as.
-/

namespace Shelfmark
namespace Number

/-! ## Nearest whole numbers -/

/-- Different multiples are at least one step apart, also by way of another number. -/
theorem le_dist_add_dist (num step : Nat) {m n : Nat} (h : m ≠ n) :
    step ≤ Nat.dist (m * step) num + Nat.dist (n * step) num :=
  calc step ≤ Nat.dist m n * step := Nat.le_mul_of_pos_left step (Nat.dist_pos_of_ne h)
    _ = Nat.dist (m * step) (n * step) := (Nat.dist_mul_right m step n).symm
    _ ≤ Nat.dist (m * step) num + Nat.dist num (n * step) :=
        Nat.dist.triangle_inequality (m * step) num (n * step)
    _ = Nat.dist (m * step) num + Nat.dist (n * step) num := by rw [Nat.dist_comm num]

section Quotient

variable (num : Nat) {den : Nat}

/-- Rounding a quotient is off by at most a half. -/
theorem two_mul_dist_roundHalfEven_le (pos : 0 < den) :
    2 * Nat.dist (roundHalfEven num den * den) num ≤ den := by
  obtain ⟨hup, hdown⟩ := roundHalfEven_error num pos
  unfold Nat.dist
  omega

/-- No multiple is nearer than the rounded one. -/
theorem dist_roundHalfEven_le (pos : 0 < den) (n : Nat) :
    Nat.dist (roundHalfEven num den * den) num ≤ Nat.dist (n * den) num := by
  rcases eq_or_ne (roundHalfEven num den) n with rfl | hne
  · exact Nat.le_refl _
  · have hhalf := two_mul_dist_roundHalfEven_le num pos
    have hstep := le_dist_add_dist num den hne
    omega

/-- A quotient half way between two whole numbers is rounded to the even one. -/
theorem even_roundHalfEven_of_tie (pos : 0 < den)
    (h : 2 * Nat.dist (roundHalfEven num den * den) num = den) :
    Even (roundHalfEven num den) := by
  have hdiv : num = num / den * den + num % den := (Nat.div_add_mod' num den).symm
  have hmod : num % den < den := Nat.mod_lt num pos
  have hup : (num / den + 1) * den = num / den * den + den := Nat.succ_mul _ _
  rw [Nat.even_iff]
  unfold Nat.dist roundHalfEven at *
  simp only at h ⊢
  split_ifs at h ⊢ <;> omega

/-- The rounding of a quotient is the whole number that is nearer than a half, or as near as a
half and even. -/
theorem roundHalfEven_eq_iff (pos : 0 < den) {n : Nat} :
    roundHalfEven num den = n ↔
      2 * Nat.dist (n * den) num < den ∨ 2 * Nat.dist (n * den) num = den ∧ Even n := by
  constructor
  · rintro rfl
    rcases Nat.lt_or_eq_of_le (two_mul_dist_roundHalfEven_le num pos) with hlt | heq
    · exact Or.inl hlt
    · exact Or.inr ⟨heq, even_roundHalfEven_of_tie num pos heq⟩
  · intro h
    by_contra hne
    have hnear := dist_roundHalfEven_le num pos n
    have hstep := le_dist_add_dist num den hne
    -- Both are half a step away, on either side, and so neighbours and both even.
    have hhalf : 2 * Nat.dist (n * den) num = den := by omega
    have hround : 2 * Nat.dist (roundHalfEven num den * den) num = den := by omega
    have heven := even_roundHalfEven_of_tie num pos hround
    have hneven : Even n := h.resolve_left (by omega) |>.2
    have hdist : Nat.dist (roundHalfEven num den) n * den ≤ 1 * den := by
      rw [← Nat.dist_mul_right]
      have htriangle := Nat.dist.triangle_inequality (roundHalfEven num den * den) num (n * den)
      rw [Nat.dist_comm num] at htriangle
      omega
    have hone := Nat.le_of_mul_le_mul_right hdist pos
    rw [Nat.even_iff] at heven hneven
    unfold Nat.dist at hone
    omega

end Quotient

/-! ## The grid -/

/-- The units of a finite double: a multiple of the distance of doubles around it, and not
beyond all of them. -/
structure IsDouble (units : Nat) : Prop where
  spacing_dvd : spacing units ∣ units
  lt_infinite : units < infiniteUnits

/-- A significand of up to 53 bits, shifted, is on the grid. -/
theorem spacing_dvd_of_le {significand exponent : Nat} (h : significand ≤ 2 ^ 53) :
    spacing (significand * 2 ^ exponent) ∣ significand * 2 ^ exponent := by
  rcases Nat.eq_zero_or_pos significand with rfl | hpos
  · rw [Nat.zero_mul]
    exact Nat.dvd_zero _
  have hne : significand * 2 ^ exponent ≠ 0 := (Nat.mul_pos hpos (Nat.two_pow_pos _)).ne'
  unfold spacing
  rw [Nat.pow_eq]
  rcases Nat.lt_or_eq_of_le h with hlt | rfl
  · have hlog : (significand * 2 ^ exponent).log2 < 53 + exponent := by
      rw [Nat.log2_lt hne, Nat.pow_add]
      exact Nat.mul_lt_mul_of_pos_right hlt (Nat.two_pow_pos _)
    exact (Nat.pow_dvd_pow 2 (by omega)).trans (Nat.dvd_mul_left _ _)
  · rw [← Nat.pow_add, Nat.log2_two_pow]
    exact Nat.pow_dvd_pow 2 (by omega)

/-- A double off a coarser grid lies below that grid, which begins with a power of two. -/
theorem le_of_not_spacing_dvd {units quotient : Nat} (h : spacing units ∣ units)
    (hnot : ¬ spacing quotient ∣ units) :
    2 ^ 52 * spacing quotient ≤ quotient ∧ units ≤ 2 ^ 52 * spacing quotient := by
  have hlog : units.log2 - 52 < quotient.log2 - 52 :=
    lt_of_not_ge fun hle => hnot ((Nat.pow_dvd_pow 2 hle).trans h)
  constructor
  · rw [Nat.mul_comm]
    refine (spacing_le quotient).resolve_left fun hone => hnot ?_
    rw [hone]
    exact Nat.one_dvd units
  · calc units ≤ 2 ^ (units.log2 + 1) := Nat.lt_log2_self.le
      _ ≤ 2 ^ (52 + (quotient.log2 - 52)) := Nat.pow_le_pow_right Nat.zero_lt_two (by omega)
      _ = 2 ^ 52 * spacing quotient := Nat.pow_add 2 52 _

namespace Magnitude

/-- A quotient is less than `2 ^ 53` steps. -/
theorem div_spacing_lt (num den : Nat) : num / (den * spacing (num / den)) < 2 ^ 53 := by
  rw [← Nat.div_div_eq_div_mul]
  refine (Nat.div_lt_iff_lt_mul (spacing_pos _)).mpr ?_
  refine Nat.lt_of_lt_of_le (Nat.lt_log2_self (n := num / den)) ?_
  unfold spacing
  rw [Nat.pow_eq, ← Nat.pow_add]
  exact Nat.pow_le_pow_right Nat.zero_lt_two (by omega)

variable (num : Nat) {den : Nat}

/-- What is rounded to a double is on the grid. -/
theorem spacing_dvd_nearestUnits : spacing (nearestUnits num den) ∣ nearestUnits num den := by
  refine spacing_dvd_of_le ?_
  have hlt := div_spacing_lt num den
  have hle : roundHalfEven num (den * spacing (num / den)) ≤
      num / (den * spacing (num / den)) + 1 := by
    unfold roundHalfEven
    simp only
    split_ifs <;> omega
  omega

/-- No double is nearer to a quotient than the one it is rounded to. -/
theorem dist_nearestUnits_le (pos : 0 < den) {units : Nat} (h : spacing units ∣ units) :
    Nat.dist (nearestUnits num den * den) num ≤ Nat.dist (units * den) num := by
  have hmul (n : Nat) : n * spacing (num / den) * den = n * (den * spacing (num / den)) := by
    rw [Nat.mul_assoc, Nat.mul_comm den]
  have hnearest (n : Nat) : Nat.dist (nearestUnits num den * den) num ≤
      Nat.dist (n * spacing (num / den) * den) num := by
    rw [nearestUnits, hmul, hmul]
    exact dist_roundHalfEven_le num (Nat.mul_pos pos (spacing_pos _)) n
  by_cases hdvd : spacing (num / den) ∣ units
  · obtain ⟨n, rfl⟩ := hdvd
    rw [Nat.mul_comm (spacing (num / den)) n]
    exact hnearest n
  · -- A power of two, which is one of the multiples, lies between the double and the quotient.
    obtain ⟨hquotient, hunits⟩ := le_of_not_spacing_dvd h hdvd
    have hbetween := Nat.mul_le_mul_right den hunits
    have hbelow := (Nat.mul_le_mul_right den hquotient).trans (Nat.div_mul_le_self num den)
    have hpower := hnearest (2 ^ 52)
    unfold Nat.dist at *
    omega

/-- What a quotient is rounded to, if it is finite, is a double. -/
theorem isDouble_of_nearest {units : Nat} (h : nearest num den = finite units) :
    IsDouble units := by
  rw [nearest_eq] at h
  by_cases hlarge : infiniteUnits ≤ nearestUnits num den
  · rw [if_pos hlarge] at h
    exact Magnitude.noConfusion h
  · rw [if_neg hlarge] at h
    obtain rfl := finite.inj h
    exact ⟨spacing_dvd_nearestUnits num, Nat.lt_of_not_le hlarge⟩

/-- Zero is a double. -/
theorem isDouble_zero : IsDouble 0 :=
  ⟨Nat.dvd_zero _, lt_infiniteUnits (Nat.zero_le _)⟩

/-- A decimal that is not too large is read as a double. -/
theorem isDouble_of_ofDecimal {digits units : Nat} {exponent : Int}
    (h : ofDecimal digits exponent = finite units) : IsDouble units := by
  unfold ofDecimal at h
  dsimp only at h
  split_ifs at h
  · exact finite.inj h ▸ isDouble_zero
  · exact finite.inj h ▸ isDouble_zero
  · exact isDouble_of_nearest _ h
  · exact isDouble_of_nearest _ h

end Magnitude

/-- A numeral that is read as a finite number is read as a double. -/
theorem isDouble_of_ofNumeral? {s : Text} {negative : Bool} {units : Nat}
    (h : Binary64.ofNumeral? s = some (.signed negative (.finite units))) : IsDouble units := by
  unfold Binary64.ofNumeral? at h
  dsimp only at h
  split_ifs at h
  · simp at h
  · simp at h
  · obtain ⟨size, hsize, hsigned⟩ := Option.map_eq_some_iff.mp h
    obtain ⟨-, rfl⟩ := Binary64.signed.inj hsigned
    unfold decimal? at hsize
    dsimp only at hsize
    split_ifs at hsize
    obtain ⟨exponent, -, hread⟩ := Option.map_eq_some_iff.mp hsize
    exact Magnitude.isDouble_of_ofDecimal hread

/-! ## Printed decimals -/

/-- Below a bound with 53 bits in front of its zeros, a double stays away from the bound by one
of its steps. -/
theorem add_two_pow_le {units exponent bound : Nat}
    (hbound : bound = Nat.pow 2 53 * Nat.pow 2 exponent) (hdvd : spacing units ∣ units)
    (hlt : units < bound) : units + Nat.pow 2 exponent ≤ bound := by
  subst hbound
  have hdouble : Nat.pow 2 53 = Nat.pow 2 52 + Nat.pow 2 52 := rfl
  by_cases hlog : units.log2 < 52 + exponent
  · have hpower : Nat.pow 2 52 * Nat.pow 2 exponent = 2 ^ (52 + exponent) :=
      (Nat.pow_add 2 52 exponent).symm
    have hsmall : units < Nat.pow 2 52 * Nat.pow 2 exponent := by
      rw [hpower]
      exact Nat.lt_of_lt_of_le Nat.lt_log2_self (Nat.pow_le_pow_right Nat.zero_lt_two hlog)
    have hone : Nat.pow 2 exponent ≤ Nat.pow 2 52 * Nat.pow 2 exponent :=
      Nat.le_mul_of_pos_left _ (two_pow_pos 52)
    rw [hdouble, Nat.add_mul]
    omega
  · have hstep : Nat.pow 2 exponent ∣ spacing units := Nat.pow_dvd_pow 2 (by omega)
    obtain ⟨steps, rfl⟩ := hstep.trans hdvd
    rw [Nat.mul_comm] at hlt ⊢
    have hle := Nat.mul_le_mul_right (Nat.pow 2 exponent) (Nat.lt_of_mul_lt_mul_right hlt)
    rwa [Nat.succ_mul] at hle

/-- Between a double and infinity there is at least one. -/
theorem IsDouble.add_unitsPerOne_lt {units : Nat} (h : IsDouble units) :
    units + unitsPerOne < infiniteUnits := by
  have hlarge : infiniteUnits = Nat.pow 2 53 * Nat.pow 2 2045 := by
    unfold infiniteUnits
    apply two_pow_eq_mul
    omega
  have hone : unitsPerOne < Nat.pow 2 2045 := by
    unfold unitsPerOne
    apply two_pow_lt
    omega
  have hle := add_two_pow_le hlarge h.spacing_dvd h.lt_infinite
  generalize Nat.pow 2 2045 = step at hone hle
  omega

section Reading

variable {units digits fraction places : Nat} (hfraction : fraction ≤ places)

include hfraction

/-- Digits with fewer places are as near to a number of units, up to the zeros left out. -/
theorem dist_mul_ten_pow :
    Nat.dist (digits * 10 ^ (places - fraction) * unitsPerOne) (units * 10 ^ places) =
      Nat.dist (units * 10 ^ fraction) (digits * unitsPerOne) * 10 ^ (places - fraction) := by
  have hscale : units * 10 ^ places = units * 10 ^ fraction * 10 ^ (places - fraction) := by
    rw [Nat.mul_assoc, ← Nat.pow_add, Nat.add_sub_cancel' hfraction]
  rw [hscale, Nat.mul_right_comm, Nat.dist_mul_right, Nat.dist_comm]

variable (h : IsDouble units)
  (hround : roundHalfEven (units * 10 ^ places) unitsPerOne = digits * 10 ^ (places - fraction))

include hround

/-- A printed decimal is within a half of the number it is printed from. -/
theorem two_mul_dist_le :
    2 * Nat.dist (units * 10 ^ fraction) (digits * unitsPerOne) ≤ unitsPerOne := by
  have hhalf := two_mul_dist_roundHalfEven_le (units * 10 ^ places) unitsPerOne_pos
  rw [hround, dist_mul_ten_pow hfraction] at hhalf
  have hle := Nat.le_mul_of_pos_right (Nat.dist (units * 10 ^ fraction) (digits * unitsPerOne))
    (Nat.pow_pos (by omega) : 0 < 10 ^ (places - fraction))
  omega

include h

/-- A decimal that is printed from a double has not too many digits in front of the point. -/
theorem lt_ten_pow_of_isDouble : digits < 10 ^ (400 + fraction) := by
  have hhalf := two_mul_dist_le hfraction hround
  have hpow : 0 < 10 ^ fraction := Nat.pow_pos (by omega)
  have hlt := Nat.mul_lt_mul_of_pos_right h.add_unitsPerOne_lt hpow
  have hone := Nat.le_mul_of_pos_right unitsPerOne hpow
  rw [Nat.add_mul] at hlt
  have hvalue : digits * unitsPerOne < infiniteUnits * 10 ^ fraction := by
    unfold Nat.dist at hhalf
    omega
  exact Nat.lt_of_mul_lt_mul_right (Nat.lt_of_lt_of_le hvalue (infiniteUnits_mul_le fraction))

/-- A decimal printed from a double is read as a finite double, and printed from that one again. -/
theorem Magnitude.roundHalfEven_ofDecimal_of_isDouble :
    ∃ reread, ofDecimal digits (-(fraction : Int)) = finite reread ∧
      roundHalfEven (reread * 10 ^ places) unitsPerOne = digits * 10 ^ (places - fraction) := by
  have hpow : 0 < 10 ^ fraction := Nat.pow_pos (by omega)
  have hnear := dist_nearestUnits_le (digits * unitsPerOne) hpow h.spacing_dvd
  have hhalf := two_mul_dist_le hfraction hround
  have hfinite : nearestUnits (digits * unitsPerOne) (10 ^ fraction) < infiniteUnits := by
    refine Nat.lt_of_le_of_lt (Nat.le_of_mul_le_mul_right ?_ hpow) h.add_unitsPerOne_lt
    have hone := Nat.le_mul_of_pos_right unitsPerOne hpow
    rw [Nat.add_mul]
    unfold Nat.dist at *
    omega
  refine ⟨nearestUnits (digits * unitsPerOne) (10 ^ fraction), ?_, ?_⟩
  · exact (ofDecimal_eq_nearest (lt_ten_pow_of_isDouble hfraction h hround)).trans
      (nearest_eq_finite hfinite)
  · -- It is at least as near to the decimal as the first double, and a tie stays a tie.
    have hscaled := Nat.mul_le_mul_right (10 ^ (places - fraction)) hnear
    rw [← dist_mul_ten_pow hfraction, ← dist_mul_ten_pow hfraction] at hscaled
    rw [roundHalfEven_eq_iff _ unitsPerOne_pos] at hround ⊢
    rcases hround with hlt | ⟨heq, heven⟩
    · exact Or.inl (by omega)
    · rcases Nat.lt_or_eq_of_le hscaled with hlt | htie
      · exact Or.inl (by omega)
      · exact Or.inr ⟨by omega, heven⟩

end Reading

end Number
end Shelfmark
