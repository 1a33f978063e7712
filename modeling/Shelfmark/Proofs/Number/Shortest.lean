import Shelfmark.Number.Shortest
import Shelfmark.Proofs.Number.Monotone
import Shelfmark.Proofs.Number.Numeral

/-!
# Numbers - The shortest decimal is read back

Whatever lies in the rounding interval of a double is rounded to it, so a decimal from that interval
is read back as the same double.  There always is one with seventeen digits: decimals of that
length are closer to each other than the interval is wide, also below a power of two, where half of
it is missing.

Main results:

- Theorem `nearestUnits_of_holds`: what lies in the rounding interval of a double is rounded to it.
- Theorem `exists_ofLength?`: seventeen digits always suffice.
- Theorem `ofNumeral?_text`: the text of a double is read as that double.
-/

namespace Shelfmark
namespace Number

/-! ## Spacing -/

section Spacing

variable {units quotient : Nat}

/-- Numbers of units with the same leading bit are equally spaced. -/
theorem spacing_eq (hlow : 2 ^ units.log2 ≤ quotient) (hhigh : quotient < 2 ^ (units.log2 + 1)) :
    spacing quotient = spacing units := by
  have hne : quotient ≠ 0 := (Nat.lt_of_lt_of_le (Nat.two_pow_pos _) hlow).ne'
  have hlog : quotient.log2 = units.log2 := (Nat.log2_eq_iff hne).mpr ⟨hlow, hhigh⟩
  rw [spacing, spacing, hlog]

/-- Where doubles are one unit apart, so they are below. -/
theorem spacing_eq_one (h : spacing units = 1) (hle : quotient ≤ units) : spacing quotient = 1 := by
  have hlog : quotient.log2 ≤ units.log2 := by
    by_cases hzero : quotient = 0
    · rw [hzero]
      exact Nat.zero_le _
    · refine Nat.le_of_lt_succ ((Nat.log2_lt hzero).mpr ?_)
      exact Nat.lt_of_le_of_lt hle Nat.lt_log2_self
  have hdvd : spacing quotient ∣ spacing units := Nat.pow_dvd_pow 2 (by omega)
  rw [h] at hdvd
  exact Nat.dvd_one.mp hdvd

/-- The spacing divides the powers of two around a number of units, if there is a bit below them. -/
theorem spacing_dvd_two_pow {exponent : Nat} (h : units.log2 ≤ exponent) :
    spacing units ∣ 2 ^ exponent :=
  Nat.pow_dvd_pow 2 (by omega)

/-- Of two multiples of the spacing the greater one is a step away. -/
theorem add_spacing_le {step a b : Nat} (ha : step ∣ a) (hb : step ∣ b) (h : a < b) :
    a + step ≤ b := by
  have hle : step ≤ b - a := Nat.le_of_dvd (Nat.sub_pos_of_lt h) (Nat.dvd_sub hb ha)
  omega

/-- A double is a step away from the next power of two. -/
theorem add_spacing_le_two_pow (h : spacing units ∣ units) :
    units + spacing units ≤ 2 ^ (units.log2 + 1) :=
  add_spacing_le h (spacing_dvd_two_pow (Nat.le_succ _)) Nat.lt_log2_self

/-- A step is not greater than the number of units. -/
theorem spacing_le_self (h : units ≠ 0) : spacing units ≤ units := by
  rcases spacing_le units with hone | hle
  · rw [hone]
    exact Nat.pos_of_ne_zero h
  · exact (Nat.le_mul_of_pos_right _ (Nat.two_pow_pos 52)).trans hle

/-- A double is a step away from every power of two above it. -/
theorem add_spacing_le_of_lt {bits : Nat} (h : spacing units ∣ units)
    (hlt : units < Nat.pow 2 bits) : units + spacing units ≤ Nat.pow 2 bits := by
  refine add_spacing_le h (spacing_dvd_two_pow ?_) hlt
  by_cases hzero : units = 0
  · rw [hzero]
    exact Nat.zero_le bits
  · exact ((Nat.log2_lt hzero).mpr hlt).le

/-- A double is a step away from infinity. -/
theorem IsDouble.add_spacing_le (h : IsDouble units) : units + spacing units ≤ infiniteUnits := by
  have hlt := h.lt_infinite
  unfold infiniteUnits at hlt ⊢
  apply add_spacing_le_of_lt
  · exact h.spacing_dvd
  · exact hlt

/-- A number of units has less than `2 ^ 53` steps. -/
theorem lt_mul_spacing (units : Nat) : units < 2 ^ 53 * spacing units := by
  refine Nat.lt_of_lt_of_le (Nat.lt_log2_self (n := units)) ?_
  unfold spacing
  rw [Nat.pow_eq, ← Nat.pow_add]
  exact Nat.pow_le_pow_right Nat.zero_lt_two (by omega)

end Spacing

/-! ## The rounding interval -/

namespace RoundingInterval

/-- A power of two with a grid below it that is finer than its own. -/
def AtPower (units : Nat) : Prop :=
  1 < spacing units ∧ units = 2 ^ units.log2

/-- How far the interval reaches below the double, in quarter units. -/
def reach (units : Nat) : Nat :=
  if decide (spacing units > 1) && units == Nat.pow 2 units.log2 then spacing units
  else 2 * spacing units

/-- Below a power of two the interval reaches half as far. -/
theorem reach_of_atPower {units : Nat} (h : AtPower units) : reach units = spacing units := by
  have hpower : (units == Nat.pow 2 units.log2) = true := beq_iff_eq.mpr h.2
  rw [reach, decide_eq_true h.1, hpower]
  rfl

/-- A power of two on a coarse grid has `2 ^ 53` half steps, and these are a power of two as
well. -/
theorem AtPower.exists_half {units : Nat} (h : AtPower units) :
    ∃ k, units = 2 ^ 53 * 2 ^ k ∧ spacing units = 2 * 2 ^ k := by
  have hlog : 53 ≤ units.log2 := by
    by_contra hsmall
    have hone : spacing units = Nat.pow 2 0 := congrArg (Nat.pow 2) (by omega)
    exact absurd (hone ▸ h.1) (by decide)
  obtain ⟨k, hk⟩ := Nat.exists_eq_add_of_le hlog
  have hstep : units.log2 - 52 = k + 1 := by omega
  refine ⟨k, ?_, ?_⟩
  · rw [← Nat.pow_add, ← hk]
    exact h.2
  · rw [spacing, hstep]
    exact Nat.pow_succ'

/-- Elsewhere it reaches a step. -/
theorem reach_of_not_atPower {units : Nat} (h : ¬ AtPower units) :
    reach units = 2 * spacing units := by
  refine if_neg fun hpower => h ?_
  obtain ⟨hstep, heq⟩ := Bool.and_eq_true_iff.mp hpower
  exact ⟨of_decide_eq_true hstep, beq_iff_eq.mp heq⟩

/-- It never reaches further than a step. -/
theorem reach_le (units : Nat) : reach units ≤ 2 * spacing units := by
  unfold reach
  split
  · exact Nat.le_mul_of_pos_left _ Nat.zero_lt_two
  · exact le_rfl

/-- The interval in terms of the double and its spacing. -/
theorem ofUnits_eq (units : Nat) :
    ofUnits units =
      ⟨4 * units - reach units, 4 * units + 2 * spacing units, units / spacing units % 2 == 0⟩ :=
  rfl

/-- What lies in an interval lies between its bounds, and is none of them if it is open. -/
theorem bounds_of_holds {interval : RoundingInterval} {num den : Nat}
    (h : interval.holds num den = true) :
    interval.lower * den ≤ num ∧ num ≤ interval.upper * den ∧
      (interval.closed = true ∨ interval.lower * den < num ∧ num < interval.upper * den) := by
  unfold holds at h
  cases hclosed : interval.closed with
  | true =>
    rw [if_pos hclosed, Bool.and_eq_true, decide_eq_true_eq, decide_eq_true_eq] at h
    exact ⟨h.1, h.2, Or.inl rfl⟩
  | false =>
    rw [if_neg (Bool.eq_false_iff.mp hclosed), Bool.and_eq_true, decide_eq_true_eq,
      decide_eq_true_eq] at h
    exact ⟨h.1.le, h.2.le, Or.inr h⟩

/-- What lies between the bounds lies in the interval. -/
theorem holds_of_lt {interval : RoundingInterval} {num den : Nat}
    (hlow : interval.lower * den < num) (hhigh : num < interval.upper * den) :
    interval.holds num den = true := by
  unfold holds
  rw [decide_eq_true hlow.le, decide_eq_true hhigh.le, decide_eq_true hlow, decide_eq_true hhigh]
  exact ite_self _

end RoundingInterval

/-! ## Rounding what lies in the interval -/

open RoundingInterval (AtPower reach)

namespace Magnitude

/-- A multiple of the spacing that is nearer to a quotient than half of it, or as near and even, is
what the quotient is rounded to. -/
theorem nearestUnits_eq_of_near {units num den n step : Nat} (pos : 0 < den)
    (hspacing : spacing (num / den) = step) (hunits : n * step = units)
    (hnear : 2 * Nat.dist (units * den) num < den * step ∨
      2 * Nat.dist (units * den) num = den * step ∧ Even n) :
    nearestUnits num den = units := by
  have hmul : units * den = n * (den * step) := by
    rw [← hunits, Nat.mul_assoc, Nat.mul_comm step]
  rw [hmul] at hnear
  have hstep : 0 < step := hspacing ▸ spacing_pos _
  rw [nearestUnits, hspacing, (roundHalfEven_eq_iff num (Nat.mul_pos pos hstep)).mpr hnear, hunits]

/-- Below a power of two the doubles are half as far apart as above it. -/
theorem spacing_div_below_power {k num den : Nat} (pos : 0 < den)
    (hlt : num < 2 ^ 53 * 2 ^ k * den)
    (hlow : 4 * (2 ^ 53 * 2 ^ k) * den ≤ 4 * num + 2 * 2 ^ k * den) :
    spacing (num / den) = 2 ^ k := by
  have hhalf : 2 ^ (52 + k) ≤ num / den := by
    have hsplit (x : Nat) : 4 * (2 ^ 53 * x) * den = 2 ^ 55 * (x * den) := by ring
    rw [hsplit, Nat.mul_assoc 2] at hlow
    rw [Nat.le_div_iff_mul_le pos, Nat.pow_add, Nat.mul_assoc]
    omega
  have hbelow : num / den < 2 ^ (52 + k + 1) := by
    have hsucc : 52 + k + 1 = 53 + k := by omega
    rwa [Nat.div_lt_iff_lt_mul pos, hsucc, Nat.pow_add]
  have hne : num / den ≠ 0 := (Nat.lt_of_lt_of_le (Nat.two_pow_pos _) hhalf).ne'
  have hlog : (num / den).log2 = 52 + k := (Nat.log2_eq_iff hne).mpr ⟨hhalf, hbelow⟩
  rw [spacing, hlog, Nat.add_sub_cancel_left, Nat.pow_eq]

/-- What lies half a step below a power of two, or less, is rounded to it. -/
theorem nearestUnits_eq_of_atPower {units num den : Nat} (pos : 0 < den) (hpower : AtPower units)
    (hlt : num < units * den) (hlow : 4 * units * den ≤ 4 * num + spacing units * den) :
    nearestUnits num den = units := by
  obtain ⟨k, hpow, hspacing⟩ := hpower.exists_half
  have hfine : spacing (num / den) = 2 ^ k := by
    rw [hspacing, hpow] at hlow
    rw [hpow] at hlt
    exact spacing_div_below_power pos hlt hlow
  have hnear : 2 * Nat.dist (units * den) num < den * 2 ^ k ∨
      2 * Nat.dist (units * den) num = den * 2 ^ k ∧ Even (2 ^ 53) := by
    have hhalf : 2 * Nat.dist (units * den) num ≤ den * 2 ^ k := by
      rw [hspacing, Nat.mul_assoc, Nat.mul_assoc, Nat.mul_comm (2 ^ k)] at hlow
      unfold Nat.dist
      omega
    rcases Nat.lt_or_eq_of_le hhalf with hlt | heq
    · exact Or.inl hlt
    · exact Or.inr ⟨heq, by decide⟩
  exact nearestUnits_eq_of_near pos hfine hpow.symm hnear

section Interval

variable {units num den : Nat} (pos : 0 < den) (hdvd : spacing units ∣ units) (hunits : units ≠ 0)

include pos hdvd hunits

/-- Between a double and its successor doubles are as far apart as there, and below it too unless
it is a power of two. -/
theorem spacing_div_eq (hlow : 4 * units * den ≤ 4 * num + 2 * spacing units * den)
    (hhigh : 4 * num ≤ 4 * units * den + 2 * spacing units * den)
    (hpower : units * den ≤ num ∨ ¬ AtPower units) : spacing (num / den) = spacing units := by
  have hstep := Nat.mul_pos (spacing_pos units) pos
  have hnext := Nat.mul_le_mul_right den (add_spacing_le_two_pow hdvd)
  have hlog := Nat.log2_self_le hunits
  have hbelow : num / den < 2 ^ (units.log2 + 1) := by
    rw [Nat.div_lt_iff_lt_mul pos]
    rw [Nat.add_mul] at hnext
    rw [Nat.mul_assoc] at hhigh
    rw [Nat.mul_assoc] at hhigh
    omega
  by_cases habove : units * den ≤ num
  · exact spacing_eq (hlog.trans ((Nat.le_div_iff_mul_le pos).mpr habove)) hbelow
  · rcases Nat.lt_or_eq_of_le hlog with hlt | heq
    · refine spacing_eq ((Nat.le_div_iff_mul_le pos).mpr ?_) hbelow
      have hprevious := Nat.mul_le_mul_right den
        (add_spacing_le (spacing_dvd_two_pow le_rfl) hdvd hlt)
      rw [Nat.add_mul] at hprevious
      rw [Nat.mul_assoc, Nat.mul_assoc] at hlow
      omega
    · have hone : spacing units = 1 := by
        have hnot : ¬ 1 < spacing units := fun hstep =>
          hpower.resolve_left habove ⟨hstep, heq.symm⟩
        have hpos := spacing_pos units
        omega
      rw [hone]
      refine spacing_eq_one hone (Nat.le_of_lt ?_)
      rw [Nat.div_lt_iff_lt_mul pos]
      omega

/-- What is as near to a double as the middle of a step, or nearer, is rounded to it if the doubles
on that side are a step apart, from the middle itself if the double is even. -/
theorem nearestUnits_eq_of_half (hlow : 4 * units * den ≤ 4 * num + 2 * spacing units * den)
    (hhigh : 4 * num ≤ 4 * units * den + 2 * spacing units * den)
    (hpower : units * den ≤ num ∨ ¬ AtPower units)
    (hinside : Even (units / spacing units) ∨
      4 * units * den < 4 * num + 2 * spacing units * den ∧
        4 * num < 4 * units * den + 2 * spacing units * den) :
    nearestUnits num den = units := by
  have hwhole : units / spacing units * spacing units = units := Nat.div_mul_cancel hdvd
  have hspacing := spacing_div_eq pos hdvd hunits hlow hhigh hpower
  have hnear : 2 * Nat.dist (units * den) num < den * spacing units ∨
      2 * Nat.dist (units * den) num = den * spacing units ∧ Even (units / spacing units) := by
    rw [Nat.mul_comm den]
    rw [Nat.mul_assoc, Nat.mul_assoc] at hlow hhigh hinside
    unfold Nat.dist
    rcases hinside with heven | hinside
    · rcases Nat.lt_or_ge (2 * (units * den - num + (num - units * den))) (spacing units * den)
        with hlt | hge
      · exact Or.inl hlt
      · exact Or.inr ⟨by omega, heven⟩
    · left
      omega
  exact nearestUnits_eq_of_near pos hspacing hwhole hnear

/-- What lies in the rounding interval of a double is rounded to it. -/
theorem nearestUnits_of_holds
    (h : (RoundingInterval.ofUnits units).holds (4 * num) den = true) :
    nearestUnits num den = units := by
  obtain ⟨hlow, hhigh, hinside⟩ := RoundingInterval.bounds_of_holds h
  simp only [RoundingInterval.ofUnits_eq, Nat.sub_mul, Nat.add_mul, beq_iff_eq]
    at hlow hhigh hinside
  by_cases hpower : num < units * den ∧ AtPower units
  · refine nearestUnits_eq_of_atPower pos hpower.2 hpower.1 ?_
    rw [RoundingInterval.reach_of_atPower hpower.2] at hlow
    omega
  · have hside : units * den ≤ num ∨ ¬ AtPower units := by
      by_contra hnot
      rw [not_or, not_not] at hnot
      exact hpower ⟨Nat.lt_of_not_le hnot.1, hnot.2⟩
    have hreach : reach units * den ≤ 2 * spacing units * den :=
      Nat.mul_le_mul_right den (RoundingInterval.reach_le units)
    refine nearestUnits_eq_of_half pos hdvd hunits ?_ hhigh hside ?_
    · omega
    · rcases hinside with heven | hinside
      · exact Or.inl (Nat.even_iff.mpr heven)
      · right
        omega

end Interval

end Magnitude

/-! ## Decimals that are rounded to a double -/

namespace Decimal

/-- The power of ten that a decimal is divided by. -/
def scale (exponent : Int) : Nat :=
  Nat.pow 10 (-exponent).toNat

/-- The number of units that one step of the last digit makes, times the power of ten that decimals
are divided by. -/
def step (exponent : Int) : Nat :=
  unitsPerOne * Nat.pow 10 exponent.toNat

/-- The decimal lies in the rounding interval of the double. -/
def Fits (units : Nat) (d : Decimal) : Prop :=
  (RoundingInterval.ofUnits units).holds (4 * d.digits * step d.exponent) (scale d.exponent) = true

/-- The power of ten that decimals are divided by is positive. -/
theorem scale_pos (exponent : Int) : 0 < scale exponent :=
  Nat.pow_pos (Nat.succ_pos 9)

/-- The last digit is worth something. -/
theorem step_pos (exponent : Int) : 0 < step exponent :=
  Nat.mul_pos unitsPerOne_pos (Nat.pow_pos (Nat.succ_pos 9))

section Length

variable {units : Nat}

/-- A decimal that is found lies in the rounding interval. -/
theorem fits_of_ofLength? {length : Nat} {d : Decimal} (h : ofLength? units length = some d) :
    Fits units d := by
  unfold ofLength? at h
  dsimp only at h
  split_ifs at h with hdown hup
  · obtain rfl := Option.some.inj h
    exact (Bool.and_eq_true_iff.mp hdown).1
  · obtain rfl := Option.some.inj h
    exact hup

/-- If one of the neighbours on the decimal grid lies in the rounding interval, a decimal is
found. -/
theorem exists_ofLength?_of_fits {length : Nat} {exponent : Int}
    (hexponent : pointPosition units - length = exponent)
    (h : Fits units ⟨units * scale exponent / step exponent, exponent⟩ ∨
      Fits units ⟨units * scale exponent / step exponent + 1, exponent⟩) :
    ∃ d, ofLength? units length = some d := by
  have hnext (fitsDown fitsUp nearDown : Bool) (down up : Decimal)
      (hfits : fitsDown = true ∨ fitsUp = true) :
      ∃ d, (if fitsDown && (nearDown || !fitsUp) then some down
        else if fitsUp then some up else none) = some d := by
    cases fitsDown <;> cases fitsUp <;> cases nearDown <;> simp_all
  rw [ofLength?, hexponent]
  exact hnext _ _ _ _ _ h

/-- If the digits of a double begin at a place, seventeen places further one is worth little. -/
theorem step_mul_le_of_length {length places : Nat} {exponent : Int}
    (hlength : 10 ^ length * unitsPerOne ≤ 10 * (units * Nat.pow 10 places))
    (hexponent : (length : Int) - places - 17 = exponent) :
    step exponent * 10 ^ 16 ≤ units * scale exponent := by
  have hpow : 10 ^ exponent.toNat * (10 ^ 17 * 10 ^ places) =
      10 ^ (-exponent).toNat * 10 ^ length := by
    rw [← Nat.pow_add, ← Nat.pow_add, ← Nat.pow_add]
    congr 1
    omega
  have hpos : 0 < 10 ^ places := Nat.pow_pos (Nat.succ_pos 9)
  unfold step scale
  refine Nat.le_of_mul_le_mul_right ?_ (Nat.mul_pos (Nat.succ_pos 9) hpos)
  calc unitsPerOne * 10 ^ exponent.toNat * 10 ^ 16 * (10 * 10 ^ places)
      = unitsPerOne * (10 ^ exponent.toNat * (10 ^ 17 * 10 ^ places)) := by ring
    _ = 10 ^ (-exponent).toNat * (10 ^ length * unitsPerOne) := by rw [hpow]; ring
    _ ≤ 10 ^ (-exponent).toNat * (10 * (units * 10 ^ places)) := Nat.mul_le_mul_left _ hlength
    _ = units * 10 ^ (-exponent).toNat * (10 * 10 ^ places) := by ring

variable (hunits : units ≠ 0)

include hunits

/-- The first digit of a double is at the position of its point. -/
theorem ten_pow_length_le :
    10 ^ (Nat.toDigits 10 (units * Nat.pow 10 324 / unitsPerOne)).length * unitsPerOne ≤
      10 * (units * Nat.pow 10 324) := by
  have hone : unitsPerOne ≤ Nat.pow 10 324 := by decide +kernel
  generalize Nat.pow 10 324 = many at hone ⊢
  have hquotient : 0 < units * many / unitsPerOne :=
    Nat.div_pos (hone.trans (Nat.le_mul_of_pos_left _ (Nat.pos_of_ne_zero hunits))) unitsPerOne_pos
  obtain ⟨length, hlength⟩ := Nat.exists_eq_succ_of_ne_zero
    (Nat.length_toDigits_pos (b := 10) (n := units * many / unitsPerOne)).ne'
  have hfirst : 10 ^ length ≤ units * many / unitsPerOne := by
    rcases Nat.eq_zero_or_pos length with rfl | hpos
    · exact hquotient
    · rw [← Nat.not_lt, ← Nat.length_toDigits_le_iff (by omega) hpos, hlength]
      omega
  rw [hlength, Nat.pow_succ', Nat.mul_assoc]
  exact Nat.mul_le_mul_left 10 ((Nat.le_div_iff_mul_le unitsPerOne_pos).mp hfirst)

/-- With seventeen digits the last one is worth little beside the double. -/
theorem step_mul_le {exponent : Int} (hexponent : pointPosition units - 17 = exponent) :
    step exponent * 10 ^ 16 ≤ units * scale exponent :=
  step_mul_le_of_length (ten_pow_length_le hunits) hexponent

/-- Two steps of the last of seventeen digits are less than the rounding interval reaches. -/
theorem two_mul_step_lt {exponent : Int} (hexponent : pointPosition units - 17 = exponent) :
    2 * step exponent < reach units * scale exponent := by
  have hsmall := step_mul_le hunits hexponent
  have hscale := Nat.mul_pos (spacing_pos units) (scale_pos exponent)
  by_cases hpower : AtPower units
  · obtain ⟨k, hpow, hspacing⟩ := hpower.exists_half
    rw [RoundingInterval.reach_of_atPower hpower, hspacing, Nat.mul_assoc]
    rw [hspacing, Nat.mul_assoc] at hscale
    rw [hpow, Nat.mul_assoc] at hsmall
    omega
  · have hbound := Nat.mul_lt_mul_of_pos_right (lt_mul_spacing units) (scale_pos exponent)
    rw [RoundingInterval.reach_of_not_atPower hpower, Nat.mul_assoc]
    rw [Nat.mul_assoc] at hbound
    omega

/-- Of the two decimals with seventeen digits around a double, the nearer one is rounded to it. -/
theorem exists_ofLength? : ∃ d, ofLength? units 17 = some d := by
  generalize hexponent : pointPosition units - 17 = exponent
  have hstep := two_mul_step_lt hunits hexponent
  have hreach : reach units * scale exponent ≤ 4 * units * scale exponent :=
    Nat.mul_le_mul_right _ ((RoundingInterval.reach_le units).trans
      (Nat.mul_le_mul (Nat.le_of_ble_eq_true rfl) (spacing_le_self hunits)))
  have hreach' := Nat.mul_le_mul_right (scale exponent) (RoundingInterval.reach_le units)
  have hdiv := Nat.div_add_mod' (units * scale exponent) (step exponent)
  have hmod := Nat.mod_lt (units * scale exponent) (step_pos exponent)
  refine exists_ofLength?_of_fits hexponent ?_
  have hfits (digits : Nat)
      (hlow : 4 * (units * scale exponent) < 4 * (digits * step exponent) + 2 * step exponent + 1)
      (hhigh : 4 * (digits * step exponent) < 4 * (units * scale exponent) + 2 * step exponent + 1) :
      Fits units ⟨digits, exponent⟩ := by
    refine RoundingInterval.holds_of_lt ?_ ?_
    · rw [RoundingInterval.ofUnits_eq]
      simp only [Nat.sub_mul, Nat.mul_assoc] at hreach ⊢
      omega
    · rw [RoundingInterval.ofUnits_eq]
      simp only [Nat.add_mul, Nat.mul_assoc] at hreach' ⊢
      omega
  generalize units * scale exponent / step exponent = down at *
  rcases Nat.le_total (2 * (units * scale exponent % step exponent)) (step exponent) with hle | hge
  · left
    exact hfits down (by omega) (by omega)
  · right
    have hup : (down + 1) * step exponent = down * step exponent + step exponent :=
      Nat.succ_mul _ _
    exact hfits (down + 1) (by omega) (by omega)

/-- The shortest decimal of a double lies in its rounding interval. -/
theorem fits_shortest : Fits units (shortest units) := by
  obtain ⟨d, hd⟩ := exists_ofLength? hunits
  obtain ⟨found, hfound⟩ : ∃ found, (List.range' 1 17).findSome? (ofLength? units) = some found := by
    refine Option.isSome_iff_exists.mp (List.findSome?_isSome_iff.mpr ⟨17, by simp, ?_⟩)
    rw [hd]
    rfl
  obtain ⟨length, -, hlength⟩ := List.exists_of_findSome?_eq_some hfound
  rw [shortest, hfound]
  exact fits_of_ofLength? hlength

end Length

/-! ## Text -/

/-- A decimal is written as a plain decimal of the same value. -/
theorem exists_text (d : Decimal) :
    ∃ (whole : Text) (fraction : Option Text) (zeros : Nat), IsDecimal whole fraction ∧
      d.text = decimalText whole fraction ∧
      ofDigits (whole ++ fraction.getD []) * 10 ^ zeros = d.digits * 10 ^ d.exponent.toNat ∧
      (fraction.getD []).length + zeros = (-d.exponent).toNat := by
  generalize hdigits : FixedPoint.ofScaled (d.digits * Nat.pow 10 d.exponent.toNat)
    (-d.exponent).toNat = fixed
  obtain ⟨hwhole, hfraction⟩ := FixedPoint.isDigit_of_mem (d.digits * Nat.pow 10 d.exponent.toNat)
    (-d.exponent).toNat
  have hlength := FixedPoint.length_fraction (d.digits * Nat.pow 10 d.exponent.toNat)
    (-d.exponent).toNat
  have hjoined := FixedPoint.whole_append_fraction (d.digits * Nat.pow 10 d.exponent.toNat)
    (-d.exponent).toNat
  rw [hdigits] at hwhole hfraction hlength hjoined
  have hne : fixed.whole ≠ [] := by
    have hwidth := congrArg List.length hjoined
    rw [List.length_append, length_padZeros, hlength] at hwidth
    rw [← List.length_pos_iff]
    omega
  obtain ⟨zeros, hzeros⟩ := Text.exists_replicate_of_dropEndWhile '0' fixed.fraction
  have hvalue : ofDigits (fixed.whole ++ fixed.fraction.dropEndWhile (· == '0')) * 10 ^ zeros =
      d.digits * 10 ^ d.exponent.toNat := by
    rw [← ofDigits_append_replicate, List.append_assoc, ← hzeros, hjoined, ofDigits_padZeros,
      ofDigits_toDigits]
    rfl
  have hplaces : (fixed.fraction.dropEndWhile (· == '0')).length + zeros =
      (-d.exponent).toNat := by
    have hboth := congrArg List.length hzeros
    rwa [List.length_append, List.length_replicate, hlength, eq_comm] at hboth
  have htext : d.text =
      if (fixed.fraction.dropEndWhile (· == '0')).isEmpty then fixed.whole
      else fixed.whole ++ ['.'] ++ fixed.fraction.dropEndWhile (· == '0') := by
    rw [text, hdigits]
  by_cases hempty : fixed.fraction.dropEndWhile (· == '0') = []
  · rw [hempty] at htext hvalue hplaces
    exact ⟨fixed.whole, none, zeros, ⟨hwhole, by simp, by simpa using hne⟩, htext, hvalue, hplaces⟩
  · rw [if_neg (by simpa using hempty), List.append_assoc] at htext
    refine ⟨fixed.whole, some (fixed.fraction.dropEndWhile (· == '0')), zeros,
      ⟨hwhole, fun c hc => hfraction c ?_, by simp [hne]⟩, htext, hvalue, hplaces⟩
    rw [hzeros]
    exact List.mem_append_left _ hc

/-- A decimal in the rounding interval of a double is written as a plain decimal that is read as
that double. -/
theorem Fits.exists_text {units : Nat} {d : Decimal} (hfits : Fits units d) (h : IsDouble units)
    (hunits : units ≠ 0) :
    ∃ (whole : Text) (fraction : Option Text), IsDecimal whole fraction ∧
      d.text = decimalText whole fraction ∧
      Magnitude.ofDecimal (ofDigits (whole ++ fraction.getD []))
        (-((fraction.getD []).length : Int)) = .finite units := by
  obtain ⟨whole, fraction, zeros, hdecimal, htext, hvalue, hplaces⟩ := d.exists_text
  refine ⟨whole, fraction, hdecimal, htext, ?_⟩
  generalize ofDigits (whole ++ fraction.getD []) = digits at hvalue ⊢
  generalize (fraction.getD []).length = places at hplaces ⊢
  have hscale : scale d.exponent = 10 ^ places * 10 ^ zeros := by
    rw [scale, ← hplaces]
    exact Nat.pow_add 10 places zeros
  have hnum : 4 * d.digits * step d.exponent = 4 * (digits * unitsPerOne * 10 ^ zeros) :=
    calc 4 * d.digits * step d.exponent
        = 4 * (d.digits * 10 ^ d.exponent.toNat * unitsPerOne) := by rw [step, Nat.pow_eq]; ring
      _ = 4 * (digits * unitsPerOne * 10 ^ zeros) := by rw [← hvalue, Nat.mul_right_comm digits]
  have hzeros : 0 < 10 ^ zeros := Nat.pow_pos (Nat.succ_pos 9)
  rw [Fits, hnum, hscale] at hfits
  have hnearest : Magnitude.nearestUnits (digits * unitsPerOne) (10 ^ places) = units := by
    rw [← Magnitude.nearestUnits_mul_mul _ _ hzeros]
    exact Magnitude.nearestUnits_of_holds (Nat.mul_pos (Nat.pow_pos (Nat.succ_pos 9)) hzeros)
      h.spacing_dvd hunits hfits
  have hsize : digits < 10 ^ (400 + places) := by
    have hpos : 0 < 10 ^ places * 10 ^ zeros := Nat.mul_pos (Nat.pow_pos (Nat.succ_pos 9)) hzeros
    have hupper := (RoundingInterval.bounds_of_holds hfits).2.1
    rw [RoundingInterval.ofUnits_eq] at hupper
    have hlarge := Nat.mul_le_mul_right (10 ^ places * 10 ^ zeros) h.add_spacing_le
    have hstep := Nat.mul_pos (spacing_pos units) hpos
    have hbound := Nat.mul_le_mul_right (10 ^ zeros) (infiniteUnits_mul_le places)
    rw [Nat.mul_assoc infiniteUnits] at hbound
    refine Nat.lt_of_mul_lt_mul_right (a := unitsPerOne * 10 ^ zeros) ?_
    rw [← Nat.mul_assoc, ← Nat.mul_assoc]
    simp only [Nat.add_mul, Nat.mul_assoc 4, Nat.mul_assoc 2] at hupper hlarge
    omega
  rw [Magnitude.ofDecimal_eq_nearest hsize, Magnitude.nearest_eq_finite, hnearest]
  rw [hnearest]
  exact h.lt_infinite

end Decimal

/-- The text of a finite double that is not negative is a plain decimal that is read as it. -/
theorem Binary64.exists_text {units : Nat} (h : IsDouble units) :
    ∃ (whole : Text) (fraction : Option Text), IsDecimal whole fraction ∧
      Binary64.text (.signed false (.finite units)) = decimalText whole fraction ∧
      Magnitude.ofDecimal (ofDigits (whole ++ fraction.getD []))
        (-((fraction.getD []).length : Int)) = .finite units := by
  cases units with
  | zero => exact ⟨['0'], none, ⟨by simp, by simp, by simp⟩, rfl, rfl⟩
  | succ units =>
    exact (Decimal.fits_shortest (Nat.succ_ne_zero units)).exists_text h (Nat.succ_ne_zero units)

/-- A double is printed so that it is read back. -/
theorem Binary64.ofNumeral?_text (x : Binary64)
    (h : ∀ negative units, x = .signed negative (.finite units) → IsDouble units) :
    Binary64.ofNumeral? x.text = some x := by
  cases x with
  | nan => rfl
  | signed negative size =>
    cases size with
    | infinite => cases negative <;> rfl
    | finite units =>
      obtain ⟨whole, fraction, hdecimal, htext, hread⟩ := exists_text (h negative units rfl)
      have hsigned : Binary64.text (.signed negative (.finite units)) =
          (if negative then ['-'] else []) ++ decimalText whole fraction := by
        rw [← htext]
        rfl
      rw [hsigned, ofNumeral?_signed hdecimal, hread]

end Number
end Shelfmark
