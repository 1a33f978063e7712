import Shelfmark.Facet.Dewey
import Shelfmark.Proofs.CallNumber.Dewey
import Shelfmark.Proofs.Number.Arithmetic
import Shelfmark.Proofs.ShelfKey.NumericOrder

/-!
# Facets - Where rounding a Dewey number fails

A class number is divided by the precision, rounded down with some tolerance, multiplied again,
printed and read.  None of these steps leaves the finite doubles, with one exception: below about
`10 ^ -305` the quotient of a class number by the precision may be too large for a double.  Then
everything behind it is infinite, and so is the number that is to be written.

Main results:

- Theorem `roundDown_of_lt`: a class number rounded down, if the quotient is a double.
- Theorem `roundedText_of_overflows`: what is not written if it is none.
- Theorem `numbers_result`: the record's numbers are there exactly if the precision is a positive
  finite number and no quotient is too large.
-/

namespace Shelfmark
namespace DeweyFacet

open CallNumber (Dewey)
open Number
open Number.Magnitude (nearestUnits)

/-! ## The steps of rounding down -/

/-- The tolerance in units. -/
def toleranceUnits : Nat :=
  nearestUnits unitsPerOne (10 ^ 9)

/-- The tolerance is finite. -/
theorem tolerance_eq : tolerance = .finite toleranceUnits := by
  decide +kernel

/-- Rounding down takes four operations. -/
theorem roundDown_eq (number : Magnitude) (precision : Nat) :
    roundDown number precision =
      (((number.div precision).add toleranceUnits).floor).mul precision := by
  delta roundDown
  rw [tolerance_eq]

/-- The quotient of a number by the precision, rounded. -/
def quotient (number precision : Nat) : Nat :=
  nearestUnits (number * unitsPerOne) precision

/-- The quotient with the tolerance added, rounded. -/
def raised (number precision : Nat) : Nat :=
  nearestUnits (quotient number precision + toleranceUnits) 1

/-- How many times the precision fits into a number. -/
def times (number precision : Nat) : Nat :=
  raised number precision / unitsPerOne

/-- The tolerance is near to `10 ^ -9`. -/
theorem isNear_toleranceUnits : IsNear toleranceUnits (1 / 10 ^ 9) := by
  have hbillion : 0 < 10 ^ 9 := Nat.pow_pos (Nat.succ_pos 9)
  have hnear := Magnitude.isNear_nearestUnits unitsPerOne hbillion
  have hexact : ((unitsPerOne : ℚ) / (10 ^ 9 : Nat) / unitsPerOne) = 1 / 10 ^ 9 := by
    rw [div_right_comm, div_self cast_unitsPerOne_pos.ne']
    norm_num
  rwa [hexact] at hnear

/-- Half a step in front of infinity is more than the tolerance. -/
theorem toleranceUnits_le : toleranceUnits ≤ unitsPerOne := by
  decide +kernel

/-- The quotient is near to the quotient of the values. -/
theorem isNear_quotient (number : Nat) {precision : Nat} (pos : 0 < precision) :
    IsNear (quotient number precision) (value number / value precision) := by
  have hnear := Magnitude.isNear_nearestUnits (number * unitsPerOne) pos
  have hpos := cast_unitsPerOne_pos.ne'
  have hexact : (((number * unitsPerOne : Nat) : ℚ) / precision / unitsPerOne) =
      value number / value precision := by
    rw [value, value, div_div_div_cancel_right₀ hpos, Nat.cast_mul, div_right_comm,
      mul_div_cancel_right₀ _ hpos]
  rwa [hexact] at hnear

/-- With the tolerance added it is near to the sum. -/
theorem isNear_raised (number precision : Nat) :
    IsNear (raised number precision)
      (value (quotient number precision) + value toleranceUnits) := by
  have hnear := Magnitude.isNear_nearestUnits (quotient number precision + toleranceUnits)
    Nat.one_pos
  rwa [Nat.cast_one, div_one, ← value, value_add] at hnear

/-- The tolerance does not make much of the quotient. -/
theorem value_raised_le (number : Nat) {precision : Nat} (pos : 0 < precision) :
    value (raised number precision) ≤ 2 * (value number / value precision) + 1 / 2 := by
  have hquotient := (abs_le.mp (isNear_quotient number pos)).2
  have hraised := (abs_le.mp (isNear_raised number precision)).2
  have htolerance := (abs_le.mp isNear_toleranceUnits).2
  have hnonneg : 0 ≤ value number / value precision :=
    div_nonneg (value_nonneg _) (value_nonneg _)
  linarith [underflow_le]

section Steps

variable {number precision : Nat} (pos : 0 < precision)

include pos

/-- What the precision is multiplied with does not make it great. -/
theorem times_mul_le (hnumber : number ≤ 1000 * unitsPerOne) :
    times number precision * precision ≤ 4000 * unitsPerOne := by
  have hone := cast_unitsPerOne_pos
  have hprecision : 0 < value precision := div_pos (Nat.cast_pos.mpr pos) hone
  have hbound : value number ≤ 1000 := by
    have hle := value_le_value.mpr hnumber
    rwa [value_mul_unitsPerOne, Nat.cast_ofNat] at hle
  have hmul : value number / value precision * value precision = value number :=
    div_mul_cancel₀ _ hprecision.ne'
  have hdown := (value_floor (raised number precision)).1
  have hraised := value_raised_le number pos
  rw [← times] at hdown
  have hproduct : (times number precision : ℚ) * value precision ≤ 4000 := by
    rcases Nat.eq_zero_or_pos (times number precision) with hzero | hpos
    · rw [hzero]
      norm_num
    · -- The precision fits into the number, so it is not much greater.
      have hfits : (1 : ℚ) ≤ times number precision := by exact_mod_cast hpos
      have hquarter : 1 / 4 * value precision ≤ value number / value precision * value precision :=
        mul_le_mul_of_nonneg_right (by linarith) hprecision.le
      have hscaled : (times number precision : ℚ) * value precision ≤
          (2 * (value number / value precision) + 1 / 2) * value precision :=
        mul_le_mul_of_nonneg_right (hdown.trans hraised) hprecision.le
      linarith
  rw [value, ← mul_div_assoc, div_le_iff₀ hone] at hproduct
  exact_mod_cast hproduct

/-- A number whose quotient is a double is rounded down to a double. -/
theorem roundDown_of_lt (hnumber : number ≤ 1000 * unitsPerOne)
    (h : number * unitsPerOne < overflowUnits * precision) :
    roundDown (.finite number) precision =
      .finite (nearestUnits (times number precision * unitsPerOne * precision) unitsPerOne) := by
  have hquotient : Magnitude.nearest (number * unitsPerOne) precision =
      .finite (quotient number precision) := by
    rw [quotient]
    exact Magnitude.nearest_eq_finite_of_lt pos h
  have hraised : Magnitude.nearest (quotient number precision + toleranceUnits) 1 =
      .finite (raised number precision) := by
    refine Magnitude.nearest_eq_finite_of_lt Nat.one_pos ?_
    obtain ⟨half, hhalf, hgreatest, -⟩ := exists_half
    have hle := (Magnitude.isDouble_of_nearest _ hquotient).le_greatestUnits
    have htolerance := toleranceUnits_le
    omega
  have hproduct : Magnitude.nearest (times number precision * unitsPerOne * precision) unitsPerOne =
      .finite (nearestUnits (times number precision * unitsPerOne * precision) unitsPerOne) := by
    refine Magnitude.nearest_eq_finite_of_lt unitsPerOne_pos ?_
    rw [Nat.mul_right_comm]
    refine Nat.mul_lt_mul_of_pos_right (lt_overflowUnits ?_) unitsPerOne_pos
    refine (times_mul_le pos hnumber).trans (Nat.mul_le_mul_right _ ?_)
    decide
  rw [roundDown_eq, Magnitude.div_finite, hquotient, Magnitude.add_finite, hraised,
    Magnitude.floor_finite, Magnitude.mul_finite, ← times, hproduct]

/-- A number whose quotient is none is not rounded down to one. -/
theorem roundDown_of_le (h : overflowUnits * precision ≤ number * unitsPerOne) :
    roundDown (.finite number) precision = .infinite := by
  have hquotient : Magnitude.nearest (number * unitsPerOne) precision = .infinite := by
    rw [Magnitude.nearest_eq_infinite_iff pos]
    exact h
  rw [roundDown_eq, Magnitude.div_finite, hquotient]
  rfl

end Steps

/-! ## Class numbers -/

/-- The class numbers among the values of a field. -/
def classNumbers (reader : FieldReader) (spec : Text) : List Text :=
  (reader.listValues spec).filterMap Dewey.classNumber?

/-- A text is a decimal with the given value. -/
def IsDecimalOf (text : Text) (exact : ℚ) : Prop :=
  ∃ whole fraction, IsDecimal whole fraction ∧ text = decimalText whole fraction ∧
    ShelfKey.decimalValue whole (fraction.getD []) = exact

/-- A class number is the text of a decimal below one thousand, and is read as a double near to
it. -/
structure Reads (classNumber : Text) (exact : ℚ) (number : Nat) : Prop where
  decimal : IsDecimalOf classNumber exact
  lt_thousand : exact < 1000
  read : Binary64.ofNumeral? classNumber = some (.signed false (.finite number))
  le_thousand : number ≤ 1000 * unitsPerOne
  isNear : IsNear number exact

/-- A decimal with few digits in front of the point is read as a double near to it. -/
theorem reads_decimalText {whole : Text} {fraction : Option Text} (h : IsDecimal whole fraction)
    (hwhole : whole.length ≤ 3) :
    ∃ number, Reads (decimalText whole fraction)
      (ShelfKey.decimalValue whole (fraction.getD [])) number := by
  have hsmall := h.ofDigits_lt hwhole
  have hread := ofNumeral?_decimalText h
  have hexact := ShelfKey.decimalValue_eq whole (fraction.getD [])
  generalize ofDigits (whole ++ fraction.getD []) = digits at hsmall hread hexact
  generalize (fraction.getD []).length = places at hsmall hread hexact
  rw [Nat.pow_add] at hsmall
  obtain ⟨number, hnumber⟩ := Magnitude.ofDecimal_finite hsmall
  have hunits := Magnitude.eq_nearestUnits_of_ofDecimal hnumber
  have hpow : 0 < 10 ^ places := Nat.pow_pos (Nat.succ_pos 9)
  refine ⟨number, ⟨_, _, h, rfl, rfl⟩, ?_, hread.trans (by rw [hnumber]), ?_, ?_⟩
  · rw [hexact, div_lt_iff₀ (pow_pos (by norm_num) places)]
    exact_mod_cast hsmall
  · have hthousand := (isExact_of_lt (n := 1000) (by norm_num)).nearestUnits_eq
    rw [hunits, ← hthousand]
    refine Magnitude.nearestUnits_mono ?_ hpow Nat.one_pos
    rw [Nat.mul_one, Nat.mul_right_comm]
    exact Nat.mul_le_mul_right _ hsmall.le
  · have hnear := Magnitude.isNear_nearestUnits (digits * unitsPerOne) hpow
    have hvalue : (((digits * unitsPerOne : Nat) : ℚ) / (10 ^ places : Nat) / unitsPerOne) =
        digits / 10 ^ places := by
      rw [Nat.cast_mul, div_right_comm, mul_div_cancel_right₀ _ cast_unitsPerOne_pos.ne']
      norm_cast
    rwa [hvalue, ← hunits, ← hexact] at hnear

/-- Every class number of a record is read. -/
theorem exists_reads {reader : FieldReader} {spec classNumber : Text}
    (h : classNumber ∈ classNumbers reader spec) :
    ∃ exact number, Reads classNumber exact number := by
  obtain ⟨value, -, hvalue⟩ := List.mem_filterMap.mp h
  obtain ⟨parts, hparts, rfl⟩ := Option.map_eq_some_iff.mp hvalue
  obtain ⟨whole, fraction, hdecimal, hlength, hdigits⟩ := Dewey.isDecimal_of_parse? hparts
  rw [hdigits]
  exact ⟨_, reads_decimalText hdecimal hlength⟩

/-! ## Rounded numbers -/

/-- A finite double is printed and written again. -/
theorem number_text {units : Nat} (h : IsDouble units) (width : ShelfKey.Width) :
    ShelfKey.number (Binary64.text (.signed false (.finite units))) width =
      .ok (width.render false units) := by
  obtain ⟨whole, fraction, hdecimal, htext, hread⟩ := Binary64.exists_text h
  rw [ShelfKey.number, htext, hdecimal.trim, ofNumeral?_decimalText hdecimal, hread]

section Rounded

variable {classNumber : Text} {exact : ℚ} {number precision : Nat}
  (h : Reads classNumber exact number) (pos : 0 < precision)

include h

/-- What is written is the class number rounded down. -/
theorem Reads.roundedText_eq :
    roundedText precision classNumber =
      ShelfKey.number (Binary64.text (.signed false (roundDown (.finite number) precision)))
        width := by
  rw [roundedText, h.read]

include pos

/-- A class number whose quotient is a double is rounded down and written. -/
theorem Reads.roundedText_of_lt (hlt : number * unitsPerOne < overflowUnits * precision) :
    roundedText precision classNumber =
      .ok (width.render false
        (nearestUnits (times number precision * unitsPerOne * precision) unitsPerOne)) := by
  have hdown := roundDown_of_lt pos h.le_thousand hlt
  have hdouble := hdown
  rw [roundDown_eq] at hdouble
  rw [h.roundedText_eq, hdown]
  exact number_text (Magnitude.isDouble_of_mul hdouble) width

/-- One whose quotient is none is not written. -/
theorem Reads.roundedText_of_le (hle : overflowUnits * precision ≤ number * unitsPerOne) :
    roundedText precision classNumber = .error (.nonFinite "inf".toList) := by
  rw [h.roundedText_eq, roundDown_of_le pos hle]
  rfl

end Rounded

/-! ## The numbers of a record -/

/-- A precision that class numbers may be rounded to: a positive finite number. -/
def IsPositive (precision : Binary64) : Prop :=
  ∃ units, 0 < units ∧ precision = .signed false (.finite units)

/-- The quotient of a class number by the precision is beyond the greatest double by half a step or
more. -/
def Overflows (precision : Binary64) (classNumber : Text) : Prop :=
  ∃ number units, Binary64.ofNumeral? classNumber = some (.signed false (.finite number)) ∧
    precision = .signed false (.finite units) ∧ overflowUnits * units ≤ number * unitsPerOne

/-- The quotient of one thousand by the precision, the greatest of all, is a double. -/
def IsAmple (precision : Binary64) : Prop :=
  ∃ units, precision = .signed false (.finite units) ∧
    1000 * unitsPerOne * unitsPerOne < overflowUnits * units

section Numbers

variable {reader : FieldReader} {spec : Text} {precision : Binary64}

/-- Another precision is refused, whatever the record holds. -/
theorem numbers_of_not_isPositive (h : ¬ IsPositive precision) :
    numbers reader spec precision = .error (.invalidPrecision precision) := by
  unfold numbers
  split
  · rename_i units
    exact absurd ⟨units + 1, Nat.succ_pos units, rfl⟩ h
  · rfl

variable {units : Nat} (pos : 0 < units)

include pos

/-- If all class numbers are written, they are listed once. -/
theorem numbers_of_ok {texts : List Text}
    (h : (classNumbers reader spec).mapM (roundedText units) = .ok texts) :
    numbers reader spec (.signed false (.finite units)) =
      .ok (if texts = [] then none else some texts.eraseDups) := by
  obtain ⟨before, rfl⟩ := Nat.exists_eq_succ_of_ne_zero pos.ne'
  rw [classNumbers] at h
  simp only [numbers, h]
  cases texts <;> rfl

/-- If one is not, that is the answer. -/
theorem numbers_of_error {cause : ShelfKey.KeyError}
    (h : (classNumbers reader spec).mapM (roundedText units) = .error cause) :
    numbers reader spec (.signed false (.finite units)) = .error (.unwritable cause) := by
  obtain ⟨before, rfl⟩ := Nat.exists_eq_succ_of_ne_zero pos.ne'
  rw [classNumbers] at h
  simp only [numbers, h]

/-- With a positive precision a class number is written unless its quotient is too large. -/
theorem roundedText_or_overflows {classNumber : Text} (h : classNumber ∈ classNumbers reader spec) :
    (¬ Overflows (.signed false (.finite units)) classNumber ∧
        ∃ text, roundedText units classNumber = .ok text) ∨
      Overflows (.signed false (.finite units)) classNumber ∧
        roundedText units classNumber = .error (.nonFinite "inf".toList) := by
  obtain ⟨exact, number, hreads⟩ := exists_reads h
  rcases Nat.lt_or_ge (number * unitsPerOne) (overflowUnits * units) with hlt | hge
  · refine Or.inl ⟨?_, _, hreads.roundedText_of_lt pos hlt⟩
    rintro ⟨number', units', hread, heq, hle⟩
    rw [hreads.read] at hread
    cases hread
    cases heq
    exact Nat.not_le.mpr hlt hle
  · exact Or.inr ⟨⟨number, units, hreads.read, rfl, hge⟩, hreads.roundedText_of_le pos hge⟩

variable (reader spec)

/-- With a positive precision there are numbers, or the one error that is left. -/
theorem numbers_or_overflows :
    ((∀ classNumber ∈ classNumbers reader spec,
          ¬ Overflows (.signed false (.finite units)) classNumber) ∧
        ∃ result, numbers reader spec (.signed false (.finite units)) = .ok result) ∨
      (∃ classNumber ∈ classNumbers reader spec,
          Overflows (.signed false (.finite units)) classNumber) ∧
        numbers reader spec (.signed false (.finite units)) =
          .error (.unwritable (.nonFinite "inf".toList)) := by
  by_cases hall : ∀ classNumber ∈ classNumbers reader spec,
      ¬ Overflows (.signed false (.finite units)) classNumber
  · have hwritten (classNumber : Text) (hmem : classNumber ∈ classNumbers reader spec) :
        ∃ text, roundedText units classNumber = .ok text :=
      (roundedText_or_overflows pos hmem).elim And.right
        fun hover => absurd hover.1 (hall classNumber hmem)
    choose! text htext using hwritten
    exact Or.inl ⟨hall, _, numbers_of_ok pos (ShelfKey.mapM_eq_ok_map htext)⟩
  · have hfail : ∃ classNumber ∈ classNumbers reader spec,
        Overflows (.signed false (.finite units)) classNumber := by
      simpa using hall
    refine Or.inr ⟨hfail, numbers_of_error pos (ShelfKey.mapM_eq_error ?_ ?_)⟩
    · intro classNumber hmem
      exact (roundedText_or_overflows pos hmem).elim (fun h => Or.inr h.2) fun h => Or.inl h.2
    · obtain ⟨classNumber, hmem, hover⟩ := hfail
      exact ⟨classNumber, hmem, (roundedText_or_overflows pos hmem).elim
        (fun h => absurd hover h.1) And.right⟩

end Numbers

/-- There are numbers exactly if no quotient is too large. -/
theorem exists_numbers_iff {reader : FieldReader} {spec : Text} {precision : Binary64} :
    (∃ result, numbers reader spec precision = .ok result) ↔
      IsPositive precision ∧
        ∀ classNumber ∈ classNumbers reader spec, ¬ Overflows precision classNumber := by
  by_cases hpositive : IsPositive precision
  · obtain ⟨units, pos, rfl⟩ := hpositive
    rcases numbers_or_overflows reader spec pos with
      ⟨hnone, hok⟩ | ⟨hsome, herror⟩
    · exact iff_of_true hok ⟨⟨units, pos, rfl⟩, hnone⟩
    · refine iff_of_false ?_ fun h => ?_
      · rintro ⟨result, hok⟩
        rw [herror] at hok
        contradiction
      · obtain ⟨classNumber, hmem, hover⟩ := hsome
        exact h.2 classNumber hmem hover
  · rw [numbers_of_not_isPositive hpositive]
    exact iff_of_false (fun h => by simp at h) fun h => hpositive h.1

/-- There are two errors, one for each reason. -/
theorem numbers_eq_error {reader : FieldReader} {spec : Text} {precision : Binary64}
    {error : FacetError} (h : numbers reader spec precision = .error error) :
    ¬ IsPositive precision ∧ error = .invalidPrecision precision ∨
      IsPositive precision ∧ error = .unwritable (.nonFinite "inf".toList) := by
  by_cases hpositive : IsPositive precision
  · obtain ⟨units, pos, rfl⟩ := hpositive
    refine Or.inr ⟨⟨units, pos, rfl⟩, ?_⟩
    rcases numbers_or_overflows reader spec pos with
      ⟨-, _, hok⟩ | ⟨-, hinfinite⟩
    · rw [hok] at h
      contradiction
    · exact (Except.error.inj (hinfinite.symm.trans h)).symm
  · rw [numbers_of_not_isPositive hpositive] at h
    exact Or.inl ⟨hpositive, (Except.error.inj h).symm⟩

/-! ## Precisions that never fail -/

namespace IsAmple

variable {precision : Binary64} (h : IsAmple precision)

include h

/-- An ample precision is positive. -/
theorem isPositive : IsPositive precision := by
  obtain ⟨units, rfl, hample⟩ := h
  refine ⟨units, Nat.pos_of_ne_zero ?_, rfl⟩
  rintro rfl
  rw [Nat.mul_zero] at hample
  exact Nat.not_lt_zero _ hample

/-- No quotient by it is too large. -/
theorem not_overflows {reader : FieldReader} {spec classNumber : Text}
    (hmem : classNumber ∈ classNumbers reader spec) : ¬ Overflows precision classNumber := by
  rintro ⟨number, units', hread, heq, hle⟩
  obtain ⟨units, rfl, hample⟩ := h
  obtain ⟨exact, number', hreads⟩ := exists_reads hmem
  rw [hreads.read] at hread
  cases hread
  cases heq
  have hbound := Nat.mul_le_mul_right unitsPerOne hreads.le_thousand
  exact Nat.not_le.mpr hample (hle.trans hbound)

/-- So there are numbers, whatever is read. -/
theorem exists_numbers (reader : FieldReader) (spec : Text) :
    ∃ result, numbers reader spec precision = .ok result :=
  exists_numbers_iff.mpr ⟨h.isPositive, fun _ => h.not_overflows⟩

end IsAmple

/-- Some class number is read as one thousand. -/
theorem exists_thousand : ∃ (record : Record) (spec classNumber : Text),
    classNumber ∈ classNumbers record spec ∧
      Binary64.ofNumeral? classNumber = some (.signed false (.finite (1000 * unitsPerOne))) :=
  ⟨Record.withField {} "082a".toList ["999.99999999999999999".toList], "082a".toList,
    "999.99999999999999999".toList, by decide +kernel, by decide +kernel⟩

/-- A precision with which there are numbers for every record is ample. -/
theorem isAmple_of_forall {precision : Binary64}
    (h : ∀ (record : Record) (spec : Text), ∃ result, numbers record spec precision = .ok result) :
    IsAmple precision := by
  obtain ⟨record, spec, classNumber, hmem, hread⟩ := exists_thousand
  obtain ⟨⟨units, -, rfl⟩, hnone⟩ := exists_numbers_iff.mp (h record spec)
  refine ⟨units, rfl, Nat.lt_of_not_le fun hle => ?_⟩
  exact hnone classNumber hmem ⟨_, units, hread, rfl, hle⟩

/-- What becomes of the Dewey numbers of a record, however its fields are read.  The precision is
refused exactly if it is not a positive finite number.  If it is one, there is a result exactly if
no quotient of a class number by it is too large for a double, and otherwise the error says that a
number is infinite.  With a precision from about `10 ^ -305` on that does not happen whatever is
read, with a smaller one it does for some record. -/
theorem numbers_result (reader : FieldReader) (spec : Text) (precision : Binary64) :
    ((∃ p, numbers reader spec precision = .error (.invalidPrecision p)) ↔
        ¬ IsPositive precision) ∧
      ((∃ result, numbers reader spec precision = .ok result) ↔
        IsPositive precision ∧
          ∀ classNumber ∈ classNumbers reader spec, ¬ Overflows precision classNumber) ∧
      (∀ cause, numbers reader spec precision = .error (.unwritable cause) →
        cause = .nonFinite "inf".toList) ∧
      (IsAmple precision → ∀ (other : FieldReader) (field : Text),
        ∃ result, numbers other field precision = .ok result) ∧
      ((∀ (other : Record) (field : Text), ∃ result, numbers other field precision = .ok result) ↔
        IsAmple precision) := by
  refine ⟨⟨?_, fun hnot => ⟨precision, numbers_of_not_isPositive hnot⟩⟩, exists_numbers_iff, ?_,
    fun hample => hample.exists_numbers, isAmple_of_forall,
    fun hample other => hample.exists_numbers other⟩
  · rintro ⟨p, herror⟩
    rcases numbers_eq_error herror with ⟨hnot, -⟩ | ⟨-, heq⟩
    · exact hnot
    · contradiction
  · intro cause herror
    rcases numbers_eq_error herror with ⟨-, heq⟩ | ⟨-, heq⟩
    · contradiction
    · exact FacetError.unwritable.inj heq

/-- A class number whose quotient by a tiny precision is too large. -/
theorem tinyPrecision_fails :
    IsPositive (.signed false (.finite 2024)) ∧
      numbers (Record.withField {} "082a".toList ["813.54".toList]) "082a".toList
        (.signed false (.finite 2024)) = .error (.unwritable (.nonFinite "inf".toList)) :=
  ⟨⟨2024, by decide, rfl⟩, by decide +kernel⟩

end DeweyFacet
end Shelfmark
