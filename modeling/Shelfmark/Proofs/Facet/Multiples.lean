import Mathlib.Order.Bounds.Basic
import Shelfmark.Proofs.Facet.Dewey
import Shelfmark.Proofs.Record.Once
import Shelfmark.Proofs.ShelfKey.Idempotence

/-!
# Facets - Rounding down to ones, tens and hundreds

A class number is rounded down to a multiple of the precision, but one that is within about a
billionth of the precision below a multiple is rounded up to it: that much is added to the quotient,
so that a quotient slightly off does not lose a whole step.  All other errors together, of reading
the class number, of dividing and of adding, stay below `10 ^ -12`, and the product is exact.

Main results:

- Theorem `Reads.roundsDown`: what the class number is rounded to.
- Theorem `numbers_roundsDown`: the numbers of a record are its class numbers rounded down, each
  once and in order.
-/

namespace Shelfmark
namespace DeweyFacet

open CallNumber (Dewey)
open Number
open Number.Magnitude (nearestUnits)

/-! ## Multiples -/

/-- The multiples of a number up to a bound. -/
def multiplesUpTo (p : Nat) (bound : ℚ) : Set ℚ :=
  {m | (∃ k : ℤ, m = k * p) ∧ m ≤ bound}

/-- One number is another one rounded down to a multiple, with a tolerance of a billionth of the
step.  Where no multiple is so near above the number, there is nothing to tolerate. -/
structure RoundsDown (p : Nat) (n r : ℚ) : Prop where
  tolerant : ∃ shift : ℚ, |shift - p / 10 ^ 9| ≤ 1 / 10 ^ 12 ∧
    IsGreatest (multiplesUpTo p (n + shift)) r
  strict : (∀ k : ℤ, n < k * p → n + p / 10 ^ 9 + 1 / 10 ^ 12 < k * p) →
    IsGreatest (multiplesUpTo p n) r

/-- A tolerance below the distance to the next multiple is not seen. -/
theorem roundsDown_of_isGreatest {p : Nat} {n shift r : ℚ} (pos : 0 < p)
    (hshift : |shift - p / 10 ^ 9| ≤ 1 / 10 ^ 12)
    (h : IsGreatest (multiplesUpTo p (n + shift)) r) : RoundsDown p n r := by
  refine ⟨⟨shift, hshift, h⟩, fun hfar => ?_⟩
  obtain ⟨hlow, hhigh⟩ := abs_le.mp hshift
  have hone : (1 : ℚ) ≤ p := by exact_mod_cast pos
  obtain ⟨⟨⟨k, rfl⟩, hle⟩, hupper⟩ := h
  refine ⟨⟨⟨k, rfl⟩, ?_⟩, ?_⟩
  · by_contra hlt
    have hnext := hfar k (not_le.mp hlt)
    linarith
  · rintro m ⟨hmultiple, hm⟩
    refine hupper ⟨hmultiple, ?_⟩
    linarith

/-! ## Errors -/

/-- Multiplied by a number, a rounding is off by so many times its error. -/
theorem isNear_mul {units : Nat} {exact : ℚ} (h : IsNear units exact) (p : Nat) :
    |p * value units - p * exact| ≤ p * exact / 2 ^ 53 + p * underflow := by
  rw [← mul_sub, abs_mul, Nat.abs_cast, mul_div_assoc, ← mul_add]
  exact mul_le_mul_of_nonneg_left h (Nat.cast_nonneg p)

section Whole

variable {classNumber : Text} {n : ℚ} {number p : Nat} (pos : 0 < p) (hp : p ≤ 1000)

section Raised

variable (hn : n < 1000) (hnear : IsNear number n)

include pos hp hn hnear

/-- Reading, dividing and adding the tolerance are hardly off. -/
theorem raised_near :
    |p * value (raised number (p * unitsPerOne)) - (n + p / 10 ^ 9)| ≤ 1 / 10 ^ 12 := by
  have hprecision : (0 : ℚ) < p := Nat.cast_pos.mpr pos
  have hthousand : (p : ℚ) ≤ 1000 := by exact_mod_cast hp
  have hunderflow : p * underflow ≤ 1000 * (1 / 10 ^ 30) :=
    mul_le_mul hthousand underflow_le underflow_nonneg (by norm_num)
  have hone : underflow ≤ 1 / 10 ^ 30 := underflow_le
  have hread := abs_le.mp hnear
  have hquotient :=
    isNear_mul (isNear_quotient number (Nat.mul_pos pos unitsPerOne_pos)) p
  rw [value_mul_unitsPerOne, mul_div_cancel₀ _ hprecision.ne'] at hquotient
  have htolerance := abs_le.mp (isNear_mul isNear_toleranceUnits p)
  have hraised :=
    abs_le.mp (isNear_mul (isNear_raised number (p * unitsPerOne)) p)
  replace hquotient := abs_le.mp hquotient
  rw [mul_add] at hraised
  rw [abs_le]
  constructor
  · linarith
  · linarith

end Raised

include pos

/-- What the precision fits into times the precision is the greatest multiple. -/
theorem isGreatest_times :
    IsGreatest (multiplesUpTo p (p * value (raised number (p * unitsPerOne))))
      (times number (p * unitsPerOne) * p : Nat) := by
  have hprecision : (0 : ℚ) < p := Nat.cast_pos.mpr pos
  obtain ⟨hlow, hhigh⟩ := value_floor (raised number (p * unitsPerOne))
  rw [← times] at hlow hhigh
  push_cast
  refine ⟨⟨⟨times number (p * unitsPerOne), rfl⟩, ?_⟩, ?_⟩
  · rw [mul_comm]
    exact mul_le_mul_of_nonneg_left hlow hprecision.le
  · rintro m ⟨⟨k, rfl⟩, hle⟩
    rw [mul_comm (k : ℚ)] at hle
    have hlt : (k : ℚ) < times number (p * unitsPerOne) + 1 :=
      (le_of_mul_le_mul_left hle hprecision).trans_lt hhigh
    have hk : k ≤ times number (p * unitsPerOne) := Int.lt_add_one_iff.mp (by exact_mod_cast hlt)
    refine mul_le_mul_of_nonneg_right ?_ hprecision.le
    exact_mod_cast hk

/-- So the number that it is read from is rounded down. -/
theorem Reads.roundsDown (h : Reads classNumber n number) (hp : p ≤ 1000) :
    RoundsDown p n (times number (p * unitsPerOne) * p : Nat) := by
  have hnear := raised_near pos hp h.lt_thousand h.isNear
  rw [← sub_sub] at hnear
  refine roundsDown_of_isGreatest pos hnear ?_
  rw [add_sub_cancel]
  exact isGreatest_times pos

end Whole

/-! ## Digits -/

/-- A whole number is displayed with three digits or more, and no point. -/
def displayed (n : Nat) : Text :=
  Text.padZeros 3 (Nat.toDigits 10 n)

/-- It is not empty. -/
theorem displayed_ne_nil (n : Nat) : displayed n ≠ [] := by
  rw [← List.length_pos_iff, displayed, length_padZeros]
  omega

/-- It is read as the number. -/
theorem isDecimalOf_displayed (n : Nat) : IsDecimalOf (displayed n) n := by
  have hdigits : ∀ c ∈ displayed n, c.isDigit := isDigit_of_mem_padZeros isDigit_of_mem_toDigits
  refine ⟨displayed n, none, ⟨hdigits, by simp, by simpa using displayed_ne_nil n⟩, rfl, ?_⟩
  rw [ShelfKey.decimalValue_eq, Option.getD_none, List.append_nil, displayed, ofDigits_padZeros,
    ofDigits_toDigits]
  norm_num

/-- The digits of a whole number are its own, with nothing behind the point. -/
theorem digits_whole (n : Nat) : width.digits (n * unitsPerOne) = ⟨displayed n, []⟩ := by
  have hround : width.rounded (n * unitsPerOne) = n * 10 ^ width.places := by
    rw [ShelfKey.Width.rounded, Nat.mul_right_comm]
    exact roundHalfEven_mul_right _ _ unitsPerOne_pos
  rw [ShelfKey.digits_eq, hround, FixedPoint.ofScaled_mul]
  rfl

/-- So it is written as it is displayed. -/
theorem render_whole (n : Nat) : width.render false (n * unitsPerOne) = displayed n := by
  unfold ShelfKey.Width.render
  rw [digits_whole]
  simp [displayed_ne_nil]

/-- A class number is displayed as the multiple that it is rounded down to. -/
theorem Reads.roundedText_whole {classNumber : Text} {n : ℚ} {number p : Nat}
    (h : Reads classNumber n number) (pos : 0 < p) :
    roundedText (p * unitsPerOne) classNumber =
      .ok (displayed (times number (p * unitsPerOne) * p)) := by
  have hunits : 0 < p * unitsPerOne := Nat.mul_pos pos unitsPerOne_pos
  have hfinite : number * unitsPerOne < overflowUnits * (p * unitsPerOne) := by
    have hthousand : 1000 ≤ Nat.pow 2 64 := by decide
    have hnumber : number < overflowUnits :=
      lt_overflowUnits (h.le_thousand.trans (Nat.mul_le_mul_right _ hthousand))
    calc
      number * unitsPerOne < overflowUnits * unitsPerOne :=
        Nat.mul_lt_mul_of_pos_right hnumber unitsPerOne_pos
      _ ≤ overflowUnits * (p * unitsPerOne) :=
        Nat.mul_le_mul_left _ (Nat.le_mul_of_pos_left _ pos)
  have hsmall : times number (p * unitsPerOne) * p < 2 ^ 53 := by
    have hle := times_mul_le hunits h.le_thousand
    rw [← Nat.mul_assoc] at hle
    exact (Nat.le_of_mul_le_mul_right hle unitsPerOne_pos).trans_lt (by norm_num)
  -- The product is a whole number with few bits, so it is not rounded.
  have hproduct : nearestUnits (times number (p * unitsPerOne) * unitsPerOne * (p * unitsPerOne))
      unitsPerOne = times number (p * unitsPerOne) * p * unitsPerOne := by
    have hexact := (isExact_of_lt hsmall).nearestUnits_eq
    have hscaled := Magnitude.nearestUnits_mul_mul
      (times number (p * unitsPerOne) * p * unitsPerOne) 1 unitsPerOne_pos
    rw [Nat.one_mul] at hscaled
    rw [Nat.mul_mul_mul_comm, ← Nat.mul_assoc, hscaled, hexact]
  rw [h.roundedText_of_lt hunits hfinite, hproduct, render_whole]

/-! ## The numbers of a record -/

/-- The values of a field that are shaped like a Dewey number. -/
def deweyValues (reader : FieldReader) (spec : Text) : List Text :=
  (reader.listValues spec).filter Scheme.isDewey

/-- A Dewey value is displayed as its class number rounded down to a multiple. -/
def DisplayedAs (p : Nat) (value text : Text) : Prop :=
  ∃ (classNumber : Text) (n : ℚ) (r : Nat), Dewey.classNumber? value = some classNumber ∧
    IsDecimalOf classNumber n ∧ RoundsDown p n r ∧ text = displayed r ∧ IsDecimalOf text r

/-- Exactly the values that are shaped like a Dewey number have a class number. -/
theorem isSome_classNumber? (value : Text) :
    (Dewey.classNumber? value).isSome = Scheme.isDewey value := by
  rw [Dewey.classNumber?, Option.isSome_map, Bool.eq_iff_iff, Option.isSome_iff_exists]
  constructor
  · rintro ⟨parts, hparts⟩
    exact Dewey.takeClass_ne_nil_iff.mp (Dewey.classDigits_of_parse? hparts).1
  · exact Dewey.exists_parse?_of_isDewey

/-- So the class numbers of a record are those of its Dewey values. -/
theorem classNumbers_eq {reader : FieldReader} {spec : Text} {classNumber : Text → Text}
    (h : ∀ value ∈ deweyValues reader spec, Dewey.classNumber? value = some (classNumber value)) :
    classNumbers reader spec = (deweyValues reader spec).map classNumber := by
  rw [classNumbers, ← List.filterMap_eq_map, deweyValues, List.filterMap_filter]
  refine List.filterMap_congr fun value hvalue => ?_
  cases hdewey : Scheme.isDewey value with
  | true => simpa [hdewey] using h value (List.mem_filter.mpr ⟨hvalue, hdewey⟩)
  | false => simpa [hdewey] using isSome_classNumber? value

/-- With a whole precision up to one thousand there are numbers whatever the record holds: its class
numbers rounded down, each once and in order. -/
theorem numbers_roundsDown (reader : FieldReader) (spec : Text) {p : Nat} (pos : 0 < p)
    (hp : p ≤ 1000) :
    ∃ rounded : Text → Text,
      (∀ value ∈ deweyValues reader spec, DisplayedAs p value (rounded value)) ∧
        ∃ result, numbers reader spec (.signed false (.finite (p * unitsPerOne))) = .ok result ∧
          (result = none ↔ deweyValues reader spec = []) ∧
          ∀ texts ∈ result, ListsOnce ((deweyValues reader spec).map rounded) texts := by
  have hvalue (value : Text) (hmem : value ∈ deweyValues reader spec) :
      ∃ classNumber text, Dewey.classNumber? value = some classNumber ∧
        roundedText (p * unitsPerOne) classNumber = .ok text ∧ DisplayedAs p value text := by
    have hsome := (isSome_classNumber? value).trans (List.mem_filter.mp hmem).2
    obtain ⟨classNumber, hclass⟩ := Option.isSome_iff_exists.mp hsome
    have hlisted : classNumber ∈ classNumbers reader spec :=
      List.mem_filterMap.mpr ⟨value, (List.mem_filter.mp hmem).1, hclass⟩
    obtain ⟨n, number, hreads⟩ := exists_reads hlisted
    exact ⟨classNumber, _, hclass, hreads.roundedText_whole pos, classNumber, n, _, hclass,
      hreads.decimal, hreads.roundsDown pos hp, rfl, isDecimalOf_displayed _⟩
  choose! classNumber rounded hclass htext hdisplayed using hvalue
  have hall : (classNumbers reader spec).mapM (roundedText (p * unitsPerOne)) =
      .ok ((deweyValues reader spec).map rounded) := by
    rw [classNumbers_eq hclass, List.mapM_map]
    exact ShelfKey.mapM_eq_ok_map htext
  refine ⟨rounded, hdisplayed, _, numbers_of_ok (Nat.mul_pos pos unitsPerOne_pos) hall, ?_, ?_⟩
  · simp
  · intro texts htexts
    split at htexts
    · contradiction
    · exact Option.some.inj htexts ▸ listsOnce_eraseDups _

/-- A record with three Dewey numbers among its call numbers. -/
def fiction : Record :=
  Record.withField {} "082a".toList
    ["813.54 .S64".toList, "PS3511".toList, "810.9".toList, "813.59".toList]

/-- All three are rounded down to the same ten. -/
theorem fiction_tens :
    numbers fiction "082a".toList (.signed false (.finite (10 * unitsPerOne))) =
        .ok (some ["810".toList]) ∧
      ∃ rounded : Text → Text,
        (∀ value ∈ deweyValues fiction "082a".toList, DisplayedAs 10 value (rounded value)) ∧
          ∃ result, numbers fiction "082a".toList (.signed false (.finite (10 * unitsPerOne))) =
              .ok result ∧
            (result = none ↔ deweyValues fiction "082a".toList = []) ∧
            ∀ texts ∈ result,
              ListsOnce ((deweyValues fiction "082a".toList).map rounded) texts :=
  ⟨by decide +kernel, numbers_roundsDown fiction _ (by decide) (by decide)⟩

/-- A class number a ten-billionth below a whole number is rounded up to it. -/
theorem almostWhole_roundedUp :
    deweyValues (Record.withField {} "082a".toList ["813.9999999999".toList]) "082a".toList =
        ["813.9999999999".toList] ∧
      Dewey.classNumber? "813.9999999999".toList = some "813.9999999999".toList ∧
      IsDecimalOf "813.9999999999".toList (8139999999999 / 10 ^ 10) ∧
      numbers (Record.withField {} "082a".toList ["813.9999999999".toList]) "082a".toList
        (.signed false (.finite (1 * unitsPerOne))) = .ok (some ["814".toList]) ∧
      IsDecimalOf "814".toList (814 : Nat) ∧
      ¬ IsGreatest (multiplesUpTo 1 (8139999999999 / 10 ^ 10)) (814 : Nat) := by
  refine ⟨by decide +kernel, by decide +kernel, ?_, by decide +kernel, isDecimalOf_displayed 814,
    ?_⟩
  · refine ⟨"813".toList, some "9999999999".toList, ⟨by simp, by simp, by simp⟩, rfl, ?_⟩
    have hdigits : ofDigits ("813".toList ++ "9999999999".toList) = 8139999999999 := by
      decide +kernel
    rw [ShelfKey.decimalValue_eq, Option.getD_some, hdigits]
    rfl
  · rintro ⟨⟨-, hle⟩, -⟩
    norm_num at hle

end DeweyFacet
end Shelfmark
