import Shelfmark.Proofs.Number.Nearest
import Shelfmark.Proofs.ShelfKey.Component

/-!
# Shelf keys - Numbers written again

A written number is a plain decimal, and a number like any other.  It is read as a double that
may be another than the one it was written from, but it is written again with the same digits:
the first double is no nearer to it than the second.

Main results:

- Theorem `scaled_cut`: the digits that a width leaves have the value of the rounded number.
- Theorem `exists_decimalText`: a number is written as a plain decimal of that value.
- Theorem `render_congr`: how a number is written depends on what it is rounded to.
- Theorem `number_idempotent`: a written number is written again as it is.
-/

namespace Shelfmark
namespace ShelfKey

open Number (FixedPoint IsDecimal IsDouble decimalText ofDigits roundHalfEven scaled unitsPerOne)
open Number.FixedPoint (ofScaled)

variable (width : Width)

/-! ## The digits of a width -/

/-- The number of digits to which a width rounds. -/
def Width.places : Nat :=
  if width.after < 0 then mostPlaces else width.after.toNat

/-- The number that is written of a number of units, without the point. -/
def Width.rounded (units : Nat) : Nat :=
  roundHalfEven (units * 10 ^ width.places) unitsPerOne

/-- The digits of a rounded number padded or cut to a width. -/
def Width.cut (exact : FixedPoint) : FixedPoint where
  whole :=
    if 0 < width.before then Text.padZeros width.before.toNat exact.whole
    else if exact.whole = ['0'] then []
    else exact.whole
  fraction := if width.after < 0 then exact.fraction.dropEndWhile (· == '0') else exact.fraction

/-- The digits of a number of units are those of the rounded number. -/
theorem digits_eq (units : Nat) :
    width.digits units = width.cut (ofScaled (width.rounded units) width.places) :=
  rfl

/-- The digits in front of the point keep their value. -/
theorem ofDigits_whole_cut (exact : FixedPoint) :
    ofDigits (width.cut exact).whole = ofDigits exact.whole := by
  unfold Width.cut
  dsimp only
  split_ifs with hbefore hzero
  · exact Number.ofDigits_padZeros _ _
  · rw [hzero]
    rfl
  · rfl

/-- The digits behind the point lose only zeros. -/
theorem exists_fraction_cut (exact : FixedPoint) :
    ∃ n, exact.fraction = (width.cut exact).fraction ++ List.replicate n '0' := by
  unfold Width.cut
  dsimp only
  split_ifs
  · exact Text.exists_replicate_of_dropEndWhile '0' exact.fraction
  · exact ⟨0, (List.append_nil _).symm⟩

/-- The digits that a width leaves have the value of the rounded number. -/
theorem scaled_cut (n : Nat) :
    (width.cut (ofScaled n width.places)).fraction.length ≤ width.places ∧
      scaled width.places (width.cut (ofScaled n width.places)).whole
        (width.cut (ofScaled n width.places)).fraction = n := by
  obtain ⟨zeros, hzeros⟩ := exists_fraction_cut width (ofScaled n width.places)
  have hlength := congrArg List.length hzeros
  rw [FixedPoint.length_fraction, List.length_append, List.length_replicate] at hlength
  refine ⟨by omega, ?_⟩
  rw [Number.scaled_congr (ofDigits_whole_cut width _), ← Number.scaled_append_replicate _ hlength.ge,
    ← hzeros, FixedPoint.scaled_ofScaled]

/-- A width leaves digits only. -/
theorem isDigit_of_mem_cut (n : Nat) :
    (∀ c ∈ (width.cut (ofScaled n width.places)).whole, c.isDigit) ∧
      ∀ c ∈ (width.cut (ofScaled n width.places)).fraction, c.isDigit := by
  obtain ⟨hwhole, hfraction⟩ := FixedPoint.isDigit_of_mem n width.places
  obtain ⟨zeros, hzeros⟩ := exists_fraction_cut width (ofScaled n width.places)
  constructor
  · unfold Width.cut
    dsimp only
    split_ifs
    · exact Number.isDigit_of_mem_padZeros hwhole
    · simp
    · exact hwhole
  · intro c hc
    exact hfraction c (hzeros ▸ List.mem_append_left _ hc)

/-! ## Written numbers -/

/-- A number is written as a plain decimal that has the value of the rounded number. -/
theorem exists_decimalText (units : Nat) :
    ∃ whole fraction, IsDecimal whole fraction ∧ (fraction.getD []).length ≤ width.places ∧
      scaled width.places whole (fraction.getD []) = width.rounded units ∧
      width.render false units = decimalText whole fraction := by
  have hdigits := digits_eq width units
  obtain ⟨hlength, hscaled⟩ := scaled_cut width (width.rounded units)
  obtain ⟨hwhole, hfraction⟩ := isDigit_of_mem_cut width (width.rounded units)
  rw [← hdigits] at hlength hscaled hwhole hfraction
  unfold Width.render
  generalize width.rounded units = n at *
  generalize width.digits units = digits at *
  obtain ⟨whole, fraction⟩ := digits
  dsimp only at *
  cases fraction with
  | nil =>
    cases whole with
    | nil =>
      -- Nothing is left of zero, and one digit is written for it.
      refine ⟨['0'], none, ⟨by simp, by simp, by simp⟩, by simp, ?_, rfl⟩
      rw [← hscaled]
      rfl
    | cons c whole =>
      exact ⟨c :: whole, none, ⟨hwhole, by simp, by simp⟩, hlength, hscaled, by simp [decimalText]⟩
  | cons d fraction =>
    exact ⟨whole, some (d :: fraction), ⟨hwhole, hfraction, by simp⟩, hlength, hscaled,
      by simp [decimalText]⟩

/-- How a number is written depends on what it is rounded to. -/
theorem render_congr {units other : Nat} (h : width.rounded units = width.rounded other)
    (negative : Bool) : width.render negative units = width.render negative other := by
  have hdigits : width.digits units = width.digits other := by
    rw [digits_eq, digits_eq, h]
  unfold Width.render
  rw [hdigits]

/-- A number that is written from a double, with its sign or without it, is written again. -/
theorem number_signed {units : Nat} (h : IsDouble units) (negative : Bool) :
    number ((if negative then ['-'] else []) ++ width.render false units) width =
      .ok (width.render negative units) := by
  obtain ⟨whole, fraction, hdecimal, hlength, hscaled, htext⟩ := exists_decimalText width units
  obtain ⟨reread, hread, hround⟩ :=
    Number.Magnitude.roundHalfEven_ofDecimal_of_isDouble hlength h hscaled.symm
  rw [htext, number, hdecimal.trim_signed, Number.ofNumeral?_signed hdecimal, hread]
  exact congrArg Except.ok (render_congr width (hround.trans hscaled) negative)

/-- Every number is written with every width, and a written number is written again as it is. -/
theorem number_idempotent {value : Text} {negative : Bool} {units : Nat}
    (h : Number.Binary64.ofNumeral? value.trim = some (.signed negative (.finite units))) :
    ∃ s, number value width = .ok s ∧ number s width = .ok s := by
  refine ⟨width.render negative units, ?_, ?_⟩
  · rw [number, h]
  · have hdouble := Number.isDouble_of_ofNumeral? h
    rcases render_eq_or width negative units with hunsigned | ⟨rfl, hsigned⟩
    · rw [hunsigned]
      exact number_signed width hdouble false
    · conv_lhs => rw [hsigned]
      exact number_signed width hdouble true

/-- A negative number half way between two decimals is written without the zero in front of the
point. -/
theorem negativeTie_idempotent :
    Number.Binary64.ofNumeral? (Text.trim " -0.125 ".toList) =
        some (.signed true (.finite (2 ^ 1071))) ∧
      number " -0.125 ".toList ⟨0, 2⟩ = .ok "-.12".toList ∧
      ∃ s, number " -0.125 ".toList ⟨0, 2⟩ = .ok s ∧ number s ⟨0, 2⟩ = .ok s := by
  have hread : Number.Binary64.ofNumeral? (Text.trim " -0.125 ".toList) =
      some (.signed true (.finite (2 ^ 1071))) := by decide +kernel
  exact ⟨hread, by decide +kernel, number_idempotent ⟨0, 2⟩ hread⟩

end ShelfKey
end Shelfmark
