import Shelfmark.Proofs.Number.Monotone
import Shelfmark.Proofs.ShelfKey.Component
import Shelfmark.Proofs.ShelfKey.Place
import Shelfmark.Proofs.Text.Bytes

/-!
# Shelf keys - Numbers in numeric order

A decimal goes through double precision and through one more rounding before it stands in a key,
and neither puts two decimals in the wrong order.  So written numbers are in the order of the
decimals they are written from, as long as their digits in front of the point fit the width: a
number that is rounded up to one digit more has no place in the columns.

Main results:

- Theorem `fixed_inj`: what is written tells the number.
- Theorem `number_mono`: of two decimals the greater one is not written as the smaller number.
- Theorem `number_bytes_ascend`: written numbers that fit ascend as bytes where the decimals ascend.
-/

namespace Shelfmark
namespace ShelfKey

open Number (IsDecimal Magnitude decimalText ofDigits roundHalfEven unitsPerOne)
open Number.FixedPoint (ofScaled)

/-! ## The order of values -/

/-- The value of a decimal is that of its digits, divided by the power of ten of its fraction. -/
theorem decimalValue_eq (whole fraction : Text) :
    decimalValue whole fraction = ofDigits (whole ++ fraction) / 10 ^ fraction.length := by
  have hne : (10 : ℚ) ^ fraction.length ≠ 0 := pow_ne_zero _ (by norm_num)
  rw [decimalValue, Number.ofDigits_append]
  push_cast
  field_simp

/-- Values compare as their digits do over a common denominator. -/
theorem decimalValue_le_iff (whole fraction whole' fraction' : Text) :
    decimalValue whole fraction ≤ decimalValue whole' fraction' ↔
      ofDigits (whole ++ fraction) * 10 ^ fraction'.length ≤
        ofDigits (whole' ++ fraction') * 10 ^ fraction.length := by
  have hpos (n : Nat) : (0 : ℚ) < 10 ^ n := pow_pos (by norm_num) n
  rw [decimalValue_eq, decimalValue_eq, div_le_div_iff₀ (hpos _) (hpos _)]
  exact_mod_cast Iff.rfl

/-! ## Digits in columns -/

variable {before places : Nat}

/-- What is written tells the number. -/
theorem fixed_inj {m n : Nat} (h : fixed before places m = fixed before places n) : m = n := by
  have hdigits (k : Nat) : ofDigits ((fixed before places k).filter Char.isDigit) = k := by
    obtain ⟨hwhole, hfraction⟩ := Number.FixedPoint.isDigit_of_mem k places
    have hpadded : ∀ c ∈ Text.padZeros before (ofScaled k places).whole, c.isDigit :=
      Number.isDigit_of_mem_padZeros hwhole
    have hfilter : (fixed before places k).filter Char.isDigit =
        Text.padZeros before (ofScaled k places).whole ++ (ofScaled k places).fraction := by
      rw [fixed, List.filter_append, List.filter_eq_self.mpr hpadded]
      split
      · rename_i hzero
        rw [hzero, Number.FixedPoint.fraction_zero, List.filter_nil]
      · rw [List.filter_cons_of_neg (by decide), List.filter_eq_self.mpr hfraction]
    rw [hfilter, ofDigits_fixed]
  rw [← hdigits m, h, hdigits n]

/-- What is written with no more digits in front of the point than asked for fits the width. -/
theorem lt_of_integerDigits {n : Nat}
    (h : ((fixed before places n).takeWhile Char.isDigit).length ≤ before) :
    n < 10 ^ (before + places) := by
  have hpadded : ∀ c ∈ Text.padZeros before (ofScaled n places).whole, c.isDigit :=
    Number.isDigit_of_mem_padZeros (Number.FixedPoint.isDigit_of_mem n places).1
  have hinteger : (fixed before places n).takeWhile Char.isDigit =
      Text.padZeros before (ofScaled n places).whole := by
    refine (Text.takeWhile_run hpadded fun c hc => ?_).1
    split at hc
    · contradiction
    · obtain rfl := Option.some.inj hc
      rfl
  rw [hinteger, Number.length_padZeros] at h
  exact Number.FixedPoint.lt_of_length_whole_le (by omega)

/-! ## Written numbers -/

section Written

variable (hbefore : 0 < before) {whole whole' : Text} {fraction fraction' : Option Text}
  (h : IsDecimal whole fraction) (h' : IsDecimal whole' fraction')

include hbefore h

/-- A decimal that is written at all is read as a finite double and written from it. -/
theorem exists_of_number {s : Text}
    (hs : number (decimalText whole fraction) ⟨before, places⟩ = .ok s) :
    ∃ units, Magnitude.ofDecimal (ofDigits (whole ++ fraction.getD []))
        (-((fraction.getD []).length : Int)) = .finite units ∧
      s = fixed before places (roundHalfEven (units * 10 ^ places) unitsPerOne) := by
  rw [number, h.trim, Number.ofNumeral?_decimalText h] at hs
  cases hsize : Magnitude.ofDecimal (ofDigits (whole ++ fraction.getD []))
      (-((fraction.getD []).length : Int)) with
  | finite units =>
    rw [hsize] at hs
    exact ⟨units, rfl, (Except.ok.inj hs).symm.trans (render_eq_fixed hbefore places units)⟩
  | infinite =>
    rw [hsize] at hs
    cases hs

include h'

/-- Of two decimals the greater one is not written as the smaller number. -/
theorem number_mono {m n : Nat}
    (hm : number (decimalText whole fraction) ⟨before, places⟩ = .ok (fixed before places m))
    (hn : number (decimalText whole' fraction') ⟨before, places⟩ = .ok (fixed before places n))
    (hle : decimalValue whole (fraction.getD []) ≤ decimalValue whole' (fraction'.getD [])) :
    m ≤ n := by
  obtain ⟨units, hread, hwritten⟩ := exists_of_number hbefore h hm
  obtain ⟨units', hread', hwritten'⟩ := exists_of_number hbefore h' hn
  have hunits : units ≤ units' :=
    Magnitude.ofDecimal_mono hread hread' ((decimalValue_le_iff _ _ _ _).mp hle)
  rw [fixed_inj hwritten, fixed_inj hwritten']
  exact Number.roundHalfEven_mono (Nat.mul_le_mul_right _ hunits) Number.unitsPerOne_pos

/-- Numbers are written in the order of the decimals, byte by byte, if none needs more digits in
front of the point than are asked for.  They are equally long then, and none ends in a point. -/
theorem number_bytes_ascend {s t : Text}
    (hle : decimalValue whole (fraction.getD []) ≤ decimalValue whole' (fraction'.getD []))
    (hs : number (decimalText whole fraction) ⟨before, places⟩ = .ok s)
    (ht : number (decimalText whole' fraction') ⟨before, places⟩ = .ok t)
    (hsfits : (s.takeWhile Char.isDigit).length ≤ before)
    (htfits : (t.takeWhile Char.isDigit).length ≤ before) :
    (compare s.bytes t.bytes).isLE = true ∧ s.length = t.length ∧
      s.getLast? ≠ some '.' ∧ t.getLast? ≠ some '.' := by
  obtain ⟨units, -, rfl⟩ := exists_of_number hbefore h hs
  obtain ⟨units', -, rfl⟩ := exists_of_number hbefore h' ht
  have hm := lt_of_integerDigits hsfits
  have hn := lt_of_integerDigits htfits
  have hlast (k : Nat) : (fixed before places k).getLast? ≠ some '.' := fun hpoint =>
    absurd ((endsWithDigit_fixed hbefore places k).isDigit '.' hpoint) (by decide)
  refine ⟨?_, ?_, hlast _, hlast _⟩
  · rw [Text.compare_bytes, compare_fixed hbefore hm hn, Nat.isLE_compare]
    exact number_mono hbefore h h' hs ht hle
  · rw [length_fixed hbefore hm, length_fixed hbefore hn]

end Written

/-- Both decimals are rounded up, one of them with a carry into the digits in front of the point. -/
theorem carry_bytes_ascend :
    number "99.4999".toList ⟨3, 2⟩ = .ok "099.50".toList ∧
      number "99.99500000000001".toList ⟨3, 2⟩ = .ok "100.00".toList ∧
      (compare (Text.bytes "099.50".toList) (Text.bytes "100.00".toList)).isLE = true := by
  have hs : number "99.4999".toList ⟨3, 2⟩ = .ok "099.50".toList := by decide +kernel
  have ht : number "99.99500000000001".toList ⟨3, 2⟩ = .ok "100.00".toList := by decide +kernel
  have h : IsDecimal "99".toList (some "4999".toList) := ⟨by simp, by simp, by simp⟩
  have h' : IsDecimal "99".toList (some "99500000000001".toList) :=
    ⟨by simp, by simp, by simp⟩
  have hle : decimalValue "99".toList "4999".toList ≤
      decimalValue "99".toList "99500000000001".toList :=
    (decimalValue_le_iff _ _ _ _).mpr (by decide +kernel)
  exact ⟨hs, ht, (number_bytes_ascend (Nat.succ_pos 2) h h' hle hs ht (by decide) (by decide)).1⟩

end ShelfKey
end Shelfmark
