import Shelfmark.Proofs.ShelfKey.Browsing
import Shelfmark.Proofs.ShelfKey.NumericOrder

/-!
# Shelf keys - Dewey numbers in class order

The key of a Dewey number begins with its class number in three columns, a point and eight
columns, whatever is behind it.  Where the class numbers are written differently, they decide
before cutters and suffixes do.

The columns hold every class number but one: what is rounded up to one thousand takes a fourth
digit in front of the point.  Written so it stands behind the class numbers below 101 and in front
of all others, although it is the greatest.

Main results:

- Theorem `exists_hasClass`: the class number that the key of a Dewey number begins with.
- Theorem `compare_dewey_thousand`: where a key with a fourth digit stands.
- Theorem `dewey_bytes_ascend_iff`: Dewey keys are in the order of the class numbers, unless a
  class number is rounded up to one thousand.
-/

namespace Shelfmark
namespace ShelfKey

open CallNumber (Dewey)
open Number (IsDecimal decimalText ofDigits scaled)
open Number.FixedPoint (ofScaled)

/-! ## The class part -/

/-- One thousand in units of the last place of a class number. -/
def thousand : Nat :=
  1000 * 10 ^ 8

/-- A call number whose class number has the given value, and whose key begins with the given
number of units of the last place. -/
structure HasClass (callNumber : Text) (value : ℚ) (units : Nat) : Prop where
  classNumber? : ∃ whole fraction, IsDecimal whole fraction ∧ whole.length ≤ 3 ∧
    Dewey.classNumber? callNumber = some (decimalText whole fraction) ∧
    decimalValue whole (fraction.getD []) = value ∧
    number (decimalText whole fraction) deweyClassWidth = .ok (fixed 3 8 units)
  key : ∃ rest, dewey callNumber = fixed 3 8 units ++ rest

/-- Every call number with the shape of a Dewey number has a class number that is written. -/
theorem exists_hasClass {callNumber : Text} (h : Scheme.isDewey callNumber = true) :
    ∃ value units, HasClass callNumber value units := by
  obtain ⟨parts, hparts⟩ := Dewey.exists_parse?_of_isDewey h
  obtain ⟨whole, fraction, hdecimal, hlength, hdigits⟩ := Dewey.isDecimal_of_parse? hparts
  obtain ⟨units, hnumber⟩ := exists_number_decimalText 3 8 hdecimal (by omega) hlength
  have hwritten : number parts.classDigits deweyClassWidth = .ok (fixed 3 8 units) := by
    rw [hdigits]
    exact hnumber
  refine ⟨_, units, ⟨_, _, hdecimal, hlength, ?_, rfl, hnumber⟩, ?_⟩
  · rw [Dewey.classNumber?, hparts, ← hdigits]
    rfl
  · refine ⟨spaced (deweyComponents parts), ?_⟩
    simp only [dewey, dewey?, hparts, hwritten]
    rfl

section Classes

variable {a b : Text} {x y : ℚ} {m n : Nat} (ha : HasClass a x m) (hb : HasClass b y n)

include ha

/-- A class number is not written as more than one thousand. -/
theorem HasClass.le_thousand : m ≤ thousand := by
  obtain ⟨whole, fraction, hdecimal, hlength, -, -, hnumber⟩ := ha.classNumber?
  have hdecimal' : IsDecimal "1000".toList none := ⟨by simp, by simp, by simp⟩
  have hnumber' := number_decimalText 3 8 hdecimal' (by omega) (by decide) (by decide)
  refine number_mono (Nat.succ_pos 2) hdecimal hdecimal' hnumber hnumber' ?_
  rw [decimalValue_le_iff]
  calc ofDigits (whole ++ fraction.getD []) * 10 ^ 0
      = ofDigits (whole ++ fraction.getD []) := Nat.mul_one _
    _ ≤ 10 ^ (3 + (fraction.getD []).length) := (hdecimal.ofDigits_lt hlength).le
    _ = 1000 * 10 ^ (fraction.getD []).length := Nat.pow_add 10 3 _

include hb

/-- The greater class number is not written as the smaller one. -/
theorem HasClass.le (h : x ≤ y) : m ≤ n := by
  obtain ⟨whole, fraction, hdecimal, -, -, hvalue, hnumber⟩ := ha.classNumber?
  obtain ⟨whole', fraction', hdecimal', -, -, hvalue', hnumber'⟩ := hb.classNumber?
  refine number_mono (Nat.succ_pos 2) hdecimal hdecimal' hnumber hnumber' ?_
  rwa [hvalue, hvalue']

/-! ## The order of keys -/

/-- Class numbers that are written below one thousand decide between keys. -/
theorem compare_dewey_of_lt (hmn : m < n) (hn : n < thousand) :
    compare (dewey a) (dewey b) = .lt := by
  obtain ⟨s, hs⟩ := ha.key
  obtain ⟨t, ht⟩ := hb.key
  have hmfits : m < 10 ^ (3 + 8) := hmn.trans hn
  have hlength : (fixed 3 8 m).length = (fixed 3 8 n).length := by
    rw [length_fixed (by omega) hmfits, length_fixed (by omega) hn]
  rw [hs, ht, Text.compare_append hlength, compare_fixed (by omega) hmfits hn,
    Nat.compare_eq_lt.mpr hmn]
  rfl

end Classes

/-- A number below one thousand has three digits in front of the point, those of its whole part. -/
theorem fixed_eq_of_lt {m : Nat} (h : m < thousand) :
    ∃ whole rest, fixed 3 8 m = whole ++ '.' :: rest ∧ whole.length = 3 ∧
      (∀ c ∈ whole, c.isDigit) ∧ ofDigits whole = m / 10 ^ 8 := by
  refine ⟨Text.padZeros 3 (ofScaled m 8).whole, (ofScaled m 8).fraction, rfl,
    length_whole (by omega) h, ?_, ?_⟩
  · exact Number.isDigit_of_mem_padZeros (Number.FixedPoint.isDigit_of_mem m 8).1
  · rw [Number.ofDigits_padZeros, Number.FixedPoint.ofDigits_whole]

/-- One thousand in the columns of a class number. -/
theorem fixed_thousand : fixed 3 8 thousand = "1000.00000000".toList := by
  decide +kernel

/-- The key of a class number that is rounded up to one thousand stands behind the keys of class
numbers below 101 and in front of the others: its first three digits are compared with theirs. -/
theorem compare_dewey_thousand {a b : Text} {x y : ℚ} {m : Nat} (ha : HasClass a x m)
    (hb : HasClass b y thousand) (hm : m < thousand) :
    compare (dewey a) (dewey b) = (compare (m / 10 ^ 8) 100).then .lt := by
  obtain ⟨s, hs⟩ := ha.key
  obtain ⟨t, ht⟩ := hb.key
  obtain ⟨whole, rest, hfixed, hlength, hdigits, hvalue⟩ := fixed_eq_of_lt hm
  have hthousand : "1000.00000000".toList = "100".toList ++ "0.00000000".toList := rfl
  have hpoint (u v : Text) : compare ('.' :: u) ("0.00000000".toList ++ v) = .lt := rfl
  have hhundred : ∀ c ∈ "100".toList, c.isDigit := by simp
  have hwhole : compare whole "100".toList = compare (m / 10 ^ 8) 100 := by
    rw [Number.compare_ofDigits hdigits hhundred hlength, hvalue]
    rfl
  rw [hs, ht, hfixed, fixed_thousand, hthousand, List.append_assoc, List.append_assoc,
    Text.compare_append hlength, hwhole, List.cons_append, hpoint]

/-- Class numbers whose keys are in the wrong order: the greater one is rounded up to one thousand,
and the other is at least 101 and is not. -/
def Overtaken (m n : Nat) : Prop :=
  101 * 10 ^ 8 ≤ m ∧ m < thousand ∧ n = thousand

/-- Call numbers with the shape of Dewey numbers have class numbers.  The smaller one has the key
that comes first, byte by byte, or both are written alike, unless the greater one takes a fourth
digit that the smaller one, from 101 on, does not. -/
theorem dewey_bytes_ascend_iff {a b : Text} (hdewey : Scheme.isDewey a = true)
    (hdewey' : Scheme.isDewey b = true) :
    (∃ x m, HasClass a x m) ∧ (∃ y n, HasClass b y n) ∧
      ∀ (x y : ℚ) (m n : Nat), HasClass a x m → HasClass b y n → x < y →
        (compare (dewey a).bytes (dewey b).bytes = .lt ∨ fixed 3 8 m = fixed 3 8 n ↔
          ¬ Overtaken m n) := by
  refine ⟨exists_hasClass hdewey, exists_hasClass hdewey', fun x y m n ha hb hxy => ?_⟩
  rw [Text.compare_bytes]
  rcases Nat.lt_or_eq_of_le (ha.le hb hxy.le) with hmn | rfl
  · have hdiffer : fixed 3 8 m ≠ fixed 3 8 n := fun h => hmn.ne (fixed_inj h)
    rw [or_iff_left hdiffer]
    rcases Nat.lt_or_eq_of_le hb.le_thousand with hn | rfl
    · refine iff_of_true (compare_dewey_of_lt ha hb hmn hn) ?_
      rintro ⟨-, -, rfl⟩
      exact hn.false
    · rw [compare_dewey_thousand ha hb hmn]
      simp only [Ordering.then_eq_lt, Nat.compare_eq_lt, Nat.compare_eq_eq, and_true, Overtaken]
      omega
  · refine iff_of_true (Or.inr rfl) ?_
    rintro ⟨-, hlt, rfl⟩
    exact hlt.false

/-- The class number decides, and not the cutter behind it. -/
theorem class_before_cutter :
    compare (dewey "99.5 Z9".toList).bytes (dewey "813.54 .A1".toList).bytes = .lt := by
  have ha : HasClass "99.5 Z9".toList (decimalValue "99".toList "5".toList) 9950000000 :=
    ⟨⟨"99".toList, some "5".toList, ⟨by simp, by simp, by simp⟩, by decide, by decide +kernel,
      rfl, by decide +kernel⟩, " Z9".toList, by decide +kernel⟩
  have hb : HasClass "813.54 .A1".toList (decimalValue "813".toList "54".toList) 81354000000 :=
    ⟨⟨"813".toList, some "54".toList, ⟨by simp, by simp, by simp⟩, by decide,
      by decide +kernel, rfl, by decide +kernel⟩, " A1".toList, by decide +kernel⟩
  have hxy : decimalValue "99".toList "5".toList < decimalValue "813".toList "54".toList := by
    rw [← not_le, decimalValue_le_iff]
    decide
  have hordered : ¬ Overtaken 9950000000 81354000000 := fun h => absurd h.1 (by decide)
  have hdewey : Scheme.isDewey "99.5 Z9".toList = true := by decide +kernel
  have hdewey' : Scheme.isDewey "813.54 .A1".toList = true := by decide +kernel
  obtain ⟨-, -, hascend⟩ := dewey_bytes_ascend_iff hdewey hdewey'
  refine ((hascend _ _ _ _ ha hb hxy).mpr hordered).resolve_right fun h => ?_
  exact absurd (fixed_inj h) (by decide)

/-- The greater of these class numbers is rounded up to one thousand, and its key comes first. -/
theorem carriedClass_not_ascending :
    Scheme.isDewey "998".toList = true ∧ Scheme.isDewey "999.999999999".toList = true ∧
      Dewey.classNumber? "998".toList = some "998".toList ∧
      Dewey.classNumber? "999.999999999".toList = some "999.999999999".toList ∧
      decimalValue "998".toList [] < decimalValue "999".toList "999999999".toList ∧
      dewey "998".toList = "998.00000000".toList ∧
      dewey "999.999999999".toList = "1000.00000000".toList ∧
      compare (dewey "998".toList).bytes (dewey "999.999999999".toList).bytes = .gt := by
  refine ⟨by decide +kernel, by decide +kernel, by decide +kernel, by decide +kernel, ?_,
    by decide +kernel, by decide +kernel, by decide +kernel⟩
  rw [← not_le, decimalValue_le_iff]
  decide +kernel

end ShelfKey
end Shelfmark
