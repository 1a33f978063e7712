import Shelfmark.Proofs.NaturalOrder
import Shelfmark.Proofs.Number.Digits

/-!
# Natural order - Numbers by value

The natural order compares runs of digits without reading them as numbers: first how many digits
there are behind the leading zeros, then these digits.  That is the order of the values, because
a number with more significant digits is greater.

Main results:

- Theorem `length_significant_le_iff`: the number of significant digits bounds the value.
- Theorem `compareNumbers_eq`: runs compare by value, and for equal values by length.
-/

namespace Shelfmark
namespace NaturalOrder

open Number (digit ofDigits)

variable {run a b : Text}

/-- Leading zeros do not count for the value. -/
theorem ofDigits_significant (run : Text) : ofDigits (significant run) = ofDigits run := by
  conv_rhs => rw [← replicate_append_significant run]
  rw [Number.ofDigits_replicate_append]

/-- Significant digits are digits. -/
theorem isDigit_of_mem_significant (h : ∀ c ∈ run, c.isDigit) :
    ∀ c ∈ significant run, c.isDigit :=
  fun c hc => h c ((List.dropWhile_sublist _).subset hc)

/-- A number has at most so many significant digits exactly if it is below that power of ten. -/
theorem length_significant_le_iff (h : ∀ c ∈ run, c.isDigit) {k : Nat} :
    (significant run).length ≤ k ↔ ofDigits run < 10 ^ k := by
  have hdigits := isDigit_of_mem_significant h
  rw [← ofDigits_significant run]
  constructor
  · intro hle
    exact Nat.lt_of_lt_of_le (Number.ofDigits_lt hdigits) (Nat.pow_le_pow_right (by omega) hle)
  · intro hlt
    by_contra hmore
    cases hcons : significant run with
    | nil =>
      rw [hcons] at hmore
      exact hmore (Nat.zero_le k)
    | cons c s =>
      -- The first significant digit is not zero, and `k` digits or more are behind it.
      have hzero : c ≠ '0' := by
        have hhead := List.head?_dropWhile_not (· == '0') run
        have hfirst : (run.dropWhile (· == '0')).head? = some c := by
          rw [show run.dropWhile (· == '0') = c :: s from hcons, List.head?_cons]
        rw [hfirst] at hhead
        simpa using hhead
      have hone : 1 ≤ digit c := by
        have hrange := Character.isDigit_iff.mp (hdigits c (hcons ▸ List.mem_cons_self))
        have hne : c.toNat ≠ 48 := fun heq => hzero (Char.toNat_inj.mp heq)
        unfold digit
        omega
      rw [hcons, List.length_cons] at hmore
      have hpow : 10 ^ k ≤ 10 ^ s.length := Nat.pow_le_pow_right (by omega) (by omega)
      have hplace := Nat.mul_le_mul_right (10 ^ s.length) hone
      rw [hcons, Number.ofDigits_cons] at hlt
      omega

/-- A number with more significant digits is greater. -/
theorem ofDigits_lt_of_length_lt (ha : ∀ c ∈ a, c.isDigit) (hb : ∀ c ∈ b, c.isDigit)
    (h : (significant a).length < (significant b).length) : ofDigits a < ofDigits b := by
  have hlow := (length_significant_le_iff ha).mp (Nat.le_refl _)
  have hhigh := mt (length_significant_le_iff hb).mpr (Nat.not_le.mpr h)
  omega

/-- Runs of digits compare by their values, and for equal values by their lengths. -/
theorem compareNumbers_eq (ha : ∀ c ∈ a, c.isDigit) (hb : ∀ c ∈ b, c.isDigit) :
    compareNumbers a b =
      (compare (ofDigits a) (ofDigits b)).then (compare a.length b.length) := by
  unfold compareNumbers
  rcases lt_trichotomy (significant a).length (significant b).length with hless | hsame | hmore
  · rw [Nat.compare_eq_lt.mpr hless, Nat.compare_eq_lt.mpr (ofDigits_lt_of_length_lt ha hb hless)]
    rfl
  · have hdigits := Number.compare_ofDigits (isDigit_of_mem_significant ha)
      (isDigit_of_mem_significant hb) hsame
    rw [Nat.compare_eq_eq.mpr hsame, hdigits, ofDigits_significant, ofDigits_significant]
    rfl
  · rw [Nat.compare_eq_gt.mpr hmore, Nat.compare_eq_gt.mpr (ofDigits_lt_of_length_lt hb ha hmore)]
    rfl

end NaturalOrder
end Shelfmark
