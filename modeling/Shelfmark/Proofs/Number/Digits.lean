import Mathlib.Tactic.Ring
import Shelfmark.Number.FixedPoint
import Shelfmark.Number.Numeral
import Shelfmark.Proofs.Character.Case
import Shelfmark.Proofs.Text.Order

/-!
# Numbers - Digits and values

A numeral of fixed width compares as a text the way its value compares as a
number.  Values are read off runs of digits by `ofDigits`; leading zeros do not
change them, trailing ones multiply them.

Main results:

- Theorem `ofDigits_append`: the value of joined runs.
- Theorem `compare_ofDigits`: equally long runs compare as their values do.
- Theorems `FixedPoint.whole_append_fraction` and `FixedPoint.length_fraction`: fixed-point
  digits are those of the scaled number, cut at the point.
-/

namespace Shelfmark
namespace Number

open Character (isDigit_iff)

/-! ## The value of a run of digits -/

/-- The value of a digit. -/
def digit (c : Char) : Nat :=
  c.toNat - 48

/-- The empty run has the value zero. -/
@[simp] theorem ofDigits_nil : ofDigits [] = 0 :=
  rfl

/-- The value of joined runs. -/
theorem ofDigits_append (a b : Text) :
    ofDigits (a ++ b) = ofDigits a * 10 ^ b.length + ofDigits b := by
  unfold ofDigits
  rw [Nat.ofDigitChars_append, Nat.ofDigitChars_eq_ofDigitChars_zero, Nat.mul_comm]

/-- The first digit counts by its place. -/
theorem ofDigits_cons (c : Char) (s : Text) :
    ofDigits (c :: s) = digit c * 10 ^ s.length + ofDigits s := by
  have hone : ofDigits [c] = digit c := by simp [ofDigits, digit, Nat.ofDigitChars_cons]
  rw [← List.singleton_append, ofDigits_append, hone]

/-- Zeros in front do not change the value. -/
@[simp] theorem ofDigits_replicate_append (n : Nat) (s : Text) :
    ofDigits (List.replicate n '0' ++ s) = ofDigits s := by
  have hzeros : ofDigits (List.replicate n '0') = 0 := by simp [ofDigits]
  rw [ofDigits_append, hzeros]
  simp

/-- Each zero at the end multiplies the value by ten. -/
theorem ofDigits_append_replicate (s : Text) (n : Nat) :
    ofDigits (s ++ List.replicate n '0') = ofDigits s * 10 ^ n := by
  have hzeros : ofDigits (List.replicate n '0') = 0 := by simp [ofDigits]
  rw [ofDigits_append, hzeros, List.length_replicate, Nat.add_zero]

/-- Padding with zeros does not change the value. -/
@[simp] theorem ofDigits_padZeros (width : Nat) (s : Text) :
    ofDigits (Text.padZeros width s) = ofDigits s :=
  ofDigits_replicate_append _ s

/-- The decimal digits of a number have it as their value. -/
@[simp] theorem ofDigits_toDigits (n : Nat) : ofDigits (Nat.toDigits 10 n) = n :=
  Nat.ofDigitChars_ten_toDigits

/-- A digit is less than ten. -/
theorem digit_lt {c : Char} (h : c.isDigit) : digit c < 10 := by
  have hrange := isDigit_iff.mp h
  unfold digit
  omega

/-- A run of digits has a value below the power of ten of its length. -/
theorem ofDigits_lt {s : Text} (h : ∀ c ∈ s, c.isDigit) : ofDigits s < 10 ^ s.length := by
  induction s with
  | nil => simp
  | cons c s ih =>
    have hc := digit_lt (h c (by simp))
    have hs := ih fun d hd => h d (by simp [hd])
    rw [ofDigits_cons, List.length_cons, Nat.pow_succ]
    calc digit c * 10 ^ s.length + ofDigits s
        < digit c * 10 ^ s.length + 10 ^ s.length := by omega
      _ = (digit c + 1) * 10 ^ s.length := by ring
      _ ≤ 10 * 10 ^ s.length := Nat.mul_le_mul_right _ hc
      _ = 10 ^ s.length * 10 := Nat.mul_comm _ _

/-- Digits compare as their values. -/
theorem compare_digit {c d : Char} (hc : c.isDigit) (hd : d.isDigit) :
    compare c d = compare (digit c) (digit d) := by
  have hcr := isDigit_iff.mp hc
  have hdr := isDigit_iff.mp hd
  have hlt : c.toNat < d.toNat ↔ digit c < digit d := by unfold digit; omega
  have hgt : d.toNat < c.toNat ↔ digit d < digit c := by unfold digit; omega
  rw [Character.compare_eq]
  exact compare_congr hlt hgt

/-- A leading digit decides before the rest does. -/
theorem compare_scaled {p q x y bound : Nat} (hx : x < bound) (hy : y < bound) :
    compare (p * bound + x) (q * bound + y) = (compare p q).then (compare x y) := by
  rcases lt_trichotomy p q with h | h | h
  · have hle : (p + 1) * bound ≤ q * bound := Nat.mul_le_mul_right _ h
    rw [Nat.compare_eq_lt.mpr h, Nat.compare_eq_lt.mpr (by rw [Nat.add_mul] at hle; omega)]
    rfl
  · subst h
    have hpp : compare p p = .eq := Std.ReflCmp.compare_self
    rw [hpp]
    exact compare_congr Nat.add_lt_add_iff_left Nat.add_lt_add_iff_left
  · have hle : (q + 1) * bound ≤ p * bound := Nat.mul_le_mul_right _ h
    rw [Nat.compare_eq_gt.mpr h, Nat.compare_eq_gt.mpr (by rw [Nat.add_mul] at hle; omega)]
    rfl

/-- Equally long runs of digits compare as their values do. -/
theorem compare_ofDigits {a b : Text} (ha : ∀ c ∈ a, c.isDigit) (hb : ∀ c ∈ b, c.isDigit)
    (h : a.length = b.length) : compare a b = compare (ofDigits a) (ofDigits b) := by
  induction a generalizing b with
  | nil =>
    have hnil : b = [] := List.eq_nil_of_length_eq_zero h.symm
    rw [hnil]
    rfl
  | cons c a ih =>
    cases b with
    | nil => simp at h
    | cons d b =>
      have hlength : a.length = b.length := by simpa using h
      have ha' : ∀ x ∈ a, x.isDigit := fun x hx => ha x (by simp [hx])
      have hb' : ∀ x ∈ b, x.isDigit := fun x hx => hb x (by simp [hx])
      have hbound : ofDigits b < 10 ^ a.length := hlength ▸ ofDigits_lt hb'
      rw [List.compare_cons_cons, compare_digit (ha c (by simp)) (hb d (by simp)),
        ih ha' hb' hlength, ofDigits_cons, ofDigits_cons, ← hlength,
        compare_scaled (ofDigits_lt ha') hbound]

/-! ## Scaled values -/

/-- The value of digits before and after a point, times the power of ten that makes it whole. -/
def scaled (places : Nat) (whole fraction : Text) : Nat :=
  ofDigits (whole ++ fraction) * 10 ^ (places - fraction.length)

/-- A scaled value has no more digits than are in front of the point and asked for behind it. -/
theorem scaled_lt {places : Nat} {whole fraction : Text} (hwhole : ∀ c ∈ whole, c.isDigit)
    (hfraction : ∀ c ∈ fraction, c.isDigit) (hlength : fraction.length ≤ places) :
    scaled places whole fraction < 10 ^ (whole.length + places) := by
  have hlt : ofDigits (whole ++ fraction) < 10 ^ (whole ++ fraction).length :=
    ofDigits_lt fun c hc => (List.mem_append.mp hc).elim (hwhole c) (hfraction c)
  have hpos : 0 < 10 ^ (places - fraction.length) := Nat.pow_pos (by omega)
  calc ofDigits (whole ++ fraction) * 10 ^ (places - fraction.length)
      < 10 ^ (whole ++ fraction).length * 10 ^ (places - fraction.length) :=
        Nat.mul_lt_mul_of_pos_right hlt hpos
    _ = 10 ^ (whole.length + places) := by
        rw [← Nat.pow_add, List.length_append]
        congr 1
        omega

/-- The whole part of a scaled value is the value of the digits in front of the point. -/
theorem scaled_div {places : Nat} (whole : Text) {fraction : Text}
    (hfraction : ∀ c ∈ fraction, c.isDigit) (hlength : fraction.length ≤ places) :
    scaled places whole fraction / 10 ^ places = ofDigits whole := by
  obtain ⟨rest, rfl⟩ := Nat.exists_eq_add_of_le hlength
  have hpos : 0 < 10 ^ fraction.length := Nat.pow_pos (by omega)
  rw [scaled, ofDigits_append, Nat.add_sub_cancel_left, Nat.pow_add,
    Nat.mul_div_mul_right _ _ (Nat.pow_pos (by omega)), Nat.mul_comm, Nat.mul_add_div hpos,
    Nat.div_eq_of_lt (ofDigits_lt hfraction), Nat.add_zero]

/-- Only the value of the whole part counts. -/
theorem scaled_congr {places : Nat} {whole other : Text} (h : ofDigits whole = ofDigits other)
    (fraction : Text) : scaled places whole fraction = scaled places other fraction := by
  rw [scaled, scaled, ofDigits_append, ofDigits_append, h]

/-- Zeros that a fraction ends with do not count. -/
theorem scaled_append_replicate {places n : Nat} (whole : Text) {fraction : Text}
    (h : fraction.length + n ≤ places) :
    scaled places whole (fraction ++ List.replicate n '0') = scaled places whole fraction := by
  rw [scaled, scaled, ← List.append_assoc, ofDigits_append_replicate, Nat.mul_assoc, ← Nat.pow_add,
    List.length_append, List.length_replicate]
  congr 2
  omega

/-! ## Padding -/

/-- Padding with zeros keeps a run a run. -/
theorem isDigit_of_mem_padZeros {width : Nat} {s : Text} (h : ∀ c ∈ s, c.isDigit) :
    ∀ c ∈ Text.padZeros width s, c.isDigit := by
  intro c hc
  rcases List.mem_append.mp hc with hc | hc
  · rw [(List.mem_replicate.mp hc).2]
    rfl
  · exact h c hc

/-- A padded run is as wide as it has to be. -/
theorem length_padZeros (width : Nat) (s : Text) :
    (Text.padZeros width s).length = max width s.length := by
  simp only [Text.padZeros, List.length_append, List.length_replicate]
  omega

/-- The decimal digits of a number are digits. -/
theorem isDigit_of_mem_toDigits {n : Nat} : ∀ c ∈ Nat.toDigits 10 n, c.isDigit :=
  fun _ hc => Nat.isDigit_of_mem_toDigits (by omega) (by omega) hc

/-- Multiplied by a power of ten a number has zeros behind its digits. -/
theorem toDigits_mul_ten_pow {n : Nat} (h : 0 < n) (zeros : Nat) :
    Nat.toDigits 10 (n * 10 ^ zeros) = Nat.toDigits 10 n ++ List.replicate zeros '0' := by
  induction zeros with
  | zero => simp
  | succ zeros ih =>
    have hpos : 0 < n * 10 ^ zeros := Nat.mul_pos h (Nat.pow_pos (Nat.succ_pos 9))
    have hstep := Nat.toDigits_append_toDigits (b := 10) (d := 0) (by omega) hpos (by omega)
    have hzero : Nat.toDigits 10 0 = ['0'] := rfl
    rw [hzero, Nat.add_zero, ih, List.append_assoc, ← List.replicate_succ'] at hstep
    rw [hstep, Nat.pow_succ']
    congr 1
    ring

/-! ## Fixed-point digits -/

namespace FixedPoint

/-- Whole part and fraction together are the digits of the scaled number. -/
theorem whole_append_fraction (n places : Nat) :
    (ofScaled n places).whole ++ (ofScaled n places).fraction =
      Text.padZeros (places + 1) (Nat.toDigits 10 n) :=
  List.take_append_drop _ _

/-- The fraction has as many digits as there are places. -/
theorem length_fraction (n places : Nat) : (ofScaled n places).fraction.length = places := by
  have hlength := length_padZeros (places + 1) (Nat.toDigits 10 n)
  simp only [ofScaled, List.length_drop]
  omega

/-- Without places there is no fraction. -/
@[simp] theorem fraction_zero (n : Nat) : (ofScaled n 0).fraction = [] :=
  List.eq_nil_of_length_eq_zero (length_fraction n 0)

/-- The whole part is no wider than the number allows. -/
theorem length_whole_le {n places width : Nat} (hwidth : 0 < width)
    (h : n < 10 ^ (width + places)) : (ofScaled n places).whole.length ≤ width := by
  have hdigits : (Nat.toDigits 10 n).length ≤ width + places :=
    (Nat.length_toDigits_le_iff (by omega) (by omega)).mpr h
  have hlength := length_padZeros (places + 1) (Nat.toDigits 10 n)
  simp only [ofScaled, List.length_take]
  omega

/-- A number whose whole part is no wider than a width fits into it. -/
theorem lt_of_length_whole_le {n places width : Nat}
    (h : (ofScaled n places).whole.length ≤ width) : n < 10 ^ (width + places) := by
  have hlength := length_padZeros (places + 1) (Nat.toDigits 10 n)
  have hdigits : 0 < (Nat.toDigits 10 n).length := Nat.length_toDigits_pos
  simp only [ofScaled, List.length_take] at h
  refine (Nat.length_toDigits_le_iff (by omega) ?_).mp ?_
  · omega
  · omega

/-- Whole part and fraction consist of digits. -/
theorem isDigit_of_mem (n places : Nat) :
    (∀ c ∈ (ofScaled n places).whole, c.isDigit) ∧
      ∀ c ∈ (ofScaled n places).fraction, c.isDigit := by
  have hall : ∀ c ∈ (ofScaled n places).whole ++ (ofScaled n places).fraction, c.isDigit := by
    rw [whole_append_fraction]
    exact isDigit_of_mem_padZeros isDigit_of_mem_toDigits
  exact ⟨fun c hc => hall c (List.mem_append_left _ hc),
    fun c hc => hall c (List.mem_append_right _ hc)⟩

/-- The digits of a scaled number have it as their value. -/
theorem scaled_ofScaled (n places : Nat) :
    scaled places (ofScaled n places).whole (ofScaled n places).fraction = n := by
  rw [scaled, whole_append_fraction, ofDigits_padZeros, ofDigits_toDigits, length_fraction,
    Nat.sub_self, Nat.pow_zero, Nat.mul_one]

/-- A whole number has its own digits in front of the point, and zeros behind it. -/
theorem ofScaled_mul (n places : Nat) :
    ofScaled (n * 10 ^ places) places = ⟨Nat.toDigits 10 n, List.replicate places '0'⟩ := by
  have hdigits : Text.padZeros (places + 1) (Nat.toDigits 10 (n * 10 ^ places)) =
      Nat.toDigits 10 n ++ List.replicate places '0' := by
    rcases Nat.eq_zero_or_pos n with rfl | hpos
    · have hzero : Nat.toDigits 10 0 = ['0'] := rfl
      rw [Nat.zero_mul, hzero, Text.padZeros, ← List.replicate_succ', List.singleton_append,
        ← List.replicate_succ]
      rfl
    · have hlength : 0 < (Nat.toDigits 10 n).length := Nat.length_toDigits_pos
      rw [toDigits_mul_ten_pow hpos, Text.padZeros, List.length_append, List.length_replicate,
        Nat.sub_eq_zero_of_le (by omega)]
      rfl
  have hwidth : (Nat.toDigits 10 n ++ List.replicate places '0').length - places =
      (Nat.toDigits 10 n).length := by
    rw [List.length_append, List.length_replicate, Nat.add_sub_cancel]
  rw [ofScaled, hdigits, hwidth, List.take_left, List.drop_left]

/-- The digits in front of the point are those of the whole number. -/
theorem ofDigits_whole (n places : Nat) : ofDigits (ofScaled n places).whole = n / 10 ^ places := by
  have hvalue := scaled_ofScaled n places
  have hfraction := ofDigits_lt (isDigit_of_mem n places).2
  rw [length_fraction] at hfraction
  rw [scaled, ofDigits_append, length_fraction, Nat.sub_self, Nat.pow_zero, Nat.mul_one] at hvalue
  refine (Nat.div_eq_of_lt_le ?_ ?_).symm
  · omega
  · rw [Nat.succ_mul]
    omega

end FixedPoint

end Number
end Shelfmark
