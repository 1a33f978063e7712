import Shelfmark.Proofs.ShelfKey.NumericOrder
import Shelfmark.Proofs.Text.Runs
import Shelfmark.ShelfKey.Basic

/-!
# Shelf keys - Cutters as decimal fractions

The digits of a cutter are a decimal fraction, and written as one they stand in the order of the
fractions.  Digits that form a number beyond `2147483647` are left as they are.  They come behind
the fractions of cutters they should precede, because a digit stands where a fraction has its
point.

Main results:

- Theorem `compare_digits_eq`: digits compare as fractions, and equal fractions by length.
- Theorem `compare_fraction_digits`: a written fraction comes before digits left as they are.
- Theorem `cutter_bytes_ascend_iff`: which cutters are in the order of their fractions.
-/

namespace Shelfmark
namespace ShelfKey

open Number (IsDecimal decimalText digit ofDigits)
open Text (IsRun)

variable {d e : Text}

/-! ## Digits as they are -/

/-- No digits come before some, be it by the value of these or by their length. -/
theorem compare_nothing (v : Nat) (c : Char) (s : Text) :
    (compare 0 v).then (compare 0 (c :: s).length) = .lt := by
  have hlength : 0 < (c :: s).length := Nat.succ_pos s.length
  rcases Nat.eq_zero_or_pos v with rfl | hv
  · rw [Nat.compare_eq_lt.mpr hlength]
    rfl
  · rw [Nat.compare_eq_lt.mpr hv]
    rfl

/-- Over a common denominator the first digit counts by a power of ten. -/
theorem ofDigits_cons_scaled (c : Char) (s : Text) (n : Nat) :
    ofDigits (c :: s) * 10 ^ (n + 1) =
      (digit c * 10 ^ (s.length + n) + ofDigits s * 10 ^ n) * 10 := by
  rw [Number.ofDigits_cons, Nat.pow_succ, Nat.pow_add]
  ring

/-- Over a common denominator the later digits count for less than one of the first. -/
theorem ofDigits_scaled_lt {s : Text} (hs : ∀ c ∈ s, c.isDigit) (n : Nat) :
    ofDigits s * 10 ^ n < 10 ^ (s.length + n) := by
  rw [Nat.pow_add]
  exact Nat.mul_lt_mul_of_pos_right (Number.ofDigits_lt hs) (Nat.pow_pos (by omega))

/-- Digits compare as decimal fractions, and where the fractions are equal the shorter spelling
comes first. -/
theorem compare_digits_eq (hd : ∀ c ∈ d, c.isDigit) (he : ∀ c ∈ e, c.isDigit) :
    compare d e =
      (compare (ofDigits d * 10 ^ e.length) (ofDigits e * 10 ^ d.length)).then
        (compare d.length e.length) := by
  induction d generalizing e with
  | nil =>
    cases e with
    | nil => rfl
    | cons f e =>
      rw [Number.ofDigits_nil, Nat.zero_mul, List.length_nil, compare_nothing]
      rfl
  | cons c d ih =>
    cases e with
    | nil =>
      rw [Number.ofDigits_nil, Nat.zero_mul, List.length_nil, Std.OrientedOrd.eq_swap,
        ← Nat.compare_swap 0, ← Nat.compare_swap 0, ← Ordering.swap_then, compare_nothing]
      rfl
    | cons f e =>
      have hd' : ∀ x ∈ d, x.isDigit := fun x hx => hd x (List.mem_cons_of_mem c hx)
      have he' : ∀ x ∈ e, x.isDigit := fun x hx => he x (List.mem_cons_of_mem f hx)
      have hsmall := ofDigits_scaled_lt hd' e.length
      have hsmall' : ofDigits e * 10 ^ d.length < 10 ^ (d.length + e.length) := by
        rw [Nat.add_comm]
        exact ofDigits_scaled_lt he' d.length
      have hten (m n : Nat) : compare (m * 10) (n * 10) = compare m n := by
        simp only [Nat.compare_eq_ite_lt, Nat.mul_lt_mul_right (Nat.succ_pos 9)]
      have hlength : compare (d.length + 1) (e.length + 1) = compare d.length e.length := by
        simp only [Nat.compare_eq_ite_lt, Nat.add_lt_add_iff_right]
      rw [List.compare_cons_cons, Number.compare_digit (hd c List.mem_cons_self)
        (he f List.mem_cons_self), ih hd' he', List.length_cons, List.length_cons,
        ofDigits_cons_scaled, ofDigits_cons_scaled, Nat.add_comm e.length, hten, hlength,
        Number.compare_scaled hsmall hsmall', Ordering.then_assoc]

/-- Digits are in the order of their fractions, unless they are a longer spelling of the same
fraction. -/
theorem isLE_compare_digits_iff (hd : ∀ c ∈ d, c.isDigit) (he : ∀ c ∈ e, c.isDigit)
    (hle : decimalValue [] d ≤ decimalValue [] e) :
    (compare d e).isLE = true ↔
      ¬ (decimalValue [] d = decimalValue [] e ∧ e.length < d.length) := by
  have hcross := (decimalValue_le_iff [] d [] e).mp hle
  have hequal : decimalValue [] d = decimalValue [] e ↔
      ofDigits d * 10 ^ e.length = ofDigits e * 10 ^ d.length := by
    rw [le_antisymm_iff, le_antisymm_iff, decimalValue_le_iff, decimalValue_le_iff]
    rfl
  rw [List.nil_append, List.nil_append] at hcross
  rw [compare_digits_eq hd he, hequal]
  rcases Nat.lt_or_eq_of_le hcross with hless | hsame
  · rw [Nat.compare_eq_lt.mpr hless]
    exact iff_of_true rfl fun h => absurd h.1 hless.ne
  · rw [Nat.compare_eq_eq.mpr hsame]
    change (compare d.length e.length).isLE = true ↔ _
    rw [Nat.isLE_compare]
    omega

/-! ## Digits as a fraction -/

/-- One is written with the point behind it. -/
theorem fixed_one : fixed 1 6 (10 ^ 6) = "1.000000".toList := by
  decide

/-- What is less than one is written with a zero in front of the point. -/
theorem exists_of_fixed {n : Nat} (hn : n < 10 ^ 6) : ∃ s, fixed 1 6 n = '0' :: '.' :: s := by
  have hlength : (Text.padZeros 1 (Number.FixedPoint.ofScaled n 6).whole).length = 1 :=
    length_whole (by omega) (hn.trans (by decide))
  have hdigits : ∀ c ∈ Text.padZeros 1 (Number.FixedPoint.ofScaled n 6).whole, c.isDigit :=
    Number.isDigit_of_mem_padZeros (Number.FixedPoint.isDigit_of_mem n 6).1
  have hvalue : ofDigits (Text.padZeros 1 (Number.FixedPoint.ofScaled n 6).whole) = 0 := by
    rw [Number.ofDigits_padZeros, Number.FixedPoint.ofDigits_whole, Nat.div_eq_of_lt hn]
  obtain ⟨c, hc⟩ := List.length_eq_one_iff.mp hlength
  rw [hc] at hdigits hvalue
  have hzero : c = '0' := by
    have hrange := Character.isDigit_iff.mp (hdigits c List.mem_cons_self)
    have hdigit : digit c = 0 := by simpa [Number.ofDigits_cons] using hvalue
    unfold digit at hdigit
    apply Char.toNat_inj.mp
    have hcode : '0'.toNat = 48 := rfl
    omega
  rw [fixed, hc, hzero, if_neg (by decide)]
  exact ⟨_, rfl⟩

/-- A written fraction comes before two or more digits, unless it is one and they begin with
zero. -/
theorem compare_fraction_digits {n : Nat} (hn : n ≤ 10 ^ 6) {c c' : Char} (hc : c.isDigit = true)
    (hc' : c'.isDigit = true) (s : Text) :
    compare (fixed 1 6 n) (c :: c' :: s) = if n = 10 ^ 6 ∧ c = '0' then .gt else .lt := by
  have hrange := Character.isDigit_iff.mp hc
  have hpoint : compare '.' c' = .lt := by
    have hrange' := Character.isDigit_iff.mp hc'
    have hcode : '.'.toNat = 46 := rfl
    rw [Character.compare_eq]
    exact Nat.compare_eq_lt.mpr (by omega)
  have hzero : c = '0' ↔ c.toNat = 48 := Char.toNat_inj.symm
  -- The first digits decide, and then the point does.
  have hfirst (w : Char) (t : Text) : compare (w :: '.' :: t) (c :: c' :: s) =
      if c.toNat < w.toNat then .gt else .lt := by
    rw [List.compare_cons_cons, List.compare_cons_cons, hpoint, Character.compare_eq]
    rcases lt_trichotomy w.toNat c.toNat with h | h | h
    · rw [Nat.compare_eq_lt.mpr h, if_neg (by omega)]
      rfl
    · rw [Nat.compare_eq_eq.mpr h, if_neg (by omega)]
      rfl
    · rw [Nat.compare_eq_gt.mpr h, if_pos h]
      rfl
  rcases Nat.lt_or_eq_of_le hn with hless | rfl
  · obtain ⟨t, ht⟩ := exists_of_fixed hless
    have hcode : '0'.toNat = 48 := rfl
    rw [ht, hfirst, if_neg (by omega), if_neg fun h => hless.ne h.1]
  · have hone : "1.000000".toList = '1' :: '.' :: "000000".toList := rfl
    have hcode : '1'.toNat = 49 := rfl
    rw [fixed_one, hone, hfirst, hcode]
    refine if_congr ?_ rfl rfl
    rw [hzero]
    omega

/-! ## Cutters -/

/-- Digits that form too great a number to be written as a fraction. -/
def IsLong (digits : Text) : Prop :=
  greatestCutter < ofDigits digits

/-- A fraction so near to one that it is written as one. -/
def RoundsToOne (digits : Text) : Prop :=
  number ('.' :: digits) ⟨1, cutterPlaces⟩ = .ok "1.000000".toList

/-- How digits left as they are come behind the digits of a cutter that is not less: those are
written as a fraction with a smaller digit in front of the point, or with the same digit, or they
are left as they are too and are a shorter spelling of the same fraction. -/
inductive Misplaced (d e : Text) : Prop
  | fraction (hd : IsLong d) (he : ¬ IsLong e) (hfirst : ¬ (d.head? = some '0' ∧ RoundsToOne e))
  | spelling (hd : IsLong d) (he : IsLong e) (hvalue : decimalValue [] d = decimalValue [] e)
      (hlength : e.length < d.length)

/-- Only digits that form too great a number come out of order. -/
theorem Misplaced.isLong (h : Misplaced d e) : IsLong d := by
  cases h with
  | fraction hd _ _ => exact hd
  | spelling hd _ _ _ => exact hd

/-- Digits left as they are come behind a fraction unless it is written as one and they begin with
zero. -/
theorem misplaced_fraction_iff (hd : IsLong d) (he : ¬ IsLong e) :
    Misplaced d e ↔ ¬ (d.head? = some '0' ∧ RoundsToOne e) := by
  constructor
  · rintro (⟨-, -, hfirst⟩ | ⟨-, hlong, -, -⟩)
    · exact hfirst
    · exact absurd hlong he
  · exact .fraction hd he

/-- Digits left as they are come behind such digits if these are a shorter spelling of the same
fraction. -/
theorem misplaced_spelling_iff (hd : IsLong d) (he : IsLong e) :
    Misplaced d e ↔ decimalValue [] d = decimalValue [] e ∧ e.length < d.length := by
  constructor
  · rintro (⟨-, hshort, -⟩ | ⟨-, -, hvalue, hlength⟩)
    · exact absurd he hshort
    · exact ⟨hvalue, hlength⟩
  · rintro ⟨hvalue, hlength⟩
    exact .spelling hd he hvalue hlength

/-- A fraction in front of digits left as they are. -/
theorem IsLong.compare_fraction (h : IsLong d) (hd : IsRun true d) {n : Nat} (hn : n ≤ 10 ^ 6) :
    compare (fixed 1 6 n) d = if n = 10 ^ 6 ∧ d.head? = some '0' then .gt else .lt := by
  have hlt := Number.ofDigits_lt hd.isDigit
  have hdigits := hd.isDigit
  unfold IsLong greatestCutter at h
  -- Digits that form too great a number are at least two.
  match d with
  | [] => exact absurd rfl hd.ne_nil
  | [c] =>
    rw [List.length_singleton] at hlt
    omega
  | c :: c' :: s =>
    rw [compare_fraction_digits hn (hdigits c (by simp)) (hdigits c' (by simp))]
    simp only [List.head?_cons, Option.some_inj]

/-- Digits are written as the fraction of so many millionths. -/
def WrittenAs (digits : Text) (n : Nat) : Prop :=
  number (decimalText [] (some digits)) ⟨(1 : Nat), (6 : Nat)⟩ = .ok (fixed 1 6 n)

/-- The digits of a cutter behind a point are a decimal. -/
theorem isDecimal_fraction (hd : IsRun true d) : IsDecimal [] (some d) :=
  ⟨by simp, hd.isDigit, by simpa using hd.ne_nil⟩

section Written

variable {m n : Nat} (hd : IsRun true d)

include hd

/-- A greater fraction is not written as fewer millionths. -/
theorem WrittenAs.mono (he : IsRun true e) (hm : WrittenAs d m) (hn : WrittenAs e n)
    (hle : decimalValue [] d ≤ decimalValue [] e) : m ≤ n :=
  number_mono (by omega) (isDecimal_fraction hd) (isDecimal_fraction he) hm hn hle

/-- The digits of a cutter can be written as a fraction of at most one. -/
theorem exists_writtenAs : ∃ n, n ≤ 10 ^ 6 ∧ WrittenAs d n := by
  obtain ⟨n, hn⟩ := exists_number_decimalText 1 6 (isDecimal_fraction hd) (by omega) (by simp)
  have hdecimal : IsDecimal ['1'] none := ⟨by simp, by simp, by simp⟩
  have hone := number_decimalText 1 6 hdecimal (by omega) (by simp) (by simp)
  have hscaled : Number.scaled 6 ['1'] [] = 10 ^ 6 := rfl
  rw [Option.getD_none, hscaled] at hone
  refine ⟨n, number_mono (by omega) (isDecimal_fraction hd) hdecimal hn hone ?_, hn⟩
  rw [decimalValue_le_iff]
  have hlt := Number.ofDigits_lt hd.isDigit
  have hvalue : ofDigits ['1'] = 1 := rfl
  simp [hvalue]
  omega

/-- Digits that begin with zero are not written as one. -/
theorem WrittenAs.lt_one (hzero : d.head? = some '0') (hn : WrittenAs d n) : n < 10 ^ 6 := by
  have htenth : IsRun true ['1'] := ⟨by simp, by simp⟩
  have hwritten : WrittenAs ['1'] (10 ^ 5) :=
    number_decimalText 1 6 (isDecimal_fraction htenth) (by omega) (by simp) (by simp)
  have hle : n ≤ 10 ^ 5 := by
    refine hn.mono hd htenth hwritten ((decimalValue_le_iff _ _ _ _).mpr ?_)
    obtain ⟨s, rfl⟩ := List.head?_eq_some_iff.mp hzero
    have hlt := Number.ofDigits_lt fun c hc => hd.isDigit c (List.mem_cons_of_mem '0' hc)
    have hone : ofDigits ['1'] = 1 := rfl
    have hrest : ofDigits ('0' :: s) = ofDigits s := Number.ofDigits_replicate_append 1 s
    simp [hone, hrest, Nat.pow_succ]
    omega
  omega

end Written

/-- Whether a fraction is written as one can be seen from its millionths. -/
theorem WrittenAs.roundsToOne_iff {n : Nat} (hn : WrittenAs d n) :
    RoundsToOne d ↔ n = 10 ^ 6 := by
  have hword : number ('.' :: d) ⟨1, cutterPlaces⟩ = .ok (fixed 1 6 n) := hn
  rw [RoundsToOne, hword, ← fixed_one, Except.ok.injEq]
  constructor
  · exact fixed_inj
  · rintro rfl
    rfl

section Letter

variable {letter : Char} (hletter : letter.isUpper) (hd : IsRun true d)

include hletter hd

/-- Digits that form too great a number are left as they are. -/
theorem IsLong.cutter_eq (h : IsLong d) :
    cutter (letter :: d) cutterPlaces = .ok (letter :: d) := by
  rw [cutter_digits hd.isDigit hd.ne_nil hletter, if_neg (Nat.not_le.mpr h)]

/-- Other digits are written as a fraction. -/
theorem WrittenAs.cutter_eq {n : Nat} (hn : WrittenAs d n) (h : ¬ IsLong d) :
    cutter (letter :: d) cutterPlaces = .ok (letter :: fixed 1 6 n) := by
  have hword : number ('.' :: d) ⟨1, cutterPlaces⟩ = .ok (fixed 1 6 n) := hn
  rw [cutter_digits hd.isDigit hd.ne_nil hletter, if_pos (Nat.not_lt.mp h), hword]
  rfl

end Letter

/-- Behind the same letter the digits decide. -/
theorem compare_bytes_cons (c : Char) (s t : Text) :
    compare (Text.bytes (c :: s)) (Text.bytes (c :: t)) = compare s t := by
  rw [Text.compare_bytes]
  exact Text.compare_append_left [c] s t

/-- Cutters of one letter are in the order of their digits as decimal fractions, byte by byte,
unless the smaller one has digits that form too great a number and come behind the digits of the
other. -/
theorem cutter_bytes_ascend_iff {letter : Char} (hletter : letter.isUpper) (hd : IsRun true d)
    (he : IsRun true e) (hle : decimalValue [] d ≤ decimalValue [] e) :
    ∃ s t, cutter (letter :: d) cutterPlaces = .ok s ∧ cutter (letter :: e) cutterPlaces = .ok t ∧
      ((compare s.bytes t.bytes).isLE = true ↔ ¬ Misplaced d e) := by
  obtain ⟨m, hm, hmwritten⟩ := exists_writtenAs hd
  obtain ⟨n, hn, hnwritten⟩ := exists_writtenAs he
  have hmn : m ≤ n := hmwritten.mono hd he hnwritten hle
  by_cases hlong : IsLong d <;> by_cases hlong' : IsLong e
  · refine ⟨_, _, hlong.cutter_eq hletter hd, hlong'.cutter_eq hletter he, ?_⟩
    rw [compare_bytes_cons, misplaced_spelling_iff hlong hlong',
      isLE_compare_digits_iff hd.isDigit he.isDigit hle]
  · refine ⟨_, _, hlong.cutter_eq hletter hd, hnwritten.cutter_eq hletter he hlong', ?_⟩
    rw [compare_bytes_cons, misplaced_fraction_iff hlong hlong', not_not,
      hnwritten.roundsToOne_iff, and_comm, Std.OrientedOrd.eq_swap,
      hlong.compare_fraction hd hn]
    split
    · rename_i hone
      exact iff_of_true rfl hone
    · rename_i hnone
      exact iff_of_false (by decide) hnone
  · refine ⟨_, _, hmwritten.cutter_eq hletter hd hlong, hlong'.cutter_eq hletter he,
      iff_of_true ?_ fun h => hlong h.isLong⟩
    rw [compare_bytes_cons, hlong'.compare_fraction he hm, if_neg]
    · rfl
    · -- The fraction is less than one, since what is not less begins with zero.
      rintro ⟨rfl, hzero⟩
      exact absurd (hnwritten.lt_one he hzero) (Nat.not_lt.mpr hmn)
  · refine ⟨_, _, hmwritten.cutter_eq hletter hd hlong, hnwritten.cutter_eq hletter he hlong',
      iff_of_true ?_ fun h => hlong h.isLong⟩
    rw [compare_bytes_cons, compare_fixed (by omega) (by omega) (by omega), Nat.isLE_compare]
    exact hmn

/-- A cutter of two digits comes before a greater one of one digit. -/
theorem fewDigits_ascend :
    ∃ s t, cutter "J38".toList cutterPlaces = .ok s ∧ cutter "J4".toList cutterPlaces = .ok t ∧
      (compare s.bytes t.bytes).isLE = true := by
  have hd : IsRun true "38".toList := ⟨by simp, by simp⟩
  have he : IsRun true "4".toList := ⟨by simp, by simp⟩
  have hle : decimalValue [] "38".toList ≤ decimalValue [] "4".toList :=
    (decimalValue_le_iff _ _ _ _).mpr (by decide)
  have hletter : 'J'.isUpper = true := by decide
  obtain ⟨s, t, hs, ht, hascend⟩ := cutter_bytes_ascend_iff hletter hd he hle
  have hshort : ¬ IsLong "38".toList := by
    unfold IsLong
    decide
  exact ⟨s, t, hs, ht, hascend.mpr fun h => hshort h.isLong⟩

/-- A cutter of many digits comes behind a greater one that is written as a fraction. -/
theorem manyDigits_not_ascending :
    decimalValue [] "3000000000".toList ≤ decimalValue [] "4".toList ∧
      cutter "A3000000000".toList cutterPlaces = .ok "A3000000000".toList ∧
      cutter "A4".toList cutterPlaces = .ok "A0.400000".toList ∧
      (compare (Text.bytes "A3000000000".toList) (Text.bytes "A0.400000".toList)).isLE = false :=
  ⟨(decimalValue_le_iff _ _ _ _).mpr (by decide +kernel), by decide +kernel, by decide +kernel,
    by decide +kernel⟩

end ShelfKey
end Shelfmark
