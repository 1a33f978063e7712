import Mathlib.Data.List.Basic
import Shelfmark.Proofs.Number.Numeral
import Shelfmark.Proofs.Number.Rounding
import Shelfmark.ShelfKey.Component

/-!
# Shelf keys - Components in order

Each number in a shelf key is written with fixed digits before and after the point.
Written so, numbers that fit compare as texts the way they compare by value, and a
plain decimal with few enough digits is written exactly.

Main results:

- Theorem `compare_fixed`: the order of written numbers is that of their values.
- Theorem `number_decimalText`: a plain decimal is written without loss.
- Theorem `exists_number_decimalText`: a plain decimal below one thousand is always written.
- Theorem `cutter_digits`: a cutter is its letter and its digits, as a fraction if they are few.
- Theorem `cutter_eq`: the fraction is written without loss.
- Theorem `suffix_eq`: a run of digits is written as a whole number.
-/

namespace Shelfmark
namespace ShelfKey

open Number (IsDecimal decimalText ofDigits roundHalfEven scaled unitsPerOne)
open Number.FixedPoint (ofScaled)

/-! ## Numbers of fixed width -/

/-- The number `n / 10 ^ places` written with fixed digits before and after the point. -/
def fixed (before places n : Nat) : Text :=
  Text.padZeros before (ofScaled n places).whole ++
    if places = 0 then [] else '.' :: (ofScaled n places).fraction

/-- Without the point the digits are those of the scaled number. -/
theorem ofDigits_fixed (before places n : Nat) :
    ofDigits (Text.padZeros before (ofScaled n places).whole ++ (ofScaled n places).fraction) =
      n := by
  rw [Number.ofDigits_append, Number.ofDigits_padZeros, ← Number.ofDigits_append,
    Number.FixedPoint.whole_append_fraction, Number.ofDigits_padZeros, Number.ofDigits_toDigits]

section Fitting

variable {before places m n : Nat}

/-- A number that fits has its whole part padded to the width. -/
theorem length_whole (hbefore : 0 < before) (hn : n < 10 ^ (before + places)) :
    (Text.padZeros before (ofScaled n places).whole).length = before := by
  have hle := Number.FixedPoint.length_whole_le hbefore hn
  rw [Number.length_padZeros]
  omega

/-- Numbers that fit are equally wide. -/
theorem length_fixed (hbefore : 0 < before) (hn : n < 10 ^ (before + places)) :
    (fixed before places n).length = before + if places = 0 then 0 else places + 1 := by
  unfold fixed
  rw [List.length_append, length_whole hbefore hn]
  split
  · rfl
  · rw [List.length_cons, Number.FixedPoint.length_fraction]

/-- Numbers that fit are in the order of their values. -/
theorem compare_fixed (hbefore : 0 < before) (hm : m < 10 ^ (before + places))
    (hn : n < 10 ^ (before + places)) :
    compare (fixed before places m) (fixed before places n) = compare m n := by
  have hmwhole := length_whole hbefore hm
  have hnwhole := length_whole hbefore hn
  have hwidth := hmwhole.trans hnwhole.symm
  have hfraction : (ofScaled m places).fraction.length = (ofScaled n places).fraction.length := by
    rw [Number.FixedPoint.length_fraction, Number.FixedPoint.length_fraction]
  -- The point stands in one column, so it can be left out of the comparison.
  have hpoint : compare (fixed before places m) (fixed before places n) =
      compare (Text.padZeros before (ofScaled m places).whole ++ (ofScaled m places).fraction)
        (Text.padZeros before (ofScaled n places).whole ++ (ofScaled n places).fraction) := by
    unfold fixed
    rw [Text.compare_append hwidth, Text.compare_append hwidth]
    split
    · rename_i hzero
      rw [hzero, Number.FixedPoint.fraction_zero, Number.FixedPoint.fraction_zero]
    · have hself : compare '.' '.' = .eq := Std.ReflCmp.compare_self
      rw [List.compare_cons_cons, hself]
      rfl
  have hdigits (k : Nat) : ∀ c ∈ Text.padZeros before (ofScaled k places).whole ++
      (ofScaled k places).fraction, c.isDigit := by
    obtain ⟨hwhole, hfrac⟩ := Number.FixedPoint.isDigit_of_mem k places
    intro c hc
    rcases List.mem_append.mp hc with hc | hc
    · exact Number.isDigit_of_mem_padZeros hwhole c hc
    · exact hfrac c hc
  rw [hpoint, Number.compare_ofDigits (hdigits m) (hdigits n)
    (by rw [List.length_append, List.length_append, hwidth, hfraction]),
    ofDigits_fixed, ofDigits_fixed]

end Fitting

section Ends

variable {before : Nat}

/-- A number padded to a positive width has a whole part. -/
theorem whole_ne_nil (hbefore : 0 < before) (n places : Nat) :
    Text.padZeros before (ofScaled n places).whole ≠ [] := by
  rw [← List.length_pos_iff, Number.length_padZeros]
  omega

/-- A written number begins with a digit. -/
theorem fixed_eq_cons (hbefore : 0 < before) (places n : Nat) :
    ∃ d s, fixed before places n = d :: s ∧ d.isDigit = true := by
  have hwhole := (Number.FixedPoint.isDigit_of_mem n places).1
  obtain ⟨d, s, hcons⟩ := List.exists_cons_of_ne_nil (whole_ne_nil hbefore n places)
  have hd := Number.isDigit_of_mem_padZeros hwhole d (hcons ▸ List.mem_cons_self)
  exact ⟨d, s ++ if places = 0 then [] else '.' :: (ofScaled n places).fraction,
    by rw [fixed, hcons, List.cons_append], hd⟩

/-- A written number ends with a digit. -/
theorem endsWithDigit_fixed (hbefore : 0 < before) (places n : Nat) :
    Text.EndsWithDigit (fixed before places n) := by
  obtain ⟨hwhole, hfraction⟩ := Number.FixedPoint.isDigit_of_mem n places
  have hpadded : ∀ c ∈ Text.padZeros before (ofScaled n places).whole, c.isDigit :=
    Number.isDigit_of_mem_padZeros hwhole
  unfold fixed
  by_cases h : places = 0
  · rw [if_pos h, List.append_nil]
    exact Text.endsWithDigit_of_forall hpadded (whole_ne_nil hbefore n places)
  · have hne : (ofScaled n places).fraction ≠ [] := by
      rw [← List.length_pos_iff, Number.FixedPoint.length_fraction]
      omega
    rw [if_neg h]
    exact ((Text.endsWithDigit_of_forall hfraction hne).cons '.').append _

/-- A negative number is written like a positive one, perhaps behind a minus sign. -/
theorem render_eq_or (width : Width) (negative : Bool) (units : Nat) :
    width.render negative units = width.render false units ∨
      negative = true ∧ width.render negative units = '-' :: width.render false units := by
  cases negative with
  | false => exact Or.inl rfl
  | true =>
    unfold Width.render
    dsimp only
    by_cases hzero : ((width.digits units).whole ++ (width.digits units).fraction).all (· == '0')
    · left
      rw [hzero]
      rfl
    · right
      rw [Bool.not_eq_true] at hzero
      rw [hzero]
      refine ⟨rfl, ?_⟩
      split <;> simp

/-- A positive width pads, and a digit is written for each place that is asked for. -/
theorem render_eq_fixed (hbefore : 0 < before) (places units : Nat) :
    Width.render ⟨before, places⟩ false units =
      fixed before places (roundHalfEven (units * 10 ^ places) unitsPerOne) := by
  have hplaces : ¬ ((places : Int) < 0) := by omega
  have hpos : (0 : Int) < before := by omega
  have hfraction (n : Nat) : (ofScaled n places).fraction = [] ↔ places = 0 := by
    rw [← List.length_eq_zero_iff, Number.FixedPoint.length_fraction]
  simp only [Width.render, Width.digits, hplaces, hpos, if_true, if_false, Int.toNat_natCast,
    Number.FixedPoint.ofUnits, fixed, List.isEmpty_iff, hfraction]
  by_cases h : places = 0 <;> simp [h, whole_ne_nil hbefore]

end Ends

/-! ## Parts written one by one -/

section Parts

variable {α β ε : Type} {f : α → Except ε β} {parts : List α}

/-- Parts that are all written are collected. -/
theorem mapM_eq_ok_map {g : α → β} (h : ∀ part ∈ parts, f part = .ok (g part)) :
    parts.mapM f = .ok (parts.map g) := by
  induction parts with
  | nil => rfl
  | cons part parts ih =>
    rw [List.mapM_cons, h part List.mem_cons_self,
      ih fun other hother => h other (List.mem_cons_of_mem part hother)]
    rfl

/-- If parts fail in one way only, and one of them does, so does the whole. -/
theorem mapM_eq_error {e : ε} (h : ∀ part ∈ parts, f part = .error e ∨ ∃ b, f part = .ok b)
    (hfail : ∃ part ∈ parts, f part = .error e) : parts.mapM f = .error e := by
  induction parts with
  | nil =>
    obtain ⟨part, hpart, -⟩ := hfail
    contradiction
  | cons part parts ih =>
    rw [List.mapM_cons]
    rcases h part List.mem_cons_self with herror | ⟨b, hok⟩
    · rw [herror]
      rfl
    · have hrest : ∃ other ∈ parts, f other = .error e := by
        obtain ⟨other, hother, herror⟩ := hfail
        rcases List.mem_cons.mp hother with rfl | hother
        · rw [hok] at herror
          contradiction
        · exact ⟨other, hother, herror⟩
      rw [hok, ih (fun other hother => h other (List.mem_cons_of_mem part hother)) hrest]
      rfl

end Parts

/-! ## Plain decimals -/

/-- A plain decimal of at most fifteen digits is written without loss, if no digit of its
fraction is cut off. -/
theorem number_decimalText (before places : Nat) {whole : Text} {fraction : Option Text}
    (h : IsDecimal whole fraction) (hbefore : 0 < before)
    (hfraction : (fraction.getD []).length ≤ places) (hsize : whole.length + places ≤ 15) :
    number (decimalText whole fraction) ⟨before, places⟩ =
      .ok (fixed before places (scaled places whole (fraction.getD []))) := by
  have hlt : scaled places whole (fraction.getD []) < 2 ^ 52 :=
    calc scaled places whole (fraction.getD [])
        < 10 ^ (whole.length + places) := Number.scaled_lt h.isDigit_whole h.isDigit_fraction hfraction
      _ ≤ 10 ^ 15 := Nat.pow_le_pow_right (by omega) hsize
      _ < 2 ^ 52 := by omega
  obtain ⟨units, hunits, hround⟩ :=
    Number.Magnitude.roundHalfEven_ofDecimal hfraction (by omega) hlt
  rw [number, h.trim, Number.ofNumeral?_decimalText h, hunits]
  simp only [render_eq_fixed hbefore, hround]
  rfl

/-- A plain decimal below one thousand is written, with or without loss. -/
theorem exists_number_decimalText (before places : Nat) {whole : Text} {fraction : Option Text}
    (h : IsDecimal whole fraction) (hbefore : 0 < before) (hwhole : whole.length ≤ 3) :
    ∃ n, number (decimalText whole fraction) ⟨before, places⟩ = .ok (fixed before places n) := by
  have hsmall := h.ofDigits_lt hwhole
  rw [Nat.pow_add] at hsmall
  obtain ⟨units, hunits⟩ := Number.Magnitude.ofDecimal_finite hsmall
  refine ⟨roundHalfEven (units * 10 ^ places) unitsPerOne, ?_⟩
  rw [number, h.trim, Number.ofNumeral?_decimalText h, hunits]
  simp only [render_eq_fixed hbefore]

/-! ## Cutters and suffixes -/

/-- A character that is no digit is a piece of its own. -/
theorem digitRuns_cons {c : Char} (hc : c.isDigit = false) (s : Text) :
    digitRuns (c :: s) = [c] :: digitRuns s := by
  rw [digitRuns]
  split
  · rename_i hnil
    rw [hnil]
  · rename_i run runs hcons
    simp [hc, hcons]

section Runs

variable {digits : Text} (hdigits : ∀ c ∈ digits, c.isDigit) (hne : digits ≠ [])

include hdigits hne

/-- A cutter is its letter and its digits, as a fraction unless they form too great a number. -/
theorem cutter_digits {letter : Char} (hletter : letter.isUpper) (places : Int) :
    cutter (letter :: digits) places =
      if ofDigits digits ≤ greatestCutter then
        (number ('.' :: digits) ⟨1, places⟩).map (letter :: ·)
      else .ok (letter :: digits) := by
  have hupper : ∀ c ∈ digits.head?, c.isUpper = false := fun c hc =>
    Character.isUpper_of_isDigit (hdigits c (List.mem_of_head? hc))
  have htake : (letter :: digits).takeWhile Char.isUpper = [letter] := by
    cases digits with
    | nil => simp [hletter]
    | cons d digits => simp [hletter, hupper d (by simp)]
  have hdrop : (letter :: digits).dropWhile Char.isUpper = digits := by
    rw [List.dropWhile_cons_of_pos hletter, Text.dropWhile_eq_self hupper]
  have hall : digits.all Char.isDigit = true := List.all_eq_true.mpr hdigits
  have hempty : digits.isEmpty = false := by simpa using hne
  simp only [cutter, htake, hdrop, hempty, hall, Bool.true_and, decide_eq_true_eq,
    Bool.false_eq_true, if_false, List.singleton_append]

/-- A cutter is written as its letter and its digits as a fraction. -/
theorem cutter_eq {letter : Char} (places : Nat) (hletter : letter.isUpper)
    (hlength : digits.length ≤ places) (hplaces : places ≤ 9) :
    cutter (letter :: digits) places =
      .ok (letter :: fixed 1 places (scaled places [] digits)) := by
  have hsmall : ofDigits digits ≤ greatestCutter := by
    have hlt := Number.ofDigits_lt hdigits
    have hle : 10 ^ digits.length ≤ 10 ^ 9 := Nat.pow_le_pow_right (by omega) (by omega)
    unfold greatestCutter
    omega
  have hdecimal : IsDecimal [] (some digits) := ⟨by simp, hdigits, by simpa using hne⟩
  have hnumber := number_decimalText 1 places hdecimal (by omega) hlength (by simp; omega)
  rw [decimalText, List.nil_append, Option.getD_some, Nat.cast_one] at hnumber
  rw [cutter_digits hdigits hne hletter, if_pos hsmall, hnumber]
  rfl

/-- A run of digits that another character or the end follows is one piece. -/
theorem digitRuns_append {s : Text} (hs : ∀ c ∈ s.head?, c.isDigit = false) :
    digitRuns (digits ++ s) = digits :: digitRuns s := by
  induction digits with
  | nil => exact absurd rfl hne
  | cons c digits ih =>
    have hc := hdigits c (by simp)
    cases digits with
    | nil =>
      cases s with
      | nil => rfl
      | cons d s =>
        rw [List.singleton_append, digitRuns, digitRuns_cons (hs d rfl)]
        simp [hs d rfl]
    | cons d digits =>
      have hrest := ih (fun x hx => hdigits x (by simp [hx])) (by simp)
      rw [List.cons_append, digitRuns, hrest]
      simp [hc, hdigits d (by simp)]

/-- A run of digits is read and written as a whole number of six digits. -/
theorem number_digits (hlength : digits.length ≤ 15) :
    number digits suffixWidth = .ok (fixed 6 0 (ofDigits digits)) := by
  have hdecimal : IsDecimal digits none := ⟨hdigits, by simp, by simpa using hne⟩
  have hvalue : scaled 0 digits [] = ofDigits digits := by simp [scaled]
  have hwritten := number_decimalText 6 0 hdecimal (by omega) (by simp) hlength
  rw [Option.getD_none, hvalue] at hwritten
  exact hwritten

/-- A suffix of digits is written as a whole number of six digits. -/
theorem suffix_eq (hlength : digits.length ≤ 15) :
    suffix digits = .ok (fixed 6 0 (ofDigits digits)) := by
  have hruns : digitRuns digits = [digits] := by
    simpa [digitRuns] using digitRuns_append hdigits hne (s := []) (by simp)
  have hall : digits.all Char.isDigit = true := List.all_eq_true.mpr hdigits
  rw [suffix, hruns]
  simp only [List.mapM_cons, List.mapM_nil, hall, if_true, number_digits hdigits hne hlength]
  simp [Except.map, bind, Except.bind, pure, Except.pure]

end Runs

end ShelfKey
end Shelfmark
