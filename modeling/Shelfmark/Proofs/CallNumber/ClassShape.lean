import Shelfmark.Proofs.CallNumber.Dewey
import Shelfmark.Proofs.CallNumber.Scheme

/-!
# Call numbers - The beginning that tells a Library of Congress number

A Library of Congress number is told by what it begins with: class letters, spaces and a number,
each read as far as it reaches.  In capitals that is a class number with spaces behind its
letters, whatever else follows.

Main results:

- Theorem `isSome_classShape?`: the beginning is found in Library of Congress numbers only.
- Theorem `exists_of_classShape?`: what is found is what the call number begins with.
- Theorem `exists_spaced_of_isLc`: in capitals it is a class number.
-/

namespace Shelfmark
namespace Scheme

open CallNumber.Dewey (takeFraction takeFraction_spec)
open CallNumber.Lc (ClassNumber Digits)
open Number (decimalText)

/-! ## Reading the beginning -/

/-- What a Library of Congress number is told by. -/
structure ClassShape where
  /-- One to three class letters. -/
  letters : Text
  /-- The spaces behind the letters. -/
  spaces : Text
  /-- Digits and perhaps a decimal fraction. -/
  number : Text
  deriving Repr, DecidableEq

/-- The digits at the front and the decimal fraction behind them, if there is one. -/
def takeNumber (s : Text) : Text :=
  s.takeWhile Char.isDigit ++ takeFraction (s.dropWhile Char.isDigit)

/-- The class letters, spaces and number that the trimmed call number begins with. -/
def classShape? (callNumber : Text) : Option ClassShape :=
  let s := callNumber.trim
  let letters := (s.take 3).takeWhile Char.isAlpha
  let behind := s.drop letters.length
  let rest := behind.dropWhile (· == ' ')
  if letters.head?.any isLcInitial && startsWithDigit rest then
    some ⟨letters, behind.takeWhile (· == ' '), takeNumber rest⟩
  else none

/-- Dropping letters drops those among the first characters. -/
theorem dropLetters_eq_drop (n : Nat) (s : Text) :
    dropLetters n s = s.drop ((s.take n).takeWhile Char.isAlpha).length := by
  induction n generalizing s with
  | zero => rfl
  | succ n ih =>
    cases s with
    | nil => rfl
    | cons c s =>
      rw [dropLetters, List.take_succ_cons]
      split
      · rename_i halpha
        rw [List.takeWhile_cons_of_pos halpha, List.length_cons, List.drop_succ_cons, ih]
      · rename_i halpha
        rw [List.takeWhile_cons_of_neg halpha]
        rfl

/-- The beginning is found in Library of Congress numbers, and only there. -/
theorem isSome_classShape? (raw : Text) : (classShape? raw).isSome = isLc raw := by
  unfold classShape? isLc
  cases raw.trim with
  | nil => rfl
  | cons c s =>
    dsimp only
    rw [List.take_succ_cons]
    cases halpha : c.isAlpha with
    | true =>
      rw [List.takeWhile_cons_of_pos halpha, List.length_cons, List.drop_succ_cons,
        ← dropLetters_eq_drop, List.head?_cons, Option.any_some]
      cases isLcInitial c && startsWithDigit ((dropLetters 2 s).dropWhile (· == ' ')) <;> rfl
    | false =>
      have hinitial : isLcInitial c = false := by simp [isLcInitial, halpha]
      rw [List.takeWhile_cons_of_neg (by simp [halpha]), hinitial]
      rfl

/-! ## The parts of the beginning -/

/-- A fraction is taken from the front. -/
theorem takeFraction_prefix (s : Text) : takeFraction s <+: s := by
  unfold takeFraction
  split
  · dsimp only
    split
    · exact List.nil_prefix
    · exact (List.prefix_cons_inj '.').mpr (List.takeWhile_prefix _)
  · exact List.nil_prefix

/-- A number is taken from the front. -/
theorem takeNumber_prefix (s : Text) : takeNumber s <+: s := by
  obtain ⟨t, ht⟩ := takeFraction_prefix (s.dropWhile Char.isDigit)
  exact ⟨t, by rw [takeNumber, List.append_assoc, ht, List.takeWhile_append_dropWhile]⟩

/-- The number at the front of a text that begins with a digit is a plain decimal. -/
theorem takeNumber_eq_decimalText {s : Text} (h : startsWithDigit s) :
    ∃ (whole : Digits) (fraction : Option Digits),
      takeNumber s = decimalText whole.text (fraction.map Digits.text) := by
  have hne : s.takeWhile Char.isDigit ≠ [] := by
    cases s with
    | nil => contradiction
    | cons c s =>
      have hdigit : c.isDigit = true := h
      rw [List.takeWhile_cons_of_pos hdigit]
      exact List.cons_ne_nil _ _
  let whole : Digits := ⟨s.takeWhile Char.isDigit, List.all_eq_true.mp List.all_takeWhile, hne⟩
  rcases takeFraction_spec (s.dropWhile Char.isDigit) with hnone | ⟨digits, hsome, hdigits, hall⟩
  · refine ⟨whole, none, ?_⟩
    rw [takeNumber, hnone, List.append_nil]
    rfl
  · refine ⟨whole, some ⟨digits, hall, hdigits⟩, ?_⟩
    rw [takeNumber, hsome]
    rfl

/-- Letters in capitals are as many letters. -/
theorem upper_letters {letters : Text} (h : ∀ c ∈ letters, c.isAlpha) :
    letters.upper = letters.map Char.toUpper :=
  Text.upper_eq_map fun c hc => (upper_of_isAlpha (h c hc)).1

/-- One to three letters, in capitals, and a number. -/
def classNumber (letters : Text) (halpha : ∀ c ∈ letters, c.isAlpha) (hne : letters ≠ [])
    (hlength : letters.length ≤ 3) (whole : Digits) (fraction : Option Digits) : ClassNumber where
  letters := letters.map Char.toUpper
  isUpper c hc := by
    obtain ⟨a, ha, rfl⟩ := List.mem_map.mp hc
    exact (upper_of_isAlpha (halpha a ha)).2
  ne_nil := by simpa using hne
  length_le := by simpa using hlength
  whole := whole
  fraction := fraction

/-- In capitals class letters begin as they do in either case. -/
theorem isLcInitial_head_toUpper {letters : Text} (h : letters.head?.any isLcInitial = true) :
    (letters.map Char.toUpper).head?.any isLcInitial = true := by
  cases letters with
  | nil => contradiction
  | cons c rest => exact isLcInitial_toUpper h

/-- What is found is what the call number begins with.  In capitals the letters are those of a
class number, and the number is its digits. -/
theorem exists_of_classShape? {raw : Text} {shape : ClassShape}
    (h : classShape? raw = some shape) :
    ∃ (number : ClassNumber) (t : Text),
      raw.trim = shape.letters ++ (shape.spaces ++ (shape.number ++ t)) ∧
        shape.letters.upper = number.letters ∧
        shape.spaces = List.replicate shape.spaces.length ' ' ∧
        shape.number = number.digits ∧
        number.letters.head?.any isLcInitial = true := by
  unfold classShape? at h
  dsimp only at h
  split at h
  · rename_i hfound
    obtain ⟨hinitial, hdigit⟩ := Bool.and_eq_true_iff.mp hfound
    obtain rfl := Option.some.inj h
    set letters := (raw.trim.take 3).takeWhile Char.isAlpha with hletters
    set behind := raw.trim.drop letters.length with hbehind
    have halpha : ∀ c ∈ letters, c.isAlpha := List.all_eq_true.mp List.all_takeWhile
    have hlength : letters.length ≤ 3 :=
      (List.takeWhile_prefix _).length_le.trans (List.length_take_le 3 _)
    have hne : letters ≠ [] := by
      intro hnil
      rw [hnil] at hinitial
      contradiction
    have hfront : raw.trim = letters ++ behind := by
      obtain ⟨u, hu⟩ := (List.takeWhile_prefix Char.isAlpha).trans (List.take_prefix 3 raw.trim)
      rw [hbehind, ← hu, List.drop_left]
    obtain ⟨whole, fraction, hnumber⟩ := takeNumber_eq_decimalText hdigit
    obtain ⟨t, ht⟩ := takeNumber_prefix (behind.dropWhile (· == ' '))
    refine ⟨classNumber letters halpha hne hlength whole fraction, t, ?_, upper_letters halpha, ?_,
      hnumber, isLcInitial_head_toUpper hinitial⟩
    · rw [ht, List.takeWhile_append_dropWhile, ← hfront]
    · exact List.eq_replicate_of_mem fun c hc =>
        beq_iff_eq.mp (List.all_eq_true.mp List.all_takeWhile c hc)
  · contradiction

/-- In capitals a call number begins with what is found in it. -/
theorem upper_of_classShape? {raw t : Text} {shape : ClassShape} {number : ClassNumber}
    (htext : raw.trim = shape.letters ++ (shape.spaces ++ (shape.number ++ t)))
    (hletters : shape.letters.upper = number.letters)
    (hspaces : shape.spaces = List.replicate shape.spaces.length ' ')
    (hnumber : shape.number = number.digits) :
    raw.trim.upper = number.spaced shape.spaces.length ++ t.upper := by
  have hself : (shape.spaces ++ shape.number).upper = shape.spaces ++ shape.number := by
    rw [hspaces, hnumber]
    refine Text.upper_eq_self (List.forall_mem_append.mpr ⟨fun c hc => ?_, fun c hc => ?_⟩)
    · rw [(List.mem_replicate.mp hc).2]
      decide
    · rcases number.isDecimal.digit_or_point c hc with hdigit | rfl
      · have hrange := Character.isDigit_iff.mp hdigit
        exact ⟨by omega, Character.isLower_eq_false (by omega)⟩
      · decide
  unfold Text.upper at hletters hself
  rw [htext, Text.upper, ← List.append_assoc shape.spaces, List.flatMap_append,
    List.flatMap_append, hletters, hself, ClassNumber.spaced, ← hspaces, hnumber,
    List.append_assoc, List.append_assoc, List.append_assoc]
  rfl

/-- In capitals a Library of Congress number begins with a class number. -/
theorem exists_spaced_of_isLc {raw : Text} (h : isLc raw = true) :
    ∃ (number : ClassNumber) (n : Nat) (t : Text),
      raw.trim.upper = number.spaced n ++ t ∧ number.letters.head?.any isLcInitial = true := by
  obtain ⟨shape, hshape⟩ := Option.isSome_iff_exists.mp ((isSome_classShape? raw).trans h)
  obtain ⟨number, t, htext, hletters, hspaces, hnumber, hinitial⟩ := exists_of_classShape? hshape
  exact ⟨number, _, t.upper, upper_of_classShape? htext hletters hspaces hnumber, hinitial⟩

end Scheme
end Shelfmark
