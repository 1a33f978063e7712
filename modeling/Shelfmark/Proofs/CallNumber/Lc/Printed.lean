import Shelfmark.Proofs.CallNumber.Lc.Shape
import Shelfmark.Proofs.Number.Numeral

/-!
# Call numbers - Printed LC numbers

A well-formed Library of Congress number is printed from its parts: class letters and
number, then perhaps a cutter, and behind it a year, or a second cutter with or without
a year.  In front of a cutter stand spaces and perhaps a point, in front of a year at
least one space.

Each part carries what makes it well formed, so that every printed number is a text the
shapes recognise.

Main results:

- Theorem `ClassNumber.skip`: a class number is passed over as a whole.
- Theorem `Gap.behindWord?_cutter`: a cutter behind a gap is no word.
- Theorems `ClassNumber.joints_text` and `Cutter.joints_text`: each has one joint.
-/

namespace Shelfmark
namespace CallNumber
namespace Lc

open Text (EndsWithDigit)

/-! ## Parts -/

/-- Digits, at least one. -/
structure Digits where
  text : Text
  isDigit : ∀ c ∈ text, c.isDigit
  ne_nil : text ≠ []

/-- A cutter: a capital and digits. -/
structure Cutter where
  letter : Char
  isUpper : letter.isUpper
  digits : Digits

/-- The gap in front of a cutter: spaces and perhaps a point. -/
structure Gap where
  spaces : Nat
  point : Bool

/-- A year: digits behind spaces, at least one. -/
structure Year where
  spaces : Nat
  spaces_pos : 0 < spaces
  digits : Digits

/-- One to three class letters and a class number, perhaps with a fraction. -/
structure ClassNumber where
  letters : Text
  isUpper : ∀ c ∈ letters, c.isUpper
  ne_nil : letters ≠ []
  length_le : letters.length ≤ 3
  whole : Digits
  fraction : Option Digits

/-- What stands behind a first cutter: nothing, a year, or a second cutter, which may have a
year of its own. -/
inductive Ending where
  | nothing
  | year (year : Year)
  | cutter (gap : Gap) (cutter : Cutter) (year : Option Year)

/-- A first cutter and what stands around it. -/
structure Tail where
  gap : Gap
  cutter : Cutter
  ending : Ending

/-- A well-formed Library of Congress number. -/
structure Printed where
  number : ClassNumber
  tail : Option Tail

/-! ## Texts -/

/-- A cutter as it is printed. -/
def Cutter.text (cutter : Cutter) : Text :=
  cutter.letter :: cutter.digits.text

/-- The point of a gap, if it has one. -/
def Gap.pointText (gap : Gap) : Text :=
  if gap.point then ['.'] else []

/-- A gap as it is printed. -/
def Gap.text (gap : Gap) : Text :=
  List.replicate gap.spaces ' ' ++ gap.pointText

/-- A year as it is printed. -/
def Year.text (year : Year) : Text :=
  List.replicate year.spaces ' ' ++ year.digits.text

/-- The number behind the class letters. -/
def ClassNumber.digits (number : ClassNumber) : Text :=
  Number.decimalText number.whole.text (number.fraction.map Digits.text)

/-- Class letters and number as they are printed. -/
def ClassNumber.text (number : ClassNumber) : Text :=
  number.letters ++ number.digits

/-- A year that may be absent. -/
def yearText (year : Option Year) : Text :=
  (year.map Year.text).getD []

/-- The end of a call number as it is printed. -/
def Ending.text : Ending → Text
  | nothing => []
  | year y => y.text
  | cutter gap c y => gap.text ++ (c.text ++ yearText y)

/-- A first cutter and its surroundings as they are printed. -/
def Tail.text (tail : Tail) : Text :=
  tail.gap.text ++ (tail.cutter.text ++ tail.ending.text)

/-- A call number as it is printed. -/
def Printed.text (printed : Printed) : Text :=
  printed.number.text ++ (printed.tail.map Tail.text).getD []

/-! ## Passing over the parts -/

/-- Digits begin with a digit. -/
theorem Digits.exists_cons (digits : Digits) :
    ∃ d s, digits.text = d :: s ∧ d.isDigit = true := by
  obtain ⟨d, s, h⟩ := List.exists_cons_of_ne_nil digits.ne_nil
  exact ⟨d, s, h, digits.isDigit d (by simp [h])⟩

/-- A text that digits begin has a digit at the front. -/
theorem Digits.head?_any (digits : Digits) (t : Text) :
    (digits.text ++ t).head?.any Char.isDigit = true := by
  obtain ⟨d, s, h, hd⟩ := digits.exists_cons
  simp [h, hd]

/-- Digits end with a digit. -/
theorem Digits.ends (digits : Digits) : EndsWithDigit digits.text :=
  Text.endsWithDigit_of_forall digits.isDigit digits.ne_nil

/-- Digits, with or without a fraction behind them, are a plain decimal. -/
theorem Digits.isDecimal (whole : Digits) (fraction : Option Digits) :
    Number.IsDecimal whole.text (fraction.map Digits.text) := by
  refine ⟨whole.isDigit, ?_, by simp [whole.ne_nil]⟩
  cases fraction with
  | none => simp
  | some fraction => exact fraction.isDigit

/-- Digits are passed over up to the next character that is none. -/
theorem Digits.skip (digits : Digits) {t : Text} (h : ∀ c ∈ t.head?, c.isDigit = false) :
    skipDigits? (digits.text ++ t) = some t := by
  rw [skipDigits?, if_pos (digits.head?_any t), (Text.takeWhile_run digits.isDigit h).2]

/-- A cutter is passed over with all its digits. -/
theorem Cutter.skip (cutter : Cutter) {t : Text} (h : ∀ c ∈ t.head?, c.isDigit = false) :
    skipCutter? (cutter.text ++ t) = some t := by
  rw [Cutter.text, List.cons_append, skipCutter?, if_pos cutter.isUpper, cutter.digits.skip h]

/-- All spaces are passed over. -/
theorem skipSpaces_replicate (n : Nat) {t : Text} (h : ∀ c ∈ t.head?, c ≠ ' ') :
    skipSpaces (List.replicate n ' ' ++ t) = t := by
  have hspaces : ∀ c ∈ List.replicate n ' ', (c == ' ') = true := fun c hc => by
    simp [(List.mem_replicate.mp hc).2]
  rw [skipSpaces, List.dropWhile_append_of_pos hspaces]
  exact Text.dropWhile_eq_self fun c hc => by simp [h c hc]

/-- The spaces of a gap are passed over. -/
theorem Gap.skipSpaces_text (gap : Gap) {t : Text} (h : ∀ c ∈ t.head?, c ≠ ' ') :
    skipSpaces (gap.text ++ t) = gap.pointText ++ t := by
  rw [Gap.text, List.append_assoc]
  refine skipSpaces_replicate gap.spaces fun c hc => ?_
  cases hpoint : gap.point with
  | false =>
    rw [pointText, hpoint] at hc
    exact h c hc
  | true =>
    rw [pointText, hpoint] at hc
    have hc : '.' = c := Option.some.inj hc
    exact hc ▸ by simp

/-- A gap is passed over up to the cutter. -/
theorem Gap.skip_text (gap : Gap) {t : Text} (h : ∀ c ∈ t.head?, c ≠ ' ' ∧ c ≠ '.') :
    skipGap (gap.text ++ t) = t := by
  rw [skipGap, gap.skipSpaces_text fun c hc => (h c hc).1, pointText]
  cases gap.point with
  | false =>
    cases t with
    | nil => rfl
    | cons c t => exact if_neg (h c (by simp)).2
  | true => rfl

/-- The capital of a cutter is neither a space nor a point, nor a digit. -/
theorem Cutter.head_text (cutter : Cutter) (t : Text) :
    ∀ c ∈ (cutter.text ++ t).head?, c.isUpper = true := by
  intro c hc
  have hletter : cutter.letter = c := by simpa [Cutter.text] using hc
  exact hletter ▸ cutter.isUpper

/-- A capital is neither a space nor a point. -/
theorem ne_of_isUpper {c : Char} (h : c.isUpper) : c ≠ ' ' ∧ c ≠ '.' := by
  constructor
  · rintro rfl
    contradiction
  · rintro rfl
    contradiction

/-- A gap is passed over up to a cutter. -/
theorem Gap.skip_cutter (gap : Gap) (cutter : Cutter) (t : Text) :
    skipGap (gap.text ++ (cutter.text ++ t)) = cutter.text ++ t :=
  gap.skip_text fun c hc => ne_of_isUpper (cutter.head_text t c hc)

/-- A number ends where no other digit follows it, not even behind a point. -/
def NumberEnds (t : Text) : Prop :=
  ∀ c ∈ (Text.dropFirst '.' t).head?, c.isDigit = false

/-- Where a number ends no digit follows. -/
theorem NumberEnds.head {t : Text} (h : NumberEnds t) : ∀ c ∈ t.head?, c.isDigit = false := by
  intro c hc
  cases t with
  | nil => contradiction
  | cons d t =>
    have hd : d = c := Option.some.inj hc
    by_cases hpoint : d = '.'
    · rw [← hd, hpoint]
      rfl
    · exact h c (by rw [Text.dropFirst, if_neg hpoint]; exact hc)

/-- Where a number ends no fraction follows. -/
theorem NumberEnds.skipFraction_eq {t : Text} (h : NumberEnds t) : skipFraction t = t := by
  unfold skipFraction
  split
  · rename_i u
    have hnone : skipDigits? u = none := by
      rw [skipDigits?, if_neg]
      cases u with
      | nil => simp
      | cons c u => simp [h c (by simp [Text.dropFirst])]
    rw [hnone]
    rfl
  · rfl

/-- The digits of a class number are passed over together with the fraction. -/
theorem ClassNumber.skip_digits (number : ClassNumber) {t : Text} (h : NumberEnds t) :
    (skipDigits? (number.digits ++ t)).map skipFraction = some t := by
  unfold digits
  cases number.fraction with
  | none =>
    have hwhole : skipDigits? (number.whole.text ++ t) = some t := number.whole.skip h.head
    simp only [Option.map_none, Number.decimalText, hwhole, Option.map_some, h.skipFraction_eq]
  | some fraction =>
    have hwhole : skipDigits? (number.whole.text ++ ('.' :: (fraction.text ++ t))) =
        some ('.' :: (fraction.text ++ t)) := number.whole.skip (by simp)
    have hfraction : skipDigits? (fraction.text ++ t) = some t := fraction.skip h.head
    simp only [Option.map_some, Number.decimalText, List.append_assoc, List.cons_append, hwhole,
      skipFraction, hfraction, Option.getD_some]

/-- The number behind the letters begins with a digit. -/
theorem ClassNumber.exists_cons (number : ClassNumber) :
    ∃ d s, number.digits = d :: s ∧ d.isDigit = true := by
  obtain ⟨d, s, hwhole, hd⟩ := number.whole.exists_cons
  unfold digits
  rw [hwhole]
  cases number.fraction with
  | none => exact ⟨d, s, rfl, hd⟩
  | some fraction => exact ⟨d, s ++ '.' :: fraction.text, rfl, hd⟩

/-- The number behind the letters is a plain decimal. -/
theorem ClassNumber.isDecimal (number : ClassNumber) :
    Number.IsDecimal number.whole.text (number.fraction.map Digits.text) :=
  number.whole.isDecimal number.fraction

/-- There is a number behind the letters. -/
theorem ClassNumber.digits_ne_nil (number : ClassNumber) : number.digits ≠ [] :=
  number.isDecimal.decimalText_ne_nil

/-- A class number is passed over with its letters. -/
theorem ClassNumber.skip (number : ClassNumber) {t : Text} (h : NumberEnds t) :
    skipClassNumber? (number.text ++ t) = some t := by
  obtain ⟨d, s, hdigits, hd⟩ := number.exists_cons
  have hupper : d.isUpper = false := Character.isUpper_of_isDigit hd
  have hlength := number.length_le
  have hpos : 1 ≤ number.letters.length := List.length_pos_iff.mpr number.ne_nil
  have htake : ((number.text ++ t).take 4).takeWhile Char.isUpper = number.letters := by
    have hfew : 4 - number.letters.length = (3 - number.letters.length) + 1 := by omega
    rw [text, hdigits, List.append_assoc, List.take_append,
      List.take_of_length_le (by omega), hfew, List.cons_append, List.take_succ_cons,
      List.takeWhile_append_of_pos number.isUpper,
      List.takeWhile_cons_of_neg (by simp [hupper]), List.append_nil]
  have hdrop : (number.text ++ t).drop number.letters.length = number.digits ++ t := by
    rw [text, List.append_assoc, List.drop_left]
  simp only [skipClassNumber?, htake]
  rw [if_pos ⟨hpos, hlength⟩, hdrop, number.skip_digits h]

/-! ## What follows a class number -/

/-- A gap and a cutter end a number. -/
theorem Gap.numberEnds (gap : Gap) (cutter : Cutter) (t : Text) :
    NumberEnds (gap.text ++ (cutter.text ++ t)) := by
  have hcutter : ∀ c ∈ (cutter.text ++ t).head?, c.isDigit = false := fun c hc =>
    Character.isDigit_of_isUpper (cutter.head_text t c hc)
  have hletter : cutter.letter ≠ '.' := (ne_of_isUpper cutter.isUpper).2
  unfold NumberEnds Gap.text pointText
  cases gap.spaces with
  | zero =>
    cases gap.point with
    | false => simpa [Cutter.text, Text.dropFirst, hletter] using hcutter
    | true => simpa [Text.dropFirst] using hcutter
  | succ n => simp [List.replicate_succ, Text.dropFirst]

/-- A cutter behind a gap is no word. -/
theorem Gap.behindWord?_cutter {α : Type} (answer : Text → Option α) (gap : Gap) (cutter : Cutter)
    (t : Text) : behindWord? answer (skipSpaces (gap.text ++ (cutter.text ++ t))) = none := by
  obtain ⟨d, s, hdigits, hd⟩ := cutter.digits.exists_cons
  have hrange := Character.isUpper_iff.mp cutter.isUpper
  have hword : startsPlainWord cutter.letter = false := by
    rw [startsPlainWord, Character.isDigit_of_isUpper cutter.isUpper,
      Character.isLower_eq_false (by omega)]
    rfl
  rw [gap.skipSpaces_text fun c hc => (ne_of_isUpper (cutter.head_text t c hc)).1, pointText,
    Cutter.text, hdigits]
  cases gap.point with
  | false => simp [behindWord?, hword, hd]
  | true => rfl

/-! ## Joints -/

/-- Of capitals in front of a digit only the last makes a joint. -/
theorem joints_capitals {letters s : Text} (h : ∀ c ∈ letters, c.isUpper) (hne : letters ≠ [])
    (hs : s.head?.any Char.isDigit) : joints (letters ++ s) = joints s + 1 := by
  induction letters with
  | nil => exact absurd rfl hne
  | cons c letters ih =>
    cases letters with
    | nil => exact joints_cons_of_digit (h c (by simp)) hs
    | cons d letters =>
      have hd : d.isDigit = false := Character.isDigit_of_isUpper (h d (by simp))
      rw [List.cons_append, joints, ih (fun x hx => h x (by simp [hx])) (by simp)]
      simp [hd]

/-- Behind the letters of a class number there is no joint. -/
theorem ClassNumber.joints_digits_append (number : ClassNumber) (t : Text) :
    joints (number.digits ++ t) = joints t := by
  refine joints_append t fun c hc => ?_
  rcases number.isDecimal.digit_or_point c hc with hdigit | rfl
  · exact Character.isUpper_of_isDigit hdigit
  · rfl

/-- A class number has one joint. -/
theorem ClassNumber.joints_text (number : ClassNumber) (t : Text) :
    joints (number.text ++ t) = joints t + 1 := by
  obtain ⟨d, s, hcons, hd⟩ := number.exists_cons
  rw [text, List.append_assoc, joints_capitals number.isUpper number.ne_nil (by simp [hcons, hd]),
    number.joints_digits_append]

/-- Digits begin no joint. -/
theorem Digits.joints_append (digits : Digits) (t : Text) : joints (digits.text ++ t) = joints t :=
  Lc.joints_append t fun c hc => Character.isUpper_of_isDigit (digits.isDigit c hc)

/-- A cutter has one joint. -/
theorem Cutter.joints_text (cutter : Cutter) (t : Text) :
    joints (cutter.text ++ t) = joints t + 1 := by
  rw [text, List.cons_append, joints_cons_of_digit cutter.isUpper (cutter.digits.head?_any t),
    cutter.digits.joints_append]

/-! ## Characters -/

/-- A character of a printed call number: a capital, a digit, a space or a point. -/
def IsPrinted (c : Char) : Prop :=
  c.isUpper = true ∨ c.isDigit = true ∨ c = ' ' ∨ c = '.'

/-- Printed characters come before the small letters. -/
theorem IsPrinted.toNat_lt {c : Char} (h : IsPrinted c) : c.toNat < 97 := by
  rcases h with h | h | rfl | rfl
  · have := Character.isUpper_iff.mp h
    omega
  · have := Character.isDigit_iff.mp h
    omega
  · decide
  · decide

/-- Digits are printed characters. -/
theorem Digits.isPrinted (digits : Digits) : ∀ c ∈ digits.text, IsPrinted c :=
  fun c hc => Or.inr (Or.inl (digits.isDigit c hc))

/-- Spaces are printed characters. -/
theorem isPrinted_spaces (n : Nat) : ∀ c ∈ List.replicate n ' ', IsPrinted c :=
  fun _ hc => Or.inr (Or.inr (Or.inl (List.mem_replicate.mp hc).2))

/-- The characters of a gap are printed ones. -/
theorem Gap.isPrinted (gap : Gap) : ∀ c ∈ gap.text, IsPrinted c := by
  refine List.forall_mem_append.mpr ⟨isPrinted_spaces gap.spaces, fun c hc => ?_⟩
  unfold pointText at hc
  split at hc
  · exact Or.inr (Or.inr (Or.inr (List.mem_singleton.mp hc)))
  · contradiction

/-- The characters of a cutter are printed ones. -/
theorem Cutter.isPrinted (cutter : Cutter) : ∀ c ∈ cutter.text, IsPrinted c :=
  List.forall_mem_cons.mpr ⟨Or.inl cutter.isUpper, cutter.digits.isPrinted⟩

/-- The characters of a year are printed ones. -/
theorem isPrinted_yearText (year : Option Year) : ∀ c ∈ yearText year, IsPrinted c := by
  cases year with
  | none => simp [yearText]
  | some y => exact List.forall_mem_append.mpr ⟨isPrinted_spaces y.spaces, y.digits.isPrinted⟩

/-- The characters of a class number are printed ones. -/
theorem ClassNumber.isPrinted (number : ClassNumber) : ∀ c ∈ number.text, IsPrinted c := by
  refine List.forall_mem_append.mpr ⟨fun c hc => Or.inl (number.isUpper c hc), fun c hc => ?_⟩
  rcases number.isDecimal.digit_or_point c hc with h | h
  · exact Or.inr (Or.inl h)
  · exact Or.inr (Or.inr (Or.inr h))

/-- The characters of a call number are printed ones. -/
theorem Printed.isPrinted (printed : Printed) : ∀ c ∈ printed.text, IsPrinted c := by
  refine List.forall_mem_append.mpr ⟨printed.number.isPrinted, ?_⟩
  cases printed.tail with
  | none => simp
  | some tail =>
    refine List.forall_mem_append.mpr ⟨tail.gap.isPrinted, ?_⟩
    refine List.forall_mem_append.mpr ⟨tail.cutter.isPrinted, ?_⟩
    cases tail.ending with
    | nothing => simp [Ending.text]
    | year y => exact isPrinted_yearText (some y)
    | cutter gap c y =>
      refine List.forall_mem_append.mpr ⟨gap.isPrinted, ?_⟩
      exact List.forall_mem_append.mpr ⟨c.isPrinted, isPrinted_yearText y⟩

/-! ## The last character -/

/-- The digits of a class number end with one. -/
theorem ClassNumber.digits_ends (number : ClassNumber) : EndsWithDigit number.digits := by
  unfold digits
  cases number.fraction with
  | none => exact number.whole.ends
  | some fraction => exact (fraction.ends.cons '.').append number.whole.text

/-- A class number ends with a digit. -/
theorem ClassNumber.ends (number : ClassNumber) : EndsWithDigit number.text :=
  number.digits_ends.append number.letters

/-- A cutter, with or without a year, ends with a digit. -/
theorem Cutter.ends (cutter : Cutter) (year : Option Year) :
    EndsWithDigit (cutter.text ++ yearText year) := by
  cases year with
  | none =>
    rw [yearText, Option.map_none, Option.getD_none, List.append_nil]
    exact cutter.digits.ends.cons cutter.letter
  | some y => exact (y.digits.ends.append _).append cutter.text

/-- A printed call number ends with a digit. -/
theorem Printed.ends (printed : Printed) : EndsWithDigit printed.text := by
  unfold Printed.text
  cases printed.tail with
  | none =>
    rw [Option.map_none, Option.getD_none, List.append_nil]
    exact printed.number.ends
  | some tail =>
    refine EndsWithDigit.append (EndsWithDigit.append ?_ tail.gap.text) printed.number.text
    cases tail.ending with
    | nothing => exact tail.cutter.ends none
    | year y => exact tail.cutter.ends (some y)
    | cutter gap c y => exact ((c.ends y).append gap.text).append tail.cutter.text

end Lc
end CallNumber
end Shelfmark
