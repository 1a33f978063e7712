import Mathlib.Data.List.TakeWhile
import Shelfmark.CallNumber.Lc
import Shelfmark.Proofs.CallNumber.Lc.Printed
import Shelfmark.Proofs.Text.Separator

/-!
# Call numbers - Reading the class

What stands in front of the first cutter is a class number and perhaps a suffix: a year, or
another word that begins with a digit.  It is read so wherever the cutter begins, and with or
without spaces between class letters and number.  Where there is no cutter, none is found: a
class has at most one joint.

Main results:

- Theorem `classRegion_spaced`: in front of the first cutter stand class number and suffix.
- Theorem `classDigits?_suffixText`: the class number is found.
- Theorem `ofUpper_suffixText`: a class without cutters is read as class number and suffix.
-/

namespace Shelfmark

/-! ## Digits and letters -/

namespace Character

/-- In front of the first range there is nothing. -/
theorem inRanges_of_lt {ranges : List (Nat × Nat)} {n : Nat}
    (h : ∀ range ∈ ranges.head?, n < range.1) : inRanges ranges n = false := by
  cases ranges with
  | nil => rfl
  | cons range ranges => exact if_pos (h range rfl)

/-- A digit is not alphabetic. -/
theorem isAlphabetic_of_isDigit {c : Char} (h : c.isDigit) : isAlphabetic c = false := by
  have hrange := isDigit_iff.mp h
  have hletter : inRanges letterRanges c.toNat = false :=
    inRanges_of_lt fun range hr => Option.some.inj hr ▸ by omega
  have hlater : inRanges laterLetterRanges c.toNat = false :=
    inRanges_of_lt fun range hr => Option.some.inj hr ▸ by omega
  have hother : inRanges otherAlphabeticRanges c.toNat = false :=
    inRanges_of_lt fun range hr => Option.some.inj hr ▸ by omega
  rw [isAlphabetic, isLetter, hletter, hlater, hother]
  rfl

end Character

namespace CallNumber
namespace Lc

open Text (Span leftmost? furthest?)

/-- Digits have no blanks around them. -/
theorem Digits.trim (digits : Digits) : digits.text.trim = digits.text :=
  Text.trim_of_forall fun c hc => Character.isBlank_of_isDigit (digits.isDigit c hc)

/-- There is nothing but digits among digits. -/
theorem Digits.not_mem (digits : Digits) {c : Char} (h : c.isDigit = false) :
    c ∉ digits.text := fun hmem => by
  rw [digits.isDigit c hmem] at h
  contradiction

/-! ## Class suffixes -/

/-- A word of capitals and digits that begins with a digit, behind spaces: a year, or the number
of a session.  None of its capitals is directly followed by a digit. -/
structure Suffix where
  spaces : Nat
  spaces_pos : 0 < spaces
  word : Text
  digit : word.head?.any Char.isDigit
  capitalOrDigit : ∀ c ∈ word, c.isUpper ∨ c.isDigit
  unjointed : joints word = 0

/-- A suffix as it is written. -/
def Suffix.text (suffix : Suffix) : Text :=
  List.replicate suffix.spaces ' ' ++ suffix.word

/-- A suffix that may be absent. -/
def suffixText (suffix : Option Suffix) : Text :=
  (suffix.map Suffix.text).getD []

/-- Capitals and digits are word characters, and neither blanks nor points. -/
theorem isWordChar_of_capitalOrDigit {c : Char} (h : c.isUpper ∨ c.isDigit) :
    isWordChar c = true ∧ Character.isBlank c = false ∧ c ≠ ' ' ∧ c ≠ '.' := by
  rcases h with hupper | hdigit
  · refine ⟨?_, Character.isBlank_of_isUpper hupper, ne_of_isUpper hupper⟩
    have halpha : c.isAlpha = true := Bool.or_eq_true_iff.mpr (Or.inl hupper)
    simp [isWordChar, Char.isAlphanum, halpha]
  · refine ⟨?_, Character.isBlank_of_isDigit hdigit, ?_, ?_⟩
    · simp [isWordChar, Char.isAlphanum, hdigit]
    · rintro rfl
      contradiction
    · rintro rfl
      contradiction

/-- The word of a suffix begins with a digit. -/
theorem Suffix.exists_cons (suffix : Suffix) :
    ∃ d s, suffix.word = d :: s ∧ d.isDigit = true := by
  have hdigit := suffix.digit
  cases hword : suffix.word with
  | nil =>
    rw [hword] at hdigit
    contradiction
  | cons d s =>
    rw [hword] at hdigit
    exact ⟨d, s, rfl, hdigit⟩

/-- The word of a suffix is not empty. -/
theorem Suffix.word_ne_nil (suffix : Suffix) : suffix.word ≠ [] := by
  obtain ⟨d, s, hword, -⟩ := suffix.exists_cons
  simp [hword]

/-- The word of a suffix has neither spaces nor points. -/
theorem Suffix.not_mem (suffix : Suffix) : ' ' ∉ suffix.word ∧ '.' ∉ suffix.word :=
  ⟨fun hc => (isWordChar_of_capitalOrDigit (suffix.capitalOrDigit ' ' hc)).2.2.1 rfl,
    fun hc => (isWordChar_of_capitalOrDigit (suffix.capitalOrDigit '.' hc)).2.2.2 rfl⟩

/-- The word of a suffix has no blanks around it. -/
theorem Suffix.trim (suffix : Suffix) : Text.trim suffix.word = suffix.word :=
  Text.trim_of_forall fun c hc =>
    (isWordChar_of_capitalOrDigit (suffix.capitalOrDigit c hc)).2.1

/-- A suffix begins with a space. -/
theorem Suffix.exists_text (suffix : Suffix) (t : Text) :
    ∃ n, suffix.text ++ t = ' ' :: (List.replicate n ' ' ++ (suffix.word ++ t)) := by
  obtain ⟨n, hn⟩ := Nat.exists_eq_succ_of_ne_zero (Nat.ne_of_gt suffix.spaces_pos)
  exact ⟨n, by rw [text, hn, List.replicate_succ, List.append_assoc]; rfl⟩

/-- A suffix does not go on with the digits of a cutter. -/
theorem Suffix.head_append (suffix : Suffix) (t : Text) :
    ∀ c ∈ (suffix.text ++ t).head?, c.isDigit = false := by
  obtain ⟨n, hn⟩ := suffix.exists_text t
  rw [hn]
  exact fun c hc => Option.some.inj hc ▸ rfl

/-- There is no joint in a suffix. -/
theorem joints_suffixText (suffix : Option Suffix) : joints (suffixText suffix) = 0 := by
  cases suffix with
  | none => rfl
  | some suffix =>
    have hspaces := joints_append suffix.word fun c (hc : c ∈ List.replicate suffix.spaces ' ') =>
      (List.mem_replicate.mp hc).2 ▸ rfl
    exact hspaces.trans suffix.unjointed

/-- A suffix without the spaces in front of it is its word. -/
theorem nonempty?_trim_suffixText (suffix : Option Suffix) :
    (Text.trim (suffixText suffix)).nonempty? = suffix.map Suffix.word := by
  cases suffix with
  | none => rfl
  | some suffix =>
    have htrim : Text.trim suffix.text = suffix.word := by
      rw [Text.trim, Text.trimStart, Suffix.text,
        List.dropWhile_append_of_pos Text.isBlank_of_mem_spaces]
      exact suffix.trim
    rw [suffixText, Option.map_some, Option.getD_some, htrim]
    exact Text.nonempty?_of_ne_nil suffix.word_ne_nil

/-! ## The class -/

/-- Where a digit stands behind the last point or space there is no makeshift cutter. -/
theorem makeshiftCutter?_eq_none {s : Text}
    (h : ∀ t ∈ (Text.afterLast? '.' s).or (Text.afterLast? ' ' s),
      ∃ d u, t = d :: u ∧ d.isDigit = true) : makeshiftCutter? s = none := by
  rw [makeshiftCutter?, Option.bind_eq_none_iff]
  intro text htext
  obtain ⟨behind, hbehind, rfl⟩ := Option.map_eq_some_iff.mp htext
  obtain ⟨d, u, rfl, hd⟩ := h behind hbehind
  refine if_neg fun halpha => ?_
  obtain ⟨c, hc, hletter⟩ := (Option.any_eq_true _ _).mp halpha
  -- The digit is no blank, so it is still in front when the text is trimmed.
  have hstart : Text.trimStart (d :: u) = d :: u :=
    Text.dropWhile_eq_self fun x hx => Option.some.inj hx ▸ Character.isBlank_of_isDigit hd
  obtain ⟨v, hv⟩ := List.head?_eq_some_iff.mp hc
  obtain ⟨w, hw⟩ := Text.trim_prefix_trimStart (d :: u)
  rw [hstart, hv] at hw
  obtain rfl : c = d := (List.cons.inj hw).1
  rw [Character.isAlphabetic_of_isDigit hd] at hletter
  contradiction

/-- What stands in front of a gap is left when the gap is trimmed. -/
theorem classRegion_gap {front : Text} (hne : front ≠ [])
    (hhead : ∀ c ∈ front.head?, Character.isBlank c = false)
    (hlast : ∀ c ∈ front.getLast?, Character.isBlank c = false ∧ c ≠ '.') (gap : Gap)
    (t rest : Text) : classRegion (front ++ (gap.text ++ t)) (some ⟨t, rest⟩) = front := by
  have hspaces (n : Nat) : Text.trim (front ++ List.replicate n ' ') = front := by
    rw [Text.trim_append_blank hhead hne Text.isBlank_of_mem_spaces]
    exact Text.trimEnd_eq_self fun c hc => (hlast c hc).1
  have hbefore : Text.before (front ++ (gap.text ++ t)) t = front ++ gap.text := by
    rw [← List.append_assoc, Text.before_append]
  have hfront : Text.trim front = front := by simpa using hspaces 0
  simp only [classRegion, hbefore]
  unfold Gap.text Gap.pointText
  cases gap.point with
  | false =>
    have hpoint : Text.dropLast? '.' front = none := if_neg fun h => (hlast '.' h).2 rfl
    simp only [Bool.false_eq_true, if_false, List.append_nil, hspaces, hpoint, Option.getD_none,
      hfront]
  | true =>
    have hwhole : Text.trim (front ++ (List.replicate gap.spaces ' ' ++ ['.'])) =
        front ++ (List.replicate gap.spaces ' ' ++ ['.']) := by
      refine Text.trim_eq_self (fun c hc => ?_) fun c hc => ?_
      · rw [List.head?_append_of_ne_nil _ hne] at hc
        exact hhead c hc
      · have hlast : '.' = c := by simpa [← List.append_assoc] using hc
        exact hlast ▸ Character.isBlank_point
    have hpoint : Text.dropLast? '.' (front ++ (List.replicate gap.spaces ' ' ++ ['.'])) =
        some (front ++ List.replicate gap.spaces ' ') := by
      rw [← List.append_assoc, Text.dropLast?, if_pos (by simp), List.dropLast_concat]
    simp only [if_true, hwhole, hpoint, Option.getD_some, hspaces]

section Class

variable (number : ClassNumber)

/-- A class number with spaces behind the letters. -/
def ClassNumber.spaced (n : Nat) : Text :=
  number.letters ++ (List.replicate n ' ' ++ number.digits)

/-- Without spaces behind the letters. -/
@[simp] theorem ClassNumber.spaced_zero : number.spaced 0 = number.text :=
  rfl

/-- A class number begins with a capital. -/
theorem ClassNumber.head_spaced (n : Nat) (t : Text) :
    ∀ c ∈ (number.spaced n ++ t).head?, c.isUpper = true := by
  intro c hc
  obtain ⟨letter, letters, hletters⟩ := List.exists_cons_of_ne_nil number.ne_nil
  have hletter : letter = c := by simpa [spaced, hletters] using hc
  exact number.isUpper c (by simp [hletters, hletter])

/-- A class number begins with a capital. -/
theorem ClassNumber.head_text (t : Text) : ∀ c ∈ (number.text ++ t).head?, c.isUpper = true :=
  number.head_spaced 0 t

/-- What is found behind the letters is the class number, with what follows it up to the next
letter or space. -/
theorem ClassNumber.classDigits?_append (n : Nat) (t : Text) :
    classDigits? (number.spaced n ++ t) =
      some (number.digits ++ Text.trimEnd (t.takeWhile (!isClassSeparator ·))) := by
  have hletters : ∀ c ∈ number.letters, isClassSeparator c = true := fun c hc => by
    simp [isClassSeparator, number.isUpper c hc]
  have hspaces : ∀ c ∈ List.replicate n ' ', isClassSeparator c = true := fun c hc =>
    (List.mem_replicate.mp hc).2 ▸ rfl
  have hdigits : ∀ c ∈ number.digits, isClassSeparator c = false := fun c hc => by
    rcases number.isDecimal.digit_or_point c hc with hdigit | rfl
    · have hspace : c ≠ ' ' := by
        rintro rfl
        contradiction
      simp [isClassSeparator, Character.isUpper_of_isDigit hdigit, hspace]
    · rfl
  have hfront : (number.spaced n ++ t).dropWhile (!isClassSeparator ·) = number.spaced n ++ t :=
    Text.dropWhile_eq_self fun c hc => by
      have hupper := number.head_spaced n t c hc
      simp [isClassSeparator, hupper]
  obtain ⟨d, s, hcons, hd⟩ := number.exists_cons
  have hbehind : (number.spaced n ++ t).dropWhile isClassSeparator = number.digits ++ t := by
    have hnot : isClassSeparator d = false := hdigits d (by simp [hcons])
    rw [spaced, List.append_assoc, List.append_assoc, List.dropWhile_append_of_pos hletters,
      List.dropWhile_append_of_pos hspaces, hcons, List.cons_append,
      List.dropWhile_cons_of_neg (by simp [hnot])]
  have htake : (number.digits ++ t).takeWhile (!isClassSeparator ·) =
      number.digits ++ t.takeWhile (!isClassSeparator ·) :=
    List.takeWhile_append_of_pos fun c hc => by simp [hdigits c hc]
  have htrim := Text.trim_append number.digits_ne_nil
    (fun c hc => by
      rw [hcons] at hc
      exact Option.some.inj hc ▸ Character.isBlank_of_isDigit hd)
    (fun c hc => Character.isBlank_of_isDigit (number.digits_ends.isDigit c hc))
    (t.takeWhile (!isClassSeparator ·))
  simp only [classDigits?, hfront, hbehind, htake, htrim]
  exact Text.nonempty?_of_ne_nil (List.append_ne_nil_of_left_ne_nil number.digits_ne_nil _)

/-- The class number is found behind the letters, up to the next letter or space. -/
theorem ClassNumber.classDigits?_spaced (n : Nat) {t : Text}
    (ht : ∀ c ∈ t.head?, isClassSeparator c = true) :
    classDigits? (number.spaced n ++ t) = some number.digits := by
  have hnone : t.takeWhile (!isClassSeparator ·) = [] := by
    cases t with
    | nil => rfl
    | cons c t => exact List.takeWhile_cons_of_neg (by simp [ht c rfl])
  rw [number.classDigits?_append, hnone]
  exact congrArg some (List.append_nil _)

/-- What stands behind the class number is found behind its first occurrence. -/
theorem ClassNumber.behindFirst?_spaced (n : Nat) (t : Text) :
    behindFirst? number.digits (number.spaced n ++ t) = some t := by
  obtain ⟨d, s, hcons, hd⟩ := number.exists_cons
  have hfront : ∀ c ∈ number.letters ++ List.replicate n ' ', c.isDigit = false :=
    List.forall_mem_append.mpr ⟨fun c hc => Character.isDigit_of_isUpper (number.isUpper c hc),
      fun c hc => (List.mem_replicate.mp hc).2 ▸ rfl⟩
  rw [spaced, ← List.append_assoc]
  generalize number.letters ++ List.replicate n ' ' = front at hfront
  -- No place in front of the number has a digit.
  induction front with
  | nil => exact Text.leftmost?_of_some (by rw [List.nil_append]; simp)
  | cons c front ih =>
    have hc : d ≠ c := by
      rintro rfl
      rw [hfront d (by simp)] at hd
      contradiction
    have hmismatch : number.digits.isPrefixOf (c :: (front ++ number.digits ++ t)) = false := by
      rw [hcons]
      simp [List.isPrefixOf, hc]
    rw [List.cons_append, List.cons_append, behindFirst?,
      Text.leftmost?_of_none (by rw [hmismatch]; rfl)]
    exact ih fun x hx => hfront x (by simp [hx])

/-- A class number with spaces behind its letters has at most one joint. -/
theorem ClassNumber.joints_spaced (n : Nat) (t : Text) :
    joints (number.spaced n ++ t) = joints t + if n = 0 then 1 else 0 := by
  cases n with
  | zero => exact number.joints_text t
  | succ n =>
    have hletters : joints number.letters = 0 :=
      joints_eq_zero fun c hc => Character.isDigit_of_isUpper (number.isUpper c hc)
    have hspaces : joints (List.replicate (n + 1) ' ' ++ (number.digits ++ t)) =
        joints (number.digits ++ t) :=
      joints_append _ fun c hc => (List.mem_replicate.mp hc).2 ▸ rfl
    have hhead : ∀ c ∈ (List.replicate (n + 1) ' ' ++ (number.digits ++ t)).head?,
        c.isDigit = false := fun c hc => Option.some.inj hc ▸ rfl
    rw [spaced, List.append_assoc, List.append_assoc, joints_append_of_head _ hhead, hletters,
      hspaces, number.joints_digits_append]
    exact Nat.zero_add _

/-- There is no point in a suffix. -/
theorem point_not_mem_suffixText (suffix : Option Suffix) : '.' ∉ suffixText suffix := by
  cases suffix with
  | none => simp [suffixText]
  | some suffix => simp [suffixText, Suffix.text, suffix.not_mem.2]

/-- Behind the last space of a text that ends in a suffix stands the word. -/
theorem Suffix.afterLast?_append (suffix : Suffix) (s : Text) :
    Text.afterLast? ' ' (s ++ suffix.text) = some suffix.word := by
  obtain ⟨m, hm⟩ := Nat.exists_eq_succ_of_ne_zero (Nat.ne_of_gt suffix.spaces_pos)
  have hsplit : s ++ suffix.text = (s ++ List.replicate m ' ') ++ ' ' :: suffix.word := by
    simp [Suffix.text, hm, List.replicate_succ']
  rw [hsplit, Text.afterLast?_append_cons _ suffix.not_mem.1]

/-- Behind the point of a class number stands the fraction. -/
theorem ClassNumber.afterLast?_point {fraction : Digits} (h : number.fraction = some fraction)
    (n : Nat) {t : Text} (ht : '.' ∉ t) :
    Text.afterLast? '.' (number.spaced n ++ t) = some (fraction.text ++ t) := by
  have hsplit : number.spaced n ++ t =
      (number.letters ++ (List.replicate n ' ' ++ number.whole.text)) ++
        '.' :: (fraction.text ++ t) := by
    simp [spaced, digits, Number.decimalText, h]
  have hbehind : '.' ∉ fraction.text ++ t := by
    simp [fraction.not_mem, ht]
  rw [hsplit, Text.afterLast?_append_cons _ hbehind]

/-- There is no point in a class number without a fraction. -/
theorem ClassNumber.point_not_mem_spaced (h : number.fraction = none) (n : Nat) :
    '.' ∉ number.spaced n := by
  have hletters : '.' ∉ number.letters := fun hc => (ne_of_isUpper (number.isUpper '.' hc)).2 rfl
  simp [spaced, digits, Number.decimalText, h, hletters, number.whole.not_mem]

/-- Behind the last space of a class number without a fraction stands the number. -/
theorem ClassNumber.mem_afterLast?_space (h : number.fraction = none) (n : Nat) {t : Text}
    (ht : t ∈ Text.afterLast? ' ' (number.spaced n)) : t = number.whole.text := by
  have hdigits : number.digits = number.whole.text := by
    simp [digits, Number.decimalText, h]
  have hwhole : ' ' ∉ number.whole.text := number.whole.not_mem rfl
  cases n with
  | zero =>
    have hletters : ' ' ∉ number.letters := fun hc => (ne_of_isUpper (number.isUpper ' ' hc)).1 rfl
    have hnone : ' ' ∉ number.spaced 0 := by
      simp [spaced, hdigits, hletters, hwhole]
    rw [Text.afterLast?_of_not_mem hnone] at ht
    contradiction
  | succ n =>
    have hsplit : number.spaced (n + 1) =
        (number.letters ++ List.replicate n ' ') ++ ' ' :: number.whole.text := by
      simp [spaced, hdigits, List.replicate_succ']
    rw [hsplit, Text.afterLast?_append_cons _ hwhole] at ht
    exact (Option.some.inj ht).symm

/-- Behind the last point or space of a class stands a digit. -/
theorem ClassNumber.afterLast?_spaced (n : Nat) (suffix : Option Suffix) {t : Text}
    (h : t ∈ (Text.afterLast? '.' (number.spaced n ++ suffixText suffix)).or
      (Text.afterLast? ' ' (number.spaced n ++ suffixText suffix))) :
    ∃ d u, t = d :: u ∧ d.isDigit = true := by
  have hsuffix := point_not_mem_suffixText suffix
  cases hfraction : number.fraction with
  | some fraction =>
    rw [number.afterLast?_point hfraction n hsuffix, Option.some_or] at h
    obtain ⟨d, u, hcons, hd⟩ := fraction.exists_cons
    exact ⟨d, u ++ suffixText suffix, by rw [← Option.some.inj h, hcons]; rfl, hd⟩
  | none =>
    have hnone : '.' ∉ number.spaced n ++ suffixText suffix := by
      simp [number.point_not_mem_spaced hfraction n, hsuffix]
    rw [Text.afterLast?_of_not_mem hnone, Option.none_or] at h
    cases suffix with
    | some suffix =>
      rw [suffixText, Option.map_some, Option.getD_some, suffix.afterLast?_append] at h
      exact Option.some.inj h ▸ suffix.exists_cons
    | none =>
      have hspace : t ∈ Text.afterLast? ' ' (number.spaced n) := by
        simpa [suffixText] using h
      exact number.mem_afterLast?_space hfraction n hspace ▸ number.whole.exists_cons

/-- A class number with or without a suffix has no cutter. -/
theorem ClassNumber.leadingCutter?_spaced (n : Nat) (suffix : Option Suffix) :
    leadingCutter? (number.spaced n ++ suffixText suffix) = none := by
  have hfirst : firstCutter? (number.spaced n ++ suffixText suffix) = none := by
    rw [Option.eq_none_iff_forall_ne_some]
    intro span hspan
    have hjoints := (behind_of_firstCutter? hspan).2.joints_le
    rw [number.joints_spaced, joints_suffixText] at hjoints
    split at hjoints <;> omega
  have hmakeshift : makeshiftCutter? (number.spaced n ++ suffixText suffix) = none :=
    makeshiftCutter?_eq_none fun t ht => number.afterLast?_spaced n suffix ht
  rw [leadingCutter?, hfirst, hmakeshift]
  rfl

end Class

/-! ## Class number and suffix -/

/-- In front of the first cutter stand the class number and its suffix. -/
theorem classRegion_spaced (number : ClassNumber) (n : Nat) (suffix : Option Suffix) (gap : Gap)
    (t rest : Text) :
    classRegion (number.spaced n ++ (suffixText suffix ++ (gap.text ++ t))) (some ⟨t, rest⟩) =
      number.spaced n ++ suffixText suffix := by
  have hends : Text.EndsWithDigit (number.spaced n) :=
    (number.digits_ends.append _).append number.letters
  have hlast : ∀ c ∈ (number.spaced n ++ suffixText suffix).getLast?,
      Character.isBlank c = false ∧ c ≠ '.' := by
    intro c hc
    cases suffix with
    | none =>
      have hdigit : c.isDigit = true := hends.isDigit c (by simpa [suffixText] using hc)
      refine ⟨Character.isBlank_of_isDigit hdigit, ?_⟩
      rintro rfl
      contradiction
    | some suffix =>
      rw [suffixText, Option.map_some, Option.getD_some, Suffix.text, ← List.append_assoc,
        List.getLast?_append_of_ne_nil _ suffix.word_ne_nil] at hc
      obtain ⟨-, hblank, -, hpoint⟩ :=
        isWordChar_of_capitalOrDigit (suffix.capitalOrDigit c (List.mem_of_getLast? hc))
      exact ⟨hblank, hpoint⟩
  rw [← List.append_assoc]
  refine classRegion_gap ?_ (fun c hc => ?_) hlast gap t rest
  · simp [ClassNumber.spaced, number.ne_nil]
  · exact Character.isBlank_of_isUpper (number.head_spaced n _ c hc)

/-- A class with a suffix reads as the class number and the suffix. -/
theorem classDigits?_suffixText (number : ClassNumber) (n : Nat) (suffix : Option Suffix) :
    classDigits? (number.spaced n ++ suffixText suffix) = some number.digits := by
  refine number.classDigits?_spaced n ?_
  cases suffix with
  | none => simp [suffixText]
  | some suffix =>
    obtain ⟨m, hm⟩ := suffix.exists_text []
    rw [List.append_nil] at hm
    rw [suffixText, Option.map_some, Option.getD_some, hm]
    exact fun c hc => Option.some.inj hc ▸ rfl

/-- The class letters stand in front of all else. -/
theorem ClassNumber.takeWhile_spaced (number : ClassNumber) (n : Nat) (t : Text) :
    (number.spaced n ++ t).takeWhile Char.isUpper = number.letters := by
  rw [spaced, List.append_assoc]
  refine (Text.takeWhile_run number.isUpper fun c hc => ?_).1
  cases n with
  | zero =>
    obtain ⟨d, s, hcons, hd⟩ := number.exists_cons
    rw [hcons] at hc
    exact Option.some.inj hc ▸ Character.isUpper_of_isDigit hd
  | succ n => exact Option.some.inj hc ▸ rfl

/-- A class without cutters reads as class number and suffix. -/
theorem ofUpper_suffixText (number : ClassNumber) (n : Nat) (suffix : Option Suffix) :
    ofUpper (number.spaced n ++ suffixText suffix) =
      { letters := number.letters
        classDigits := some number.digits
        classSuffix := suffix.map Suffix.word
        firstCutter := none
        firstCutterSuffix := none
        secondCutter := none
        secondCutterSuffix := none } := by
  simp only [ofUpper, leadingLetters, number.takeWhile_spaced, number.leadingCutter?_spaced,
    classRegion, classDigits?_suffixText, number.behindFirst?_spaced, Option.bind_some,
    Option.bind_none, Option.map_none, nonempty?_trim_suffixText]

end Lc
end CallNumber
end Shelfmark
