import Shelfmark.Proofs.CallNumber.ClassShape
import Shelfmark.Proofs.Entry.Written

/-!
# Entries - Recognised schemes

What tells the scheme of a call number stands at its front: a class number of the Library of
Congress, or a digit.  Neither the normal spelling nor cleaning reaches into it, but for the
spaces behind class letters, which do not count.  So an entry keeps a scheme that its call number
was recognised by.

Main results:

- Theorem `normalSpelling_spaced`: the normal spelling begins with the same class number.
- Theorem `cleaned_spaced`: so does a cleaned entry, with a space behind the letters at most.
- Theorems `scheme_ofText` and `scheme_cleaned`: a recognised scheme is kept.
-/

namespace Shelfmark

namespace Scheme

open Text (IsTrimmed)

/-- A call number is recognised as a Library of Congress number by its shape. -/
theorem detect_eq_lc_iff {raw : Text} : detect raw = .lc ↔ isLc raw = true := by
  unfold detect
  cases isLc raw with
  | true => exact iff_of_true rfl rfl
  | false => cases isDewey raw <;> simp

/-- What is recognised as a Dewey number begins with a digit. -/
theorem exists_digit_of_detect {raw : Text} (h : detect raw = .dewey) :
    ∃ d s, raw.trim = d :: s ∧ d.isDigit = true := by
  have hdewey : isDewey raw = true := by
    unfold detect at h
    cases hlc : isLc raw <;> cases hdigit : isDewey raw <;> simp_all
  unfold isDewey startsWithDigit at hdewey
  obtain ⟨d, hhead, hdigit⟩ := (Option.any_eq_true _ _).mp hdewey
  obtain ⟨s, hs⟩ := List.head?_eq_some_iff.mp hhead
  exact ⟨d, s, hs, hdigit⟩

/-- What begins with a digit is recognised as a Dewey number. -/
theorem detect_of_digit {s t : Text} {d : Char} (hs : IsTrimmed s) (htext : s = d :: t)
    (hd : d.isDigit = true) : detect s = .dewey := by
  have hlc : isLc s = false := by
    have hinitial : isLcInitial d = false := by simp [isLcInitial, isAlpha_of_isDigit hd]
    unfold isLc
    rw [hs.trim_eq, htext]
    dsimp only
    rw [hinitial, Bool.false_and]
  have hdewey : isDewey s = true := by
    unfold isDewey startsWithDigit
    rw [hs.trim_eq, htext]
    exact hd
  rw [detect, hlc, hdewey]
  rfl

end Scheme

namespace Entry

open Character (isBlank)
open CallNumber.Lc (ClassNumber)
open Text (InCapitals IsTrimmed)

/-! ## The normal spelling -/

/-- A class number at the front has its gap closed. -/
theorem normalSpelling_spaced {raw t : Text} {number : ClassNumber} {n : Nat}
    (h : raw.trim.upper = number.spaced n ++ t) :
    normalSpelling raw = number.text ++ settle t := by
  have hnormal : normalSpelling raw = closeClassGap (settle raw.trim.upper) := rfl
  rw [hnormal, h, settle_spaced, closeClassGap_spaced]

/-- A digit at the front stays. -/
theorem settle_digit {d : Char} (hd : d.isDigit = true) (t : Text) :
    settle (d :: t) = d :: settle t := by
  have hblank : ∀ c ∈ [d], isBlank c = false := fun c hc =>
    List.mem_singleton.mp hc ▸ Character.isBlank_of_isDigit hd
  refine settle_append hblank (fun hpoint => ?_) t
  obtain rfl : d = '.' := by simpa using hpoint
  contradiction

/-- A digit at the front of a call number stays. -/
theorem normalSpelling_digit {raw s : Text} {d : Char} (h : raw.trim = d :: s)
    (hd : d.isDigit = true) : normalSpelling raw = d :: settle s.upper := by
  have hupper : raw.trim.upper = d :: s.upper := by
    rw [h, Text.upper, List.flatMap_cons, Character.upper_of_isDigit hd]
    rfl
  have hnormal : normalSpelling raw = closeClassGap (settle raw.trim.upper) := rfl
  rw [hnormal, hupper, settle_digit hd]
  refine closeClassGap_eq_self ?_
  rw [List.dropWhile_cons_of_neg (by simp [Character.isUpper_of_isDigit hd])]
  rintro hspace
  obtain rfl : d = ' ' := Option.some.inj hspace
  contradiction

/-- A call number that is recognised keeps its scheme when it becomes an entry. -/
theorem scheme_ofText (tag : Option Text) {raw : Text} (h : Scheme.detect raw ≠ .unknown) :
    (ofText tag raw).scheme = Scheme.detect raw := by
  have htrimmed := isTrimmed_normalSpelling raw
  change Scheme.detect (normalSpelling raw) = Scheme.detect raw
  cases hscheme : Scheme.detect raw with
  | lc =>
    have hlc := Scheme.detect_eq_lc_iff.mp hscheme
    obtain ⟨number, n, t, htext, hinitial⟩ := Scheme.exists_spaced_of_isLc hlc
    rw [Scheme.detect_eq_lc_iff,
      Scheme.isLc_spaced number 0 htrimmed (normalSpelling_spaced htext)]
    exact hinitial
  | dewey =>
    obtain ⟨d, s, htext, hd⟩ := Scheme.exists_digit_of_detect hscheme
    exact Scheme.detect_of_digit htrimmed (normalSpelling_digit htext hd) hd
  | unknown => exact absurd hscheme h

/-! ## Cleaning -/

/-- A text with spaces in the place of all but letters, digits and periods. -/
def plainText (s : Text) : Text :=
  s.map fun c => if isPlain c then c else ' '

/-- Capitals are plain. -/
theorem isPlain_of_isUpper {c : Char} (h : c.isUpper = true) : isPlain c = true := by
  simp [isPlain, Char.isAlphanum, Scheme.isAlpha_of_isUpper h]

/-- Digits are plain. -/
theorem isPlain_of_isDigit {c : Char} (h : c.isDigit = true) : isPlain c = true := by
  simp [isPlain, Char.isAlphanum, h]

/-- The value of a cleaned entry is a plain text with its blanks in order. -/
theorem value_cleaned (entry : Entry) :
    entry.cleaned.value = (settle (plainText entry.value.trim)).trim :=
  rfl

/-- A class number is plain. -/
theorem plainText_spaced (number : ClassNumber) (n : Nat) (t : Text) :
    plainText (number.spaced n ++ t) = number.spaced n ++ plainText t := by
  have hself : ∀ c ∈ number.spaced n, (if isPlain c then c else ' ') = c := by
    intro c hc
    rcases List.mem_append.mp hc with hletter | hc
    · exact if_pos (isPlain_of_isUpper (number.isUpper c hletter))
    · rcases List.mem_append.mp hc with hspace | hc
      · rw [(List.mem_replicate.mp hspace).2]
        exact ite_self ' '
      · rcases number.isDecimal.digit_or_point c hc with hdigit | rfl
        · exact if_pos (isPlain_of_isDigit hdigit)
        · rfl
  rw [plainText, List.map_append, List.map_congr_left hself, List.map_id', plainText]

/-- A class number at the front of an entry stays when the entry is cleaned, with one space
behind its letters at most. -/
theorem cleaned_spaced {entry : Entry} {number : ClassNumber} {n : Nat} {t : Text}
    (htrimmed : IsTrimmed entry.value) (htext : entry.value = number.spaced n ++ t) :
    entry.cleaned.value = number.spaced (min n 1) ++ (settle (plainText t)).trimEnd := by
  have hends := ((number.digits_ends.append (List.replicate (min n 1) ' ')).append number.letters)
  rw [value_cleaned, htrimmed.trim_eq, htext, plainText_spaced, settle_spaced]
  refine Text.trim_append ?_ (fun c hc => ?_) (fun c hc => ?_) _
  · simp [ClassNumber.spaced, number.ne_nil]
  · exact Character.isBlank_of_isUpper (number.head_spaced _ [] c (by rwa [List.append_nil]))
  · exact Character.isBlank_of_isDigit (hends.isDigit c hc)

/-- A digit at the front of an entry stays when the entry is cleaned. -/
theorem cleaned_digit {entry : Entry} {d : Char} {t : Text} (htrimmed : IsTrimmed entry.value)
    (htext : entry.value = d :: t) (hd : d.isDigit = true) :
    entry.cleaned.value = d :: (settle (plainText t)).trimEnd := by
  have hblank : ∀ c ∈ some d, isBlank c = false := fun c hc =>
    Option.some.inj hc ▸ Character.isBlank_of_isDigit hd
  have hplain : plainText (d :: t) = d :: plainText t := by
    simp [plainText, isPlain_of_isDigit hd]
  rw [value_cleaned, htrimmed.trim_eq, htext, hplain, settle_digit hd]
  exact Text.trim_append (List.cons_ne_nil d []) hblank hblank _

/-- An entry in its normal spelling keeps a recognised scheme when it is cleaned. -/
theorem scheme_cleaned {entry : Entry} (htrimmed : IsTrimmed entry.value)
    (hcapitals : InCapitals entry.value) (h : entry.scheme ≠ .unknown) :
    entry.cleaned.scheme = entry.scheme := by
  have hclean : IsTrimmed entry.cleaned.value := Text.isTrimmed_trim _
  have hupper : entry.value.trim.upper = entry.value := by
    rw [htrimmed.trim_eq, hcapitals.upper_eq]
  change Scheme.detect entry.value ≠ .unknown at h
  change Scheme.detect entry.cleaned.value = Scheme.detect entry.value
  cases hscheme : Scheme.detect entry.value with
  | lc =>
    have hlc := Scheme.detect_eq_lc_iff.mp hscheme
    obtain ⟨number, n, t, htext, hinitial⟩ := Scheme.exists_spaced_of_isLc hlc
    rw [hupper] at htext
    rw [Scheme.detect_eq_lc_iff,
      Scheme.isLc_spaced number _ hclean (cleaned_spaced htrimmed htext)]
    exact hinitial
  | dewey =>
    obtain ⟨d, s, htext, hd⟩ := Scheme.exists_digit_of_detect hscheme
    rw [htrimmed.trim_eq] at htext
    exact Scheme.detect_of_digit hclean (cleaned_digit htrimmed htext hd) hd
  | unknown => exact absurd hscheme h

/-- An entry made from a text keeps a recognised scheme when it is cleaned. -/
theorem scheme_cleaned_ofText (tag : Option Text) {raw : Text}
    (h : (ofText tag raw).scheme ≠ .unknown) :
    (ofText tag raw).cleaned.scheme = (ofText tag raw).scheme :=
  scheme_cleaned (isTrimmed_normalSpelling raw) (inCapitals_normalSpelling raw) h

end Entry
end Shelfmark
