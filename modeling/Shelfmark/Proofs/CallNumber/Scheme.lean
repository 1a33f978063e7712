import Shelfmark.CallNumber.Scheme
import Shelfmark.Proofs.CallNumber.Lc.Class
import Shelfmark.Proofs.Character.Upper

/-!
# Call numbers - Schemes in capitals

The shape of a call number does not depend on its case: class letters are ASCII letters, and
these stay class letters as capitals.  Nor does it depend on what follows the class number.

Main results:

- Theorem `isLc_upper`: a Library of Congress number is one in capitals.
- Theorem `isLc_spaced`: among texts that begin with a class number, the first letter decides.
- Theorem `detect_eq_lc`: a call number of a known scheme that begins with a capital is a
  Library of Congress number.
-/

namespace Shelfmark
namespace Scheme

open Text (IsTrimmed)
open CallNumber.Lc (ClassNumber)

/-! ## Letters in capitals -/

/-- An ASCII capital is its own capital form. -/
theorem toUpper_of_isUpper {c : Char} (h : c.isUpper) :
    c.toUpper = c ∧ Character.upper c = [c] := by
  have hrange := Character.isUpper_iff.mp h
  have hlower : c.isLower = false := Character.isLower_eq_false (by omega)
  exact ⟨Character.toUpper_eq_self hlower, Character.upper_eq_self (by omega) hlower⟩

/-- The capital form of an ASCII letter is one capital. -/
theorem upper_of_isAlpha {c : Char} (h : c.isAlpha) :
    Character.upper c = [c.toUpper] ∧ c.toUpper.isUpper = true := by
  rcases Bool.or_eq_true_iff.mp h with hupper | hlower
  · obtain ⟨hself, hform⟩ := toUpper_of_isUpper hupper
    rw [hself]
    exact ⟨hform, hupper⟩
  · have hrange := Character.isLower_iff.mp hlower
    exact ⟨if_pos (by omega), Character.isUpper_toUpper hlower⟩

/-- A capital is a letter. -/
theorem isAlpha_of_isUpper {c : Char} (h : c.isUpper) : c.isAlpha = true :=
  Bool.or_eq_true_iff.mpr (Or.inl h)

/-- A digit is no letter. -/
theorem isAlpha_of_isDigit {c : Char} (h : c.isDigit) : c.isAlpha = false := by
  have hrange := Character.isDigit_iff.mp h
  exact Bool.or_eq_false_iff.mpr ⟨Character.isUpper_of_isDigit h,
    Character.isLower_eq_false (by omega)⟩

/-- An initial is one as a capital. -/
theorem isLcInitial_toUpper {c : Char} (h : isLcInitial c) : isLcInitial c.toUpper = true := by
  obtain ⟨halpha, hused⟩ := Bool.and_eq_true_iff.mp h
  have hupper := (upper_of_isAlpha halpha).2
  unfold isLcInitial
  rw [isAlpha_of_isUpper hupper, (toUpper_of_isUpper hupper).1, hused]
  rfl

/-! ## The shape in capitals -/

/-- A text that begins with spaces and a digit begins so in capitals. -/
theorem startsWithDigit_upper {s : Text} (h : startsWithDigit (s.dropWhile (· == ' '))) :
    startsWithDigit (s.upper.dropWhile (· == ' ')) = true := by
  induction s with
  | nil => contradiction
  | cons c s ih =>
    by_cases hspace : c = ' '
    · subst hspace
      exact ih h
    · rw [List.dropWhile_cons_of_neg (by simpa using hspace)] at h
      have hdigit : c.isDigit = true := h
      rw [Text.upper, List.flatMap_cons, Character.upper_of_isDigit hdigit, List.singleton_append,
        List.dropWhile_cons_of_neg (by simpa using hspace)]
      exact hdigit

/-- Letters in front of spaces and a digit are dropped in capitals as well. -/
theorem startsWithDigit_dropLetters_upper {n : Nat} {s : Text}
    (h : startsWithDigit ((dropLetters n s).dropWhile (· == ' '))) :
    startsWithDigit ((dropLetters n s.upper).dropWhile (· == ' ')) = true := by
  induction n generalizing s with
  | zero => exact startsWithDigit_upper h
  | succ n ih =>
    cases s with
    | nil => contradiction
    | cons c s =>
      cases halpha : c.isAlpha with
      | true =>
        obtain ⟨hform, hupper⟩ := upper_of_isAlpha halpha
        have hletters : dropLetters (n + 1) (c :: s) = dropLetters n s := if_pos halpha
        rw [hletters] at h
        rw [Text.upper, List.flatMap_cons, hform, List.singleton_append, dropLetters,
          if_pos (isAlpha_of_isUpper hupper)]
        exact ih h
      | false =>
        have hletters : dropLetters (n + 1) (c :: s) = c :: s := if_neg (by simp [halpha])
        rw [hletters] at h
        -- Here stands a space or a digit, and both are their own capital forms.
        have hself : Character.upper c = [c] := by
          by_cases hspace : c = ' '
          · exact hspace ▸ Character.upper_eq_self (by decide) rfl
          · rw [List.dropWhile_cons_of_neg (by simpa using hspace)] at h
            exact Character.upper_of_isDigit h
        have hupper : Text.upper (c :: s) = c :: Text.upper s := by
          rw [Text.upper, List.flatMap_cons, hself]
          rfl
        have hstart := startsWithDigit_upper h
        rw [hupper] at hstart ⊢
        rwa [dropLetters, if_neg (by simp [halpha])]

/-- A Library of Congress number is one in capitals. -/
theorem isLc_upper {raw : Text} (h : isLc raw) : isLc raw.trim.upper = true := by
  have htrim : raw.trim.upper.trim = raw.trim.upper := (Text.isTrimmed_trim raw).upper.trim_eq
  unfold isLc at h ⊢
  rw [htrim]
  cases hraw : raw.trim with
  | nil =>
    rw [hraw] at h
    contradiction
  | cons c s =>
    rw [hraw] at h
    obtain ⟨hinitial, hdigit⟩ := Bool.and_eq_true_iff.mp h
    have hform := (upper_of_isAlpha (Bool.and_eq_true_iff.mp hinitial).1).1
    rw [Text.upper, List.flatMap_cons, hform, List.singleton_append]
    exact Bool.and_eq_true_iff.mpr
      ⟨isLcInitial_toUpper hinitial, startsWithDigit_dropLetters_upper hdigit⟩

/-! ## Class numbers -/

/-- Class letters are dropped, up to spaces and the digits. -/
theorem dropLetters_letters {n : Nat} {letters : Text} (h : ∀ c ∈ letters, c.isUpper)
    (hlength : letters.length ≤ n) {s : Text} (hs : ∀ c ∈ s.head?, c.isAlpha = false) :
    dropLetters n (letters ++ s) = s := by
  induction letters generalizing n with
  | nil =>
    cases n with
    | zero => rfl
    | succ n =>
      cases s with
      | nil => rfl
      | cons c s => exact if_neg (by simp [hs c rfl])
  | cons c letters ih =>
    cases n with
    | zero => contradiction
    | succ n =>
      rw [List.cons_append, dropLetters, if_pos (isAlpha_of_isUpper (h c (by simp)))]
      exact ih (fun d hd => h d (by simp [hd])) (Nat.le_of_succ_le_succ hlength)

/-- Among trimmed texts that begin with class letters, spaces and a class number, the first
letter tells the Library of Congress numbers. -/
theorem isLc_spaced (number : ClassNumber) (n : Nat) {t s : Text} (hs : IsTrimmed s)
    (htext : s = number.spaced n ++ t) : isLc s = number.letters.head?.any isLcInitial := by
  obtain ⟨c, letters, hletters⟩ := List.exists_cons_of_ne_nil number.ne_nil
  obtain ⟨d, u, hdigits, hd⟩ := number.exists_cons
  have hspace : d ≠ ' ' := by
    rintro rfl
    contradiction
  have hdrop : dropLetters 2 (letters ++ (List.replicate n ' ' ++ (number.digits ++ t))) =
      List.replicate n ' ' ++ (number.digits ++ t) := by
    refine dropLetters_letters (fun x hx => number.isUpper x (by simp [hletters, hx])) ?_ ?_
    · have hlength := number.length_le
      rw [hletters, List.length_cons] at hlength
      omega
    · intro x hx
      cases n with
      | zero =>
        rw [hdigits] at hx
        exact Option.some.inj hx ▸ isAlpha_of_isDigit hd
      | succ n => exact Option.some.inj hx ▸ rfl
  have hskip : (List.replicate n ' ' ++ (number.digits ++ t)).dropWhile (· == ' ') =
      number.digits ++ t :=
    CallNumber.Lc.skipSpaces_replicate n fun x hx => by
      rw [hdigits] at hx
      exact Option.some.inj hx ▸ hspace
  have hstart : startsWithDigit (number.digits ++ t) = true := by
    simp [startsWithDigit, hdigits, hd]
  rw [ClassNumber.spaced, hletters, List.cons_append, List.cons_append, List.append_assoc,
    List.append_assoc] at htext
  unfold isLc
  rw [hs.trim_eq, htext, hletters]
  dsimp only
  rw [hdrop, hskip, hstart, Bool.and_true]
  rfl

/-- A call number that begins with a capital is no Dewey number. -/
theorem isDewey_eq_false {raw : Text} (h : ∀ c ∈ raw.trim.upper.head?, c.isUpper = true) :
    isDewey raw = false := by
  unfold isDewey startsWithDigit
  cases htrim : raw.trim with
  | nil => rfl
  | cons c s =>
    rw [List.head?_cons, Option.any_some, Bool.eq_false_iff]
    intro hdigit
    have hhead : raw.trim.upper.head? = some c := by
      rw [htrim, Text.upper, List.flatMap_cons, Character.upper_of_isDigit hdigit]
      rfl
    have hcapital : c.isUpper = true := h c hhead
    rw [Character.isUpper_of_isDigit hdigit] at hcapital
    contradiction

/-- A call number of a known scheme that begins with a capital is a Library of Congress number. -/
theorem detect_eq_lc {raw : Text} (h : detect raw ≠ .unknown)
    (hupper : ∀ c ∈ raw.trim.upper.head?, c.isUpper = true) : isLc raw = true := by
  unfold detect at h
  rw [isDewey_eq_false hupper] at h
  split at h
  · assumption
  · contradiction

end Scheme
end Shelfmark
