import Shelfmark.CallNumber.Dewey
import Shelfmark.CallNumber.Scheme
import Shelfmark.Proofs.CallNumber.Lc.Printed

/-!
# Call numbers - Reading a Dewey number

The class number of a Dewey number is a plain decimal below one thousand, and neither the
cutter nor the text behind it ends with a blank.

Main results:

- Theorem `isClass_takeClass`: a class number is a plain decimal with one to three digits in front
  of the point.
- Theorems `exists_parse?_of_isDewey` and `detect_of_parse?`: what reads as a Dewey number is one
  by its shape.
- Theorems `getLast?_cutter_of_parse?` and `getLast?_cutterSuffix_of_parse?`: the parts
  behind the class number end with a character that is no blank.
-/

namespace Shelfmark

namespace CallNumber
namespace Dewey

open Lc (Digits)
open Number (IsDecimal decimalText)

/-! ## The class number -/

/-- No more digits are taken than asked for, and nothing but digits. -/
theorem takeDigits_spec (n : Nat) (s : Text) :
    (∀ c ∈ takeDigits n s, c.isDigit) ∧ (takeDigits n s).length ≤ n := by
  induction n generalizing s with
  | zero => simp [takeDigits]
  | succ n ih =>
    cases s with
    | nil => simp [takeDigits]
    | cons c s =>
      rw [takeDigits]
      split
      · rename_i hc
        obtain ⟨hdigits, hlength⟩ := ih s
        exact ⟨List.forall_mem_cons.mpr ⟨hc, hdigits⟩, Nat.succ_le_succ hlength⟩
      · simp

/-- A fraction is a point and digits, at least one, or nothing. -/
theorem takeFraction_spec (s : Text) :
    takeFraction s = [] ∨
      ∃ digits, takeFraction s = '.' :: digits ∧ digits ≠ [] ∧ ∀ c ∈ digits, c.isDigit := by
  unfold takeFraction
  split
  · dsimp only
    split
    · exact Or.inl rfl
    · rename_i hne
      exact Or.inr ⟨_, rfl, by simpa using hne, fun c hc =>
        List.all_eq_true.mp List.all_takeWhile c hc⟩
  · exact Or.inl rfl

/-- The shape of a class number: one to three digits, and perhaps a point and digits. -/
def IsClass (s : Text) : Prop :=
  ∃ (whole : Digits) (fraction : Option Digits),
    whole.text.length ≤ 3 ∧ s = decimalText whole.text (fraction.map Digits.text)

/-- A class number is taken from a text exactly if that begins with a digit. -/
theorem takeClass_ne_nil_iff {s : Text} : takeClass s ≠ [] ↔ Scheme.startsWithDigit s = true := by
  cases s with
  | nil => simp [takeClass, takeDigits, Scheme.startsWithDigit]
  | cons c s =>
    cases hdigit : c.isDigit <;>
      simp [takeClass, takeDigits, Scheme.startsWithDigit, hdigit]

/-- A class number is its whole part and its fraction. -/
theorem takeClass_eq_append {s : Text} (h : takeDigits 3 s ≠ []) :
    takeClass s = takeDigits 3 s ++ takeFraction (s.drop (takeDigits 3 s).length) := by
  have hempty : (takeDigits 3 s).isEmpty = false := by simpa using h
  simp [takeClass, hempty]

/-- What is taken as a class number has the shape of one. -/
theorem isClass_takeClass {s : Text} (h : takeClass s ≠ []) : IsClass (takeClass s) := by
  obtain ⟨hwhole, hlength⟩ := takeDigits_spec 3 s
  have hne : takeDigits 3 s ≠ [] := by
    intro hnil
    simp [takeClass, hnil] at h
  rw [takeClass_eq_append hne]
  rcases takeFraction_spec (s.drop (takeDigits 3 s).length) with
    hnone | ⟨digits, hsome, hdigits, hall⟩
  · refine ⟨⟨takeDigits 3 s, hwhole, hne⟩, none, hlength, ?_⟩
    rw [hnone, List.append_nil]
    rfl
  · refine ⟨⟨takeDigits 3 s, hwhole, hne⟩, some ⟨digits, hall, hdigits⟩, hlength, ?_⟩
    rw [hsome]
    rfl

/-! ## The parts -/

/-- Reading a call number that begins with a class number. -/
theorem parse?_eq {raw : Text} (h : takeClass raw.trim ≠ []) :
    parse? raw = some
      ⟨takeClass raw.trim, (cutter? (raw.trim.drop (takeClass raw.trim).length)).map Prod.fst,
        (cutter? (raw.trim.drop (takeClass raw.trim).length)).bind fun found =>
          found.2.trim.nonempty?⟩ := by
  have hempty : ¬ (takeClass raw.trim).isEmpty = true := by simpa using h
  unfold parse?
  dsimp only
  rw [if_neg hempty]
  cases cutter? (raw.trim.drop (takeClass raw.trim).length) <;> rfl

/-- What has the shape of a Dewey number reads as one. -/
theorem exists_parse?_of_isDewey {raw : Text} (h : Scheme.isDewey raw = true) :
    ∃ parts, parse? raw = some parts :=
  ⟨_, parse?_eq (takeClass_ne_nil_iff.mpr h)⟩

section Parts

variable {raw : Text} {parts : Dewey} (h : parse? raw = some parts)

include h

/-- The class number is what the call number begins with. -/
theorem classDigits_of_parse? :
    takeClass raw.trim ≠ [] ∧ parts.classDigits = takeClass raw.trim := by
  unfold parse? at h
  dsimp only at h
  split at h
  · contradiction
  · rename_i hempty
    have hne : takeClass raw.trim ≠ [] := by simpa using hempty
    split at h
    · exact ⟨hne, (Option.some.inj h) ▸ rfl⟩
    · exact ⟨hne, (Option.some.inj h) ▸ rfl⟩

/-- The class number is a plain decimal with at most three digits in front of the point. -/
theorem isDecimal_of_parse? : ∃ whole fraction, IsDecimal whole fraction ∧ whole.length ≤ 3 ∧
    parts.classDigits = decimalText whole fraction := by
  obtain ⟨hne, hclass⟩ := classDigits_of_parse? h
  obtain ⟨whole, fraction, hlength, htext⟩ := isClass_takeClass hne
  exact ⟨_, _, whole.isDecimal fraction, hlength, hclass.trans htext⟩

/-- A cutter does not end with a blank. -/
theorem getLast?_cutter_of_parse? :
    ∀ cutter ∈ parts.cutter, ∃ c ∈ cutter.getLast?, Character.isBlank c = false := by
  intro cutter hcutter
  unfold parse? at h
  dsimp only at h
  split at h
  · contradiction
  · split at h
    · rename_i text rest hfound
      obtain rfl := Option.some.inj h
      obtain rfl := Option.some.inj hcutter
      unfold cutter? at hfound
      split at hfound
      · contradiction
      · rename_i letter s _
        dsimp only at hfound
        split at hfound
        · rename_i hshape
          have hupper : letter.isUpper = true := (Bool.and_eq_true_iff.mp hshape).1
          obtain ⟨rfl, -⟩ := Prod.mk.inj (Option.some.inj hfound)
          exact Text.getLast?_trimEnd ⟨letter, by simp, Character.isBlank_of_isUpper hupper⟩
        · contradiction
    · obtain rfl := Option.some.inj h
      contradiction

/-- The text behind a cutter does not end with a blank. -/
theorem getLast?_cutterSuffix_of_parse? :
    ∀ suffix ∈ parts.cutterSuffix, ∃ c ∈ suffix.getLast?, Character.isBlank c = false := by
  intro suffix hsuffix
  unfold parse? at h
  dsimp only at h
  split at h
  · contradiction
  · split at h
    · obtain rfl := Option.some.inj h
      obtain ⟨rfl, hne⟩ := Text.ne_nil_of_nonempty? hsuffix
      exact Text.getLast?_trim hne
    · obtain rfl := Option.some.inj h
      contradiction

/-- What reads as a Dewey number has the shape of one. -/
theorem detect_of_parse? : Scheme.detect raw = .dewey := by
  have hdewey : Scheme.isDewey raw = true := takeClass_ne_nil_iff.mp (classDigits_of_parse? h).1
  obtain ⟨c, hhead, hdigit⟩ := (Option.any_eq_true _ _).mp hdewey
  obtain ⟨s, htrim⟩ := List.head?_eq_some_iff.mp hhead
  have hrange := Character.isDigit_iff.mp hdigit
  have hletter : c.isAlpha = false :=
    Bool.or_eq_false_iff.mpr ⟨Character.isUpper_of_isDigit hdigit,
      Character.isLower_eq_false (by omega)⟩
  have hinitial : Scheme.isLcInitial c = false := by
    simp [Scheme.isLcInitial, hletter]
  have hlc : Scheme.isLc raw = false := by
    simp [Scheme.isLc, htrim, hinitial]
  simp [Scheme.detect, hlc, hdewey]

end Parts

end Dewey
end CallNumber
end Shelfmark
