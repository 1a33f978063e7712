import Shelfmark.Proofs.CallNumber.ClassShape
import Shelfmark.Proofs.CallNumber.Lc.Opening
import Shelfmark.Proofs.ShelfKey.Component
import Shelfmark.ShelfKey.Basic

/-!
# Shelf keys - The columns of the class

The beginning that tells a Library of Congress number is the class that is read from it, and with
this class its shelf key begins.  Nothing that follows the class number in the call number
changes these columns: the class number in a key ends with a digit, so that none of it is
trimmed.

Main results:

- Theorem `endsWithDigit_render`: a number of fixed width ends with a digit.
- Theorem `prefix_of_lc?`: a key begins with class letters and class number.
- Theorem `class_as_told`: class letters and number are those that the scheme is told by.
-/

namespace Shelfmark
namespace ShelfKey

open CallNumber (Lc)
open CallNumber.Lc (ClassNumber)
open Number (roundHalfEven unitsPerOne)
open Text (EndsWithDigit)

/-! ## The class in a key -/

/-- A number of fixed width ends with a digit. -/
theorem endsWithDigit_render {before : Nat} (hbefore : 0 < before) (places : Nat) (negative : Bool)
    (units : Nat) : EndsWithDigit (Width.render ⟨before, places⟩ negative units) := by
  have hends := endsWithDigit_fixed hbefore places (roundHalfEven (units * 10 ^ places) unitsPerOne)
  rcases render_eq_or ⟨before, places⟩ negative units with hunsigned | ⟨-, hsigned⟩
  · rwa [hunsigned, render_eq_fixed hbefore]
  · rw [hsigned, render_eq_fixed hbefore]
    exact hends.cons '-'

/-- A class number in a key ends with a digit. -/
theorem endsWithDigit_number {value classNumber : Text}
    (h : number value lcClassWidth = .ok classNumber) : EndsWithDigit classNumber := by
  unfold number at h
  split at h
  · obtain rfl := Except.ok.inj h
    exact endsWithDigit_render (Nat.succ_pos 3) 6 _ _
  · contradiction
  · contradiction

/-- A computation of two steps succeeds where both steps do. -/
theorem bind_eq_ok {ε α β : Type} {first : Except ε α} {next : α → Except ε β} {b : β}
    (h : first >>= next = .ok b) : ∃ a, first = .ok a ∧ next a = .ok b := by
  cases first with
  | error e => contradiction
  | ok a => exact ⟨a, rfl, h⟩

/-- A key consists of class letters, class number and other components, trimmed. -/
theorem exists_of_lc? {raw key : Text} (h : lc? raw = .ok key) :
    ∃ classNumber components : Text,
      number ((Lc.parse raw).classDigits.getD ['0']) lcClassWidth = .ok classNumber ∧
        key = Text.trim ((Lc.parse raw).letters.padEnd letterColumns ++ classNumber ++
          components) := by
  obtain ⟨classNumber, hnumber, h⟩ := bind_eq_ok h
  obtain ⟨components, -, h⟩ := bind_eq_ok h
  exact ⟨classNumber, components.flatMap (' ' :: ·), hnumber, (Except.ok.inj h).symm⟩

/-- The key of a call number with class letters and number begins with the columns of both. -/
theorem prefix_of_lc? {raw key digits : Text} (hletters : (Lc.parse raw).letters ≠ [])
    (hdigits : (Lc.parse raw).classDigits = some digits) (hkey : lc? raw = .ok key) :
    ∃ classNumber, number digits lcClassWidth = .ok classNumber ∧
      (Lc.parse raw).letters.padEnd letterColumns ++ classNumber <+: key := by
  obtain ⟨classNumber, components, hnumber, rfl⟩ := exists_of_lc? hkey
  rw [hdigits, Option.getD_some] at hnumber
  have hends := (endsWithDigit_number hnumber).append
    ((Lc.parse raw).letters.padEnd letterColumns)
  have hhead : ∀ c ∈ ((Lc.parse raw).letters.padEnd letterColumns ++ classNumber).head?,
      Character.isBlank c = false := by
    intro c hc
    obtain ⟨letter, rest, hcons⟩ := List.exists_cons_of_ne_nil hletters
    have hletter : letter ∈ (Lc.parse raw).letters := hcons ▸ List.mem_cons_self
    have hupper : letter.isUpper = true := List.all_eq_true.mp List.all_takeWhile letter hletter
    rw [hcons] at hc
    exact Option.some.inj hc ▸ Character.isBlank_of_isUpper hupper
  have hne : (Lc.parse raw).letters.padEnd letterColumns ++ classNumber ≠ [] :=
    List.append_ne_nil_of_left_ne_nil (List.append_ne_nil_of_left_ne_nil hletters _) _
  refine ⟨classNumber, hnumber, ?_⟩
  rw [Text.trim_append hne hhead fun c hc => Character.isBlank_of_isDigit (hends.isDigit c hc)]
  exact List.prefix_append _ _

/-! ## The class that the scheme is told by -/

/-- Class letters and number of a Library of Congress number are those that its scheme is told
by, whatever follows them: the letters are the same ones in capitals, and the class number begins
with the same number.  If the call number has a key, that begins with the letters in their columns
and the class number at its width. -/
theorem class_as_told (raw : Text) (h : Scheme.isLc raw = true) :
    ∃ shape digits rest, Scheme.classShape? raw = some shape ∧
      raw.trim = shape.letters ++ (shape.spaces ++ (shape.number ++ rest)) ∧
      (Lc.parse raw).letters = shape.letters.upper ∧
      (Lc.parse raw).classDigits = some digits ∧
      shape.number <+: digits ∧
      ∀ key, lc? raw = .ok key → ∃ classNumber, number digits lcClassWidth = .ok classNumber ∧
        shape.letters.upper.padEnd letterColumns ++ classNumber <+: key := by
  obtain ⟨shape, hshape⟩ := Option.isSome_iff_exists.mp ((Scheme.isSome_classShape? raw).trans h)
  obtain ⟨classNumber, rest, htext, hletters, hspaces, hnumber, -⟩ :=
    Scheme.exists_of_classShape? hshape
  have hupper := Scheme.upper_of_classShape? htext hletters hspaces hnumber
  obtain ⟨hread, u, hdigits⟩ :=
    CallNumber.Lc.ofUpper_opening classNumber shape.spaces.length rest.upper
  rw [← hupper] at hread hdigits
  change (Lc.parse raw).letters = _ at hread
  change (Lc.parse raw).classDigits = _ at hdigits
  refine ⟨shape, _, rest, hshape, htext, hread.trans hletters.symm, hdigits, ?_, ?_⟩
  · rw [hnumber]
    exact List.prefix_append _ u
  · intro key hkey
    rw [hletters, ← hread]
    exact prefix_of_lc? (by rw [hread]; exact classNumber.ne_nil) hdigits hkey

/-- A call number in small letters, with spaces behind the class letters and its only cutter
behind a word. -/
theorem class_as_told_spaced :
    Scheme.isLc " ps  3511.5x .a3".toList = true ∧
      ∃ shape digits rest, Scheme.classShape? " ps  3511.5x .a3".toList = some shape ∧
        Text.trim " ps  3511.5x .a3".toList =
          shape.letters ++ (shape.spaces ++ (shape.number ++ rest)) ∧
        (Lc.parse " ps  3511.5x .a3".toList).letters = shape.letters.upper ∧
        (Lc.parse " ps  3511.5x .a3".toList).classDigits = some digits ∧
        shape.number <+: digits ∧
        ∀ key, lc? " ps  3511.5x .a3".toList = .ok key →
          ∃ classNumber, number digits lcClassWidth = .ok classNumber ∧
            shape.letters.upper.padEnd letterColumns ++ classNumber <+: key :=
  ⟨by decide +kernel, class_as_told " ps  3511.5x .a3".toList (by decide +kernel)⟩

end ShelfKey
end Shelfmark
