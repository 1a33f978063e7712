import Shelfmark.Proofs.CallNumber.Lc.Signs
import Shelfmark.Proofs.ShelfKey.Spelling

/-!
# Shelf keys - Entries that are the same

Entries are the same if they agree up to case, periods and spaces.  Their place on the shelf is
read from the call number with its periods and spaces, so it is not the same for all of them:
a point divides a class number.  But where the same signs are divided in the same way, only
gaps are left to differ, and no part of a call number reaches into a gap.

Main results:

- Theorem `standard_text_of_counted`: written call numbers that are divided alike have the same
  standard spacing if their counted characters agree.
- Theorem `lc_of_same`: entries that are the same and divided alike have the same key.
-/

namespace Shelfmark
namespace ShelfKey

open CallNumber (Lc)
open NaturalOrder (counted)

/-- Values of entries that are divided alike: they are spelled alike, or both are written Library
of Congress numbers with the same division of their signs and the same text behind the last
cutter, and their numbers have keys. -/
inductive DividedAlike (v w : Text) : Prop
  /-- The same spelling. -/
  | spelled (spelling : v = w)
  /-- The same division of the signs, and the same text behind the last cutter. -/
  | written (a b : Lc.Written) (text : v = a.text) (other : w = b.text)
      (division : a.division = b.division) (trailing : a.trailing = b.trailing)
      (keyed : (lc? v).isOk)

/-- Written call numbers whose counted characters agree up to case have the same standard
spacing, if their signs are divided alike and the same text stands behind the last cutter. -/
theorem standard_text_of_counted {a b : Lc.Written}
    (hsame : (counted a.text).map Character.fold = (counted b.text).map Character.fold)
    (hdivision : a.division = b.division) (htrailing : a.trailing = b.trailing) :
    a.standard.text = b.standard.text := by
  have hfold : a.signs.map Character.fold = b.signs.map Character.fold := by
    rw [a.counted_text, b.counted_text, htrailing, List.map_append, List.map_append] at hsame
    exact List.append_cancel_right hsame
  have hsigns := Character.eq_of_map_fold_eq a.capitalOrDigit b.capitalOrDigit hfold
  exact Lc.standard_text_eq hsigns hdivision htrailing

/-- Entries that are the same have the same place on the shelf, if their values are divided
alike. -/
theorem lc_of_same (tag : Option Text) {a b : Text}
    (hsame : (Entry.ofText tag a).same (Entry.ofText tag b) = true)
    (halike : DividedAlike (Entry.ofText tag a).value (Entry.ofText tag b).value) :
    lc (Entry.ofText tag a).value = lc (Entry.ofText tag b).value := by
  have hcounted := (Entry.same_withValue_iff tag).mp hsame
  change DividedAlike (Entry.normalSpelling a) (Entry.normalSpelling b) at halike
  change lc (Entry.normalSpelling a) = lc (Entry.normalSpelling b)
  cases halike with
  | spelled spelling => rw [spelling]
  | written va vb text other division trailing keyed =>
    rw [text, other] at hcounted
    have hstandard := standard_text_of_counted hcounted division trailing
    have hparts : Lc.parse (Entry.normalSpelling a) = Lc.parse (Entry.normalSpelling b) := by
      unfold Lc.parse
      rw [Entry.trim_upper_normalSpelling, Entry.trim_upper_normalSpelling, text, other,
        ← Lc.ofUpper_standard, hstandard, Lc.ofUpper_standard]
    exact lc_congr hparts keyed

/-- A call number with and without a gap in front of its cutter has one place on the shelf. -/
theorem lc_of_same_gaps :
    lc (Entry.ofText none "QA76.73 .J38 V.2".toList).value =
      lc (Entry.ofText none "qa76.73J38 V.2".toList).value := by
  let number : Lc.ClassNumber :=
    ⟨['Q', 'A'], by simp, by simp, by simp, ⟨['7', '6'], by simp, by simp⟩,
      some ⟨['7', '3'], by simp, by simp⟩⟩
  let tail (point : Bool) : Lc.WrittenTail :=
    ⟨⟨0, point⟩, ⟨'J', by simp, ['3', '8'], by simp, by simp⟩, .trailer ⟨1, ['V', '.', '2'], by simp⟩⟩
  let written (point : Bool) : Lc.Written :=
    ⟨number, none, some (tail point), fun t ht hsuffix => absurd hsuffix (by simp)⟩
  have halike : DividedAlike (Entry.ofText none "QA76.73 .J38 V.2".toList).value
      (Entry.ofText none "qa76.73J38 V.2".toList).value :=
    .written (written true) (written false) (by decide +kernel) (by decide +kernel) rfl rfl
      (by decide +kernel)
  exact lc_of_same none (by decide +kernel) halike

/-- The point of a class number does not count for entries, but it does for the shelf. -/
theorem lc_of_same_fails :
    Scheme.isLc "QA76.73".toList = true ∧ Scheme.isLc "QA7673".toList = true ∧
      (Entry.ofText none "QA76.73".toList).same (Entry.ofText none "QA7673".toList) = true ∧
      lc (Entry.ofText none "QA76.73".toList).value ≠
        lc (Entry.ofText none "QA7673".toList).value := by
  decide +kernel

end ShelfKey
end Shelfmark
