import Shelfmark.Character.Blank
import Shelfmark.Character.Letter

/-!
# Characters - Letters, marks and white space

A letter is neither a combining mark nor white space.  The tables of ranges say so: gone through
side by side, no range of the one meets a range of the other.

Main results:

- Theorem `not_inRanges_of_apart`: tables that are apart have no code point in common.
- Theorems `isMark_of_isLetter` and `isBlank_of_isLetter`: what a letter is not.
-/

namespace Shelfmark
namespace Character

/-- Whether two ascending tables have no code point in common; the range that ends first is passed
over.  `steps` bounds the ranges looked at. -/
def areApart : Nat → List (Nat × Nat) → List (Nat × Nat) → Bool
  | _, [], _ => true
  | _, _, [] => true
  | 0, _, _ => false
  | steps + 1, a :: as, b :: bs =>
    if Nat.blt a.2 b.1 then areApart steps as (b :: bs)
    else Nat.blt b.2 a.1 && areApart steps (a :: as) bs

/-- A code in a table is in its first range or behind it. -/
theorem inRanges_cons {range : Nat × Nat} {ranges : List (Nat × Nat)} {n : Nat}
    (h : inRanges (range :: ranges) n = true) :
    range.1 ≤ n ∧ (n ≤ range.2 ∨ inRanges ranges n = true) := by
  rw [inRanges] at h
  split at h
  · contradiction
  · rename_i hfirst
    refine ⟨Nat.le_of_not_lt hfirst, ?_⟩
    rwa [Bool.or_eq_true, decide_eq_true_iff] at h

/-- Tables that are apart have no code point in common. -/
theorem not_inRanges_of_apart {steps : Nat} {as bs : List (Nat × Nat)} {n : Nat}
    (h : areApart steps as bs = true) (ha : inRanges as n = true) : inRanges bs n = false := by
  rw [Bool.eq_false_iff]
  intro hb
  induction steps generalizing as bs with
  | zero =>
    cases as with
    | nil => contradiction
    | cons a as =>
      cases bs with
      | nil => contradiction
      | cons b bs => contradiction
  | succ steps ih =>
    cases as with
    | nil => contradiction
    | cons a as =>
      cases bs with
      | nil => contradiction
      | cons b bs =>
        obtain ⟨hafirst, hain⟩ := inRanges_cons ha
        obtain ⟨hbfirst, hbin⟩ := inRanges_cons hb
        rw [areApart] at h
        split at h
        · -- The first range of the one table ends in front of all of the other.
          rename_i hbefore
          rw [Nat.blt_eq] at hbefore
          rcases hain with hlast | hrest
          · omega
          · exact ih h hrest hb
        · obtain ⟨hbefore, hrest⟩ := Bool.and_eq_true_iff.mp h
          rw [Nat.blt_eq] at hbefore
          rcases hbin with hlast | hbs
          · omega
          · exact ih hrest ha hbs

/-- The tables of letters and marks are apart. -/
theorem letterRanges_apart_markRanges : areApart 1500 letterRanges markRanges = true := by
  decide +kernel

/-- The tables of letters and white space are apart. -/
theorem letterRanges_apart_blankRanges : areApart 1500 letterRanges blankRanges = true := by
  decide +kernel

/-- A letter is no mark. -/
theorem isMark_of_isLetter {c : Char} (h : isLetter c = true) : isMark c = false :=
  not_inRanges_of_apart letterRanges_apart_markRanges h

/-- A letter is no white space. -/
theorem isBlank_of_isLetter {c : Char} (h : isLetter c = true) : isBlank c = false :=
  not_inRanges_of_apart letterRanges_apart_blankRanges h

end Character
end Shelfmark
