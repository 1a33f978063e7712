import Shelfmark.Proofs.CallNumber.Lc.Shape

/-!
# Call numbers - The ends of a head

Each search for a cutter first passes over a head: a class number and perhaps a word.
The places where a head can end do not depend on what is looked for behind it.  So they
are listed once, the preferred ones first, and every search is the first answer along
that list.  Searches that ask different questions can then be compared place by place.

Main results:

- Theorem `leftmost?_behindClass?_eq_findSome?`: a search behind heads is the first answer
  at their ends.
- Theorem `behindFirstCutter?_eq_map`: what follows the first cutter is found where the
  cutter is found.
- Theorem `firstCutter?_isSome`: behind a head with a cutter there is a first cutter.
-/

namespace Shelfmark
namespace CallNumber
namespace Lc

open Text (Span leftmost? furthest?)

/-! ## Runs and words -/

/-- The ends of a run of characters that satisfy `p`, the furthest first. -/
def runEnds (p : Char → Bool) : Text → List Text
  | [] => [[]]
  | c :: s => if p c then runEnds p s ++ [c :: s] else [c :: s]

/-- The ends of characters other than digits and a word behind them, the furthest first. -/
def nonDigitEnds : Text → List Text
  | [] => [[]]
  | c :: s => if c.isDigit then runEnds isWordChar (c :: s) else nonDigitEnds s ++ [c :: s]

/-- The ends of a word, the furthest first. -/
def wordEnds : Text → List Text
  | [] => []
  | c :: s =>
    if startsPlainWord c then runEnds isWordChar s
    else
      match s with
      | [] => []
      | d :: s => if c.isUpper && !d.isDigit then nonDigitEnds s else []

section Searches

variable {α : Type} (answer : Text → Option α)

/-- The furthest answer in a run is the first one at its ends. -/
theorem furthest?_eq_findSome? (p : Char → Bool) (s : Text) :
    furthest? p answer s = (runEnds p s).findSome? answer := by
  induction s with
  | nil => rw [furthest?, runEnds, List.findSome?_singleton]
  | cons c s ih =>
    rw [furthest?, runEnds, ih]
    split
    · rw [List.findSome?_append, List.findSome?_singleton]
      cases (runEnds p s).findSome? answer <;> rfl
    · rw [List.findSome?_singleton]

/-- The answer behind characters other than digits is the first one at their ends. -/
theorem behindNonDigits?_eq_findSome? (s : Text) :
    behindNonDigits? answer s = (nonDigitEnds s).findSome? answer := by
  induction s with
  | nil => rw [behindNonDigits?, nonDigitEnds, List.findSome?_singleton]
  | cons c s ih =>
    rw [behindNonDigits?, nonDigitEnds, ih]
    split
    · exact furthest?_eq_findSome? answer isWordChar (c :: s)
    · rw [List.findSome?_append, List.findSome?_singleton]
      cases (nonDigitEnds s).findSome? answer <;> rfl

/-- The answer behind a word is the first one at its ends. -/
theorem behindWord?_eq_findSome? (s : Text) :
    behindWord? answer s = (wordEnds s).findSome? answer := by
  cases s with
  | nil => rfl
  | cons c s =>
    simp only [behindWord?.eq_def, wordEnds.eq_def]
    split
    · exact furthest?_eq_findSome? answer isWordChar s
    · cases s with
      | nil => rfl
      | cons d s =>
        dsimp only
        split
        · exact behindNonDigits?_eq_findSome? answer s
        · rfl

end Searches

/-! ## Heads -/

/-- The ends of a head that begins at the front, the preferred ones first. -/
def classEnds (s : Text) : List Text :=
  match skipClassNumber? s with
  | none => []
  | some rest => (if rest.head? = some ' ' then wordEnds (skipSpaces rest) else []) ++ [rest]

/-- The ends of all heads in a text: those that begin further to the left first. -/
def headEnds : Text → List Text
  | [] => []
  | c :: s => classEnds (c :: s) ++ headEnds s

section Searches

variable {α : Type} (answer : Text → Option α)

/-- The answer behind a class number is the first one at the ends of its head. -/
theorem behindClass?_eq_findSome? (s : Text) :
    behindClass? answer s = (classEnds s).findSome? answer := by
  unfold behindClass? classEnds
  cases skipClassNumber? s with
  | none => rfl
  | some rest =>
    simp only [Option.bind_some, List.findSome?_append, List.findSome?_singleton]
    by_cases hword : rest.head? = some ' '
    · rw [if_pos hword, if_pos hword, behindWord?_eq_findSome?]
      cases (wordEnds (skipSpaces rest)).findSome? answer <;> rfl
    · rw [if_neg hword, if_neg hword]
      rfl

/-- A search behind heads is the first answer at their ends. -/
theorem leftmost?_behindClass?_eq_findSome? (s : Text) :
    leftmost? (behindClass? answer) s = (headEnds s).findSome? answer := by
  induction s with
  | nil => rw [leftmost?, behindClass?_eq_findSome?]; rfl
  | cons c s ih =>
    rw [leftmost?, ih, behindClass?_eq_findSome?, headEnds, List.findSome?_append]
    cases (classEnds (c :: s)).findSome? answer <;> rfl

end Searches

/-! ## Cutters behind a head -/

section Cutters

variable {s : Text}

/-- What follows the first cutter is found where the cutter is found. -/
theorem behindFirstCutter?_eq_map (s : Text) :
    behindFirstCutter? s = (firstCutter? s).map fun cutter => skipSpaces cutter.rest := by
  simp only [behindFirstCutter?, firstCutter?, leftmost?_behindClass?_eq_findSome?,
    List.map_findSome?, cutterHere?]
  congr 1
  funext t
  cases h : skipCutter? (skipGap t) <;> simp [h]

/-- Behind a head with a cutter there is a first cutter. -/
theorem firstCutter?_isSome {t : Text} (ht : t ∈ headEnds s)
    (hcutter : (skipCutter? (skipGap t)).isSome) : (firstCutter? s).isSome := by
  by_contra hnone
  rw [Option.not_isSome_iff_eq_none, firstCutter?, leftmost?_behindClass?_eq_findSome?,
    List.findSome?_eq_none_iff] at hnone
  have hhere := hnone t ht
  rw [cutterHere?, Option.map_eq_none_iff] at hhere
  rw [hhere] at hcutter
  contradiction

/-- An answer behind a head is the answer at one of the ends. -/
theorem exists_mem_headEnds {α : Type} {answer : Text → Option α} {a : α}
    (h : leftmost? (behindClass? answer) s = some a) : ∃ t ∈ headEnds s, answer t = some a := by
  rw [leftmost?_behindClass?_eq_findSome?] at h
  exact List.exists_of_findSome?_eq_some h

end Cutters

end Lc
end CallNumber
end Shelfmark
