import Mathlib.Logic.Function.Iterate
import Shelfmark.Proofs.Region.Heading

/-!
# Regions - Brackets of a heading

Of a heading with balanced brackets a round takes the first and the last character together if they
are brackets, and no bracket otherwise.  The two need not belong together: in `[Paris] and [London]`
they do not, and `Paris] and [London` is left.  Brackets that have come out of balance stay so, as
whatever is taken later is taken in pairs from the outside.

Main results:

- Theorem `balanced_enclosed`: brackets around a balanced text are balanced.
- Theorem `Balanced.cleanOnce_iff`: a round keeps the balance exactly if it takes no brackets that
  do not belong together.
- Theorem `balanced_cleanHeading_iff`: so do all rounds.
- Theorem `twoNames_not_balanced`: a balanced heading that is cleaned to one that is not.
-/

namespace Shelfmark
namespace Region

/-! ## Balanced brackets -/

/-- The square brackets of a text are balanced: as many are closed as opened, and up to no place
have more been closed than opened. -/
structure Balanced (s : Text) : Prop where
  /-- No bracket is closed that was not opened before. -/
  closed_le : ∀ n, (s.take n).count ']' ≤ (s.take n).count '['
  /-- All brackets that are opened are closed. -/
  count_eq : s.count '[' = s.count ']'

/-- The places inside a text are enough to look at. -/
theorem balanced_iff (s : Text) :
    Balanced s ↔ (∀ n ∈ List.range s.length, (s.take n).count ']' ≤ (s.take n).count '[') ∧
      s.count '[' = s.count ']' := by
  constructor
  · intro h
    exact ⟨fun n _ => h.closed_le n, h.count_eq⟩
  · rintro ⟨hclosed, hcount⟩
    refine ⟨fun n => ?_, hcount⟩
    rcases Nat.lt_or_ge n s.length with hinside | hbehind
    · exact hclosed n (List.mem_range.mpr hinside)
    · rw [List.take_of_length_le hbehind]
      exact Nat.le_of_eq hcount.symm

instance (s : Text) : Decidable (Balanced s) :=
  decidable_of_iff' _ (balanced_iff s)

/-- A text without brackets. -/
def BracketFree (s : Text) : Prop :=
  ∀ c ∈ s, c ≠ '[' ∧ c ≠ ']'

/-- In a text without brackets none is counted, however far one reads. -/
theorem BracketFree.count_take {s : Text} (h : BracketFree s) (n : Nat) :
    (s.take n).count '[' = 0 ∧ (s.take n).count ']' = 0 := by
  constructor
  · apply List.count_eq_zero.mpr
    intro hmem
    exact (h _ (List.mem_of_mem_take hmem)).1 rfl
  · apply List.count_eq_zero.mpr
    intro hmem
    exact (h _ (List.mem_of_mem_take hmem)).2 rfl

/-- In a text without brackets none is counted. -/
theorem BracketFree.count_eq {s : Text} (h : BracketFree s) :
    s.count '[' = 0 ∧ s.count ']' = 0 := by
  have hcount := h.count_take s.length
  rwa [List.take_length] at hcount

section Ends

variable {front s back : Text} (hfront : BracketFree front) (hback : BracketFree back)

include hfront hback

/-- What stands around the brackets does not count. -/
theorem count_around : (front ++ s ++ back).count '[' = s.count '[' ∧
    (front ++ s ++ back).count ']' = s.count ']' := by
  obtain ⟨hfrontOpened, hfrontClosed⟩ := hfront.count_eq
  obtain ⟨hbackOpened, hbackClosed⟩ := hback.count_eq
  constructor
  · rw [List.count_append, List.count_append, hfrontOpened, hbackOpened, Nat.zero_add, Nat.add_zero]
  · rw [List.count_append, List.count_append, hfrontClosed, hbackClosed, Nat.zero_add, Nat.add_zero]

/-- What stands around the brackets does not change their balance. -/
theorem balanced_around_iff : Balanced (front ++ s ++ back) ↔ Balanced s := by
  have htake (c : Char) (hc : ∀ n, (front.take n).count c = 0 ∧ (back.take n).count c = 0)
      (n : Nat) : ((front ++ s ++ back).take n).count c = (s.take (n - front.length)).count c := by
    rw [List.take_append, List.take_append, List.count_append, List.count_append, (hc _).1,
      (hc _).2, Nat.zero_add, Nat.add_zero]
  have hopened := htake '[' fun n => ⟨(hfront.count_take n).1, (hback.count_take n).1⟩
  have hclosed := htake ']' fun n => ⟨(hfront.count_take n).2, (hback.count_take n).2⟩
  obtain ⟨hcountOpened, hcountClosed⟩ := count_around (s := s) hfront hback
  constructor
  · intro h
    constructor
    · intro n
      have hplace := h.closed_le (n + front.length)
      rwa [hopened, hclosed, Nat.add_sub_cancel] at hplace
    · rw [← hcountOpened, ← hcountClosed]
      exact h.count_eq
  · intro h
    constructor
    · intro n
      rw [hopened, hclosed]
      exact h.closed_le _
    · rw [hcountOpened, hcountClosed]
      exact h.count_eq

end Ends

/-- Brackets around a balanced text are balanced. -/
theorem balanced_enclosed {inner : Text} (h : Balanced inner) :
    Balanced ('[' :: inner ++ [']']) := by
  constructor
  · intro n
    cases n with
    | zero => simp
    | succ n =>
      have hinner := h.closed_le n
      have hlast : ([']'].take (n - inner.length)).count ']' ≤ 1 :=
        (List.take_sublist _ _).count_le _
      rw [List.cons_append, List.take_succ_cons, List.take_append]
      simp only [List.count_cons, List.count_append]
      simp
      omega
  · simp [h.count_eq]

/-! ## One round -/

/-- Brackets at both ends of a text belong together: what they enclose is balanced by itself. -/
def EndsPaired (s : Text) : Prop :=
  ∀ inner, s = '[' :: inner ++ [']'] → Balanced inner

/-- A round has as many brackets before it when it comes to look at them. -/
theorem count_unpunctuated (s : Text) : (unpunctuated s).count '[' = s.count '[' ∧
    (unpunctuated s).count ']' = s.count ']' := by
  obtain ⟨front, back, heq, hfree⟩ := exists_of_unpunctuated s
  have hfront : BracketFree front := fun c hc => hfree c (List.mem_append_left _ hc)
  have hback : BracketFree back := fun c hc => hfree c (List.mem_append_right _ hc)
  obtain ⟨hopened, hclosed⟩ := count_around (s := unpunctuated s) hfront hback
  rw [← heq] at hopened hclosed
  exact ⟨hopened.symm, hclosed.symm⟩

/-- Nothing that a round takes before it looks at the brackets changes their balance. -/
theorem balanced_unpunctuated_iff (s : Text) : Balanced (unpunctuated s) ↔ Balanced s := by
  obtain ⟨front, back, heq, hfree⟩ := exists_of_unpunctuated s
  have hfront : BracketFree front := fun c hc => hfree c (List.mem_append_left _ hc)
  have hback : BracketFree back := fun c hc => hfree c (List.mem_append_right _ hc)
  have haround := balanced_around_iff (s := unpunctuated s) hfront hback
  rw [← heq] at haround
  exact haround.symm

section Round

variable {s : Text}

/-- With as many brackets closed as opened, a round takes two of them from the ends, or none. -/
theorem cleanOnce_cases (h : s.count '[' = s.count ']') :
    unpunctuated s = '[' :: cleanOnce s ++ [']'] ∨
      (cleanOnce s = unpunctuated s ∧ ∀ inner, unpunctuated s ≠ '[' :: inner ++ [']']) := by
  have hcount : (unpunctuated s).count '[' = (unpunctuated s).count ']' := by
    rw [(count_unpunctuated s).1, (count_unpunctuated s).2, h]
  rw [cleanOnce_eq]
  rcases stripOuterBrackets_cases (unpunctuated s) with ⟨inner, heq, hstrip⟩ |
    ⟨rest, heq, hnone, -⟩ | ⟨front, heq, hnone, -⟩ | ⟨hstay, hstrip⟩
  · left
    rw [hstrip]
    exact heq
  · rw [List.count_eq_zero.mpr hnone, List.count_eq_zero] at hcount
    exact absurd (heq ▸ by simp) hcount
  · rw [List.count_eq_zero.mpr hnone, eq_comm, List.count_eq_zero] at hcount
    exact absurd (heq ▸ by simp) hcount
  · right
    exact ⟨hstrip, hstay.not_enclosed⟩

/-- A round leaves as many brackets that close as brackets that open. -/
theorem count_cleanOnce (h : s.count '[' = s.count ']') :
    (cleanOnce s).count '[' = (cleanOnce s).count ']' := by
  obtain ⟨hopened, hclosed⟩ := count_unpunctuated s
  rcases cleanOnce_cases h with htaken | ⟨hsame, -⟩
  · rw [htaken] at hopened hclosed
    simp at hopened hclosed
    omega
  · rw [hsame, hopened, hclosed, h]

/-- A round does not bring brackets into balance. -/
theorem Balanced.of_cleanOnce (hcount : s.count '[' = s.count ']') (h : Balanced (cleanOnce s)) :
    Balanced s := by
  rw [← balanced_unpunctuated_iff]
  rcases cleanOnce_cases hcount with htaken | ⟨hsame, -⟩
  · rw [htaken]
    exact balanced_enclosed h
  · rwa [← hsame]

/-- A round keeps the balance exactly if it finds no brackets at both ends that do not belong
together. -/
theorem Balanced.cleanOnce_iff (h : Balanced s) :
    Balanced (cleanOnce s) ↔ EndsPaired (unpunctuated s) := by
  rcases cleanOnce_cases h.count_eq with htaken | ⟨hsame, hnone⟩
  · constructor
    · intro hround inner heq
      rw [heq] at htaken
      simp at htaken
      rwa [htaken]
    · intro hpaired
      exact hpaired _ htaken
  · apply iff_of_true
    · rw [hsame]
      exact (balanced_unpunctuated_iff s).mpr h
    · intro inner heq
      exact absurd heq (hnone inner)

end Round

/-! ## All rounds -/

/-- Cleaning is a number of rounds. -/
theorem CleanedIn.exists_iterate {rounds : Nat} {heading result : Text}
    (h : CleanedIn rounds heading result) : ∃ n, cleanOnce^[n] heading = result := by
  induction h with
  | last _ => exact ⟨1, rfl⟩
  | more _ _ _ ih =>
    obtain ⟨n, hn⟩ := ih
    exact ⟨n + 1, hn⟩

/-- After some rounds a heading is as cleaning leaves it, and stays so. -/
theorem exists_cleanOnce_iterate (heading : Text) :
    ∃ n, ∀ k, cleanOnce^[k + n] heading = cleanHeading heading := by
  obtain ⟨rounds, -, hcleaned⟩ := cleanedIn_cleanRounds (Nat.le_refl heading.length)
  obtain ⟨n, hn⟩ := hcleaned.exists_iterate
  have hfixed : cleanOnce (cleanHeading heading) = cleanHeading heading :=
    (cleanOnce_eq_self_iff _).mpr (isClean_cleanHeading heading)
  refine ⟨n, fun k => ?_⟩
  rw [Function.iterate_add_apply, hn]
  exact Function.iterate_fixed hfixed k

section Rounds

variable {heading : Text}

/-- Whatever the number of rounds, as many brackets close as open. -/
theorem count_iterate (h : heading.count '[' = heading.count ']') (n : Nat) :
    (cleanOnce^[n] heading).count '[' = (cleanOnce^[n] heading).count ']' := by
  induction n with
  | zero => exact h
  | succ n ih =>
    rw [Function.iterate_succ_apply']
    exact count_cleanOnce ih

/-- Brackets that are balanced after some rounds have been so after fewer. -/
theorem Balanced.of_iterate (hcount : heading.count '[' = heading.count ']') {n k : Nat}
    (h : Balanced (cleanOnce^[k + n] heading)) : Balanced (cleanOnce^[n] heading) := by
  induction k with
  | zero => rwa [Nat.zero_add] at h
  | succ k ih =>
    rw [Nat.succ_add, Function.iterate_succ_apply'] at h
    exact ih (h.of_cleanOnce (count_iterate hcount _))

/-- Cleaning leaves as many brackets that close as brackets that open.  It keeps their balance
exactly if in every round the brackets at both ends, where there are such, belong together. -/
theorem balanced_cleanHeading_iff (h : Balanced heading) :
    (cleanHeading heading).count '[' = (cleanHeading heading).count ']' ∧
      (Balanced (cleanHeading heading) ↔
        ∀ n, EndsPaired (unpunctuated (cleanOnce^[n] heading))) := by
  obtain ⟨last, hlast⟩ := exists_cleanOnce_iterate heading
  constructor
  · rw [← hlast 0]
    exact count_iterate h.count_eq _
  constructor
  · intro hcleaned
    have hrounds (n : Nat) : Balanced (cleanOnce^[n] heading) := by
      apply Balanced.of_iterate (k := last) h.count_eq
      rwa [Nat.add_comm, hlast n]
    intro n
    rw [← (hrounds n).cleanOnce_iff, ← Function.iterate_succ_apply' cleanOnce]
    exact hrounds (n + 1)
  · intro hpaired
    have hrounds (n : Nat) : Balanced (cleanOnce^[n] heading) := by
      induction n with
      | zero => exact h
      | succ n ih =>
        rw [Function.iterate_succ_apply']
        exact ih.cleanOnce_iff.mpr (hpaired n)
    rw [← hlast 0]
    exact hrounds _

/-- Of brackets around a whole name and brackets inside it the outer ones are taken, and the inner
ones stay balanced. -/
theorem suppliedName_balanced :
    ∃ heading, heading = "[Springfield [Ill.]].".toList ∧ Balanced heading ∧
      cleanHeading heading = "Springfield [Ill.]".toList ∧
      ∀ n, EndsPaired (unpunctuated (cleanOnce^[n] heading)) := by
  have hbalanced : Balanced "[Springfield [Ill.]].".toList := by decide
  have hcleaned : cleanHeading "[Springfield [Ill.]].".toList = "Springfield [Ill.]".toList := by
    decide
  obtain ⟨-, hiff⟩ := balanced_cleanHeading_iff hbalanced
  refine ⟨_, rfl, hbalanced, hcleaned, hiff.mp ?_⟩
  rw [hcleaned]
  decide

/-- Brackets around the first and the last word do not belong together, but are taken. -/
theorem twoNames_not_balanced : ∃ heading, heading = "[Paris] and [London]".toList ∧
    Balanced heading ∧ cleanHeading heading = "Paris] and [London".toList ∧
      ¬ Balanced (cleanHeading heading) := by
  refine ⟨_, rfl, ?_⟩
  decide

end Rounds

end Region
end Shelfmark
