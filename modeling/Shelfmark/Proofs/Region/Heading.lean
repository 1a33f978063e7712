import Mathlib.Data.List.Basic
import Shelfmark.Proofs.Text.Trim
import Shelfmark.Region.Heading

/-!
# Regions - Clean headings

A round of cleaning takes white space, marks, a period and brackets from the ends of a heading and
adds nothing.  So a round that changes something leaves a shorter heading, the rounds come to an
end, and a round that changes nothing has found nothing to take: the heading is clean.

Main results:

- Theorem `exists_of_unpunctuated`: what a round takes before it looks at the brackets.
- Theorem `cleanOnce_eq_self_iff`: a round changes nothing exactly in a clean heading.
- Theorem `cleanedIn_cleanRounds`: the rounds come to an end before the characters do.
- Theorem `cleanHeading_settles`: cleaning ends, in time, with a clean piece of the heading.
-/

namespace Shelfmark
namespace Region

open Character (isBlank)
open Text (IsTrimmed)

/-! ## What a round takes away -/

/-- A heading as a round finds it when it looks at the brackets. -/
def unpunctuated (heading : Text) : Text :=
  stripFinalPeriod (stripLeadingMark heading.trim)

/-- A round strips the brackets of what is left without punctuation. -/
theorem cleanOnce_eq (heading : Text) :
    cleanOnce heading = stripOuterBrackets (unpunctuated heading) :=
  rfl

/-- A mark is taken from the end, with the spaces in front of it. -/
theorem exists_of_stripLeadingMark (s : Text) :
    ∃ back, s = stripLeadingMark s ++ back ∧ (∀ c ∈ back, c = ' ' ∨ isLeadingMark c = true) ∧
      ∀ c ∈ s.getLast?, isLeadingMark c = true → c ∈ back := by
  unfold stripLeadingMark
  by_cases hmark : s.getLast?.any isLeadingMark = true
  · rw [if_pos hmark]
    obtain ⟨mark, hlast, hmark⟩ := (Option.any_eq_true _ _).mp hmark
    obtain ⟨spaces, hspaces, hblank⟩ := Text.exists_of_dropEndWhile (· == ' ') s.dropLast
    refine ⟨spaces ++ [mark], ?_, ?_, ?_⟩
    · rw [← List.append_assoc, ← hspaces]
      exact (List.dropLast_append_getLast? mark hlast).symm
    · intro c hc
      rcases List.mem_append.mp hc with hc | hc
      · exact Or.inl (beq_iff_eq.mp (hblank c hc))
      · exact Or.inr (List.mem_singleton.mp hc ▸ hmark)
    · intro c hc _
      rw [Option.mem_unique hc hlast]
      simp
  · rw [if_neg hmark]
    refine ⟨[], (List.append_nil s).symm, by simp, ?_⟩
    intro c hc hc'
    exact absurd ((Option.any_eq_true _ _).mpr ⟨c, hc, hc'⟩) hmark

/-- A final period that a round takes stands behind punctuation or behind two characters of a
word. -/
def PeriodGoes (front : Text) (a : Char) : Prop :=
  isPunctuation a = true ∨ isWordChar a = true ∧ ∃ b ∈ front.getLast?, isWordChar b = true

/-- A final period is taken where it goes. -/
theorem stripFinalPeriod_of_goes {front : Text} {a : Char} (h : PeriodGoes front a) :
    stripFinalPeriod (front ++ [a, '.']) = front ++ [a] := by
  rcases List.eq_nil_or_concat front with rfl | ⟨front, b, rfl⟩
  · have hsign : isPunctuation a = true := by
      rcases h with hsign | ⟨-, b, hb, -⟩
      · exact hsign
      · contradiction
    simp [stripFinalPeriod, hsign]
  · have hgoes : (isWordChar a && isWordChar b || isPunctuation a) = true := by
      rcases h with hsign | ⟨hword, c, hc, hbefore⟩
      · simp [hsign]
      · obtain rfl : b = c := by simpa using hc
        simp [hword, hbefore]
    simp [stripFinalPeriod, hgoes]

/-- A final period stays where it does not go. -/
theorem stripFinalPeriod_of_stays {front : Text} {a : Char} (h : ¬ PeriodGoes front a) :
    stripFinalPeriod (front ++ [a, '.']) = front ++ [a, '.'] := by
  obtain ⟨hsign, hword⟩ := not_or.mp h
  rcases List.eq_nil_or_concat front with rfl | ⟨front, b, rfl⟩
  · simp [stripFinalPeriod, hsign]
  · have hstays : (isWordChar a && isWordChar b || isPunctuation a) = false := by
      simpa [hsign] using hword
    simp [stripFinalPeriod, hstays]

/-- A text without a final period behind a character is left alone. -/
theorem stripFinalPeriod_of_ne {s : Text} (h : ∀ front a, s ≠ front ++ [a, '.']) :
    stripFinalPeriod s = s := by
  have hreverse (a : Char) (rest : Text) : s.reverse ≠ '.' :: a :: rest := by
    intro heq
    apply h rest.reverse a
    rw [← List.reverse_reverse s, heq]
    simp
  unfold stripFinalPeriod
  split
  · rename_i heq
    exact absurd heq (hreverse _ _)
  · rename_i heq
    exact absurd heq (hreverse _ _)
  · rfl

/-- A period is taken from the end, or nothing. -/
theorem stripFinalPeriod_cases (s : Text) :
    stripFinalPeriod s = s ∨ s = stripFinalPeriod s ++ ['.'] := by
  by_cases hperiod : ∃ front a, s = front ++ [a, '.']
  · obtain ⟨front, a, rfl⟩ := hperiod
    by_cases hgoes : PeriodGoes front a
    · right
      rw [stripFinalPeriod_of_goes hgoes]
      simp
    · left
      exact stripFinalPeriod_of_stays hgoes
  · left
    apply stripFinalPeriod_of_ne
    intro front a heq
    exact hperiod ⟨front, a, heq⟩

/-- Before it looks at the brackets a round takes none of them. -/
theorem exists_of_unpunctuated (s : Text) :
    ∃ front back, s = front ++ unpunctuated s ++ back ∧
      ∀ c ∈ front ++ back, c ≠ '[' ∧ c ≠ ']' := by
  obtain ⟨front, blanks, htrim, hblank⟩ := Text.exists_of_trim s
  obtain ⟨mark, hmark, hsigns, -⟩ := exists_of_stripLeadingMark s.trim
  have hperiod : ∃ period, stripLeadingMark s.trim = unpunctuated s ++ period ∧
      ∀ c ∈ period, c = '.' := by
    rcases stripFinalPeriod_cases (stripLeadingMark s.trim) with hsame | htaken
    · exact ⟨[], by rw [unpunctuated, hsame, List.append_nil], by simp⟩
    · exact ⟨['.'], htaken, by simp⟩
  obtain ⟨period, hperiod, hpoint⟩ := hperiod
  refine ⟨front, period ++ mark ++ blanks, ?_, ?_⟩
  · calc s = front ++ s.trim ++ blanks := htrim
      _ = front ++ (unpunctuated s ++ period ++ mark) ++ blanks := by rw [← hperiod, ← hmark]
      _ = front ++ unpunctuated s ++ (period ++ mark ++ blanks) := by simp
  · have hnot {c : Char} (hc : isBlank c = true ∨ c = '.' ∨ c = ' ' ∨ isLeadingMark c = true) :
        c ≠ '[' ∧ c ≠ ']' := by
      constructor <;> rintro rfl <;> revert hc <;> decide
    intro c hc
    simp only [List.mem_append] at hc hblank
    rcases hc with hc | (hc | hc) | hc
    · exact hnot (Or.inl (hblank c (Or.inl hc)))
    · exact hnot (Or.inr (Or.inl (hpoint c hc)))
    · exact hnot (Or.inr (Or.inr (hsigns c hc)))
    · exact hnot (Or.inl (hblank c (Or.inr hc)))

/-! ## Brackets -/

/-- No bracket at an end is one to be taken: there are none at both ends, and one at one end has a
counterpart. -/
structure BracketsStay (s : Text) : Prop where
  /-- There are no brackets at both ends. -/
  not_enclosed : ∀ inner, s ≠ '[' :: inner ++ [']']
  /-- A bracket that opens the text is closed. -/
  closed : s.head? = some '[' → ']' ∈ s
  /-- A bracket that closes the text was opened. -/
  opened : s.getLast? = some ']' → '[' ∈ s

/-- Brackets at both ends are taken together, and one at one end if it has no counterpart. -/
theorem stripOuterBrackets_cases (s : Text) :
    (∃ inner, s = '[' :: inner ++ [']'] ∧ stripOuterBrackets s = inner) ∨
      (∃ rest, s = '[' :: rest ∧ ']' ∉ s ∧ stripOuterBrackets s = rest) ∨
      (∃ front, s = front ++ [']'] ∧ '[' ∉ s ∧ stripOuterBrackets s = front) ∨
      (BracketsStay s ∧ stripOuterBrackets s = s) := by
  unfold stripOuterBrackets
  dsimp only
  by_cases hopens : s.head? = some '['
  · obtain ⟨rest, rfl⟩ := List.head?_eq_some_iff.mp hopens
    by_cases hcloses : ('[' :: rest).getLast? = some ']'
    · left
      rw [if_pos ⟨hopens, hcloses⟩]
      rcases List.eq_nil_or_concat rest with rfl | ⟨inner, c, rfl⟩
      · simp at hcloses
      · rw [List.concat_eq_append, ← List.cons_append, List.getLast?_concat] at hcloses
        obtain rfl := Option.some.inj hcloses
        exact ⟨inner, by simp, by simp⟩
    · right
      rw [if_neg (not_and_of_not_right _ hcloses)]
      by_cases hclosed : ']' ∈ '[' :: rest
      · right; right
        rw [if_neg (by simp [hclosed]), if_neg (by simp [hcloses])]
        refine ⟨⟨?_, fun _ => hclosed, fun h => absurd h hcloses⟩, rfl⟩
        intro inner heq
        exact hcloses (heq ▸ List.getLast?_concat)
      · left
        rw [if_pos (by simp [hclosed])]
        exact ⟨rest, rfl, hclosed, rfl⟩
  · right; right
    rw [if_neg (not_and_of_not_left _ hopens), if_neg (not_and_of_not_left _ hopens)]
    have hnot (inner : Text) : s ≠ '[' :: inner ++ [']'] := by
      rintro rfl
      exact hopens rfl
    by_cases hcloses : s.getLast? = some ']'
    · by_cases hopened : '[' ∈ s
      · right
        rw [if_neg (by simp [hopened])]
        exact ⟨⟨hnot, fun h => absurd h hopens, fun _ => hopened⟩, rfl⟩
      · left
        rw [if_pos (by simp [hcloses, hopened])]
        exact ⟨s.dropLast, (List.dropLast_append_getLast? ']' hcloses).symm, hopened, rfl⟩
    · right
      rw [if_neg (not_and_of_not_left _ hcloses)]
      exact ⟨⟨hnot, fun h => absurd h hopens, fun h => absurd h hcloses⟩, rfl⟩

/-- What is left without brackets is a piece of the text. -/
theorem stripOuterBrackets_isInfix (s : Text) : stripOuterBrackets s <:+: s := by
  rcases stripOuterBrackets_cases s with ⟨inner, heq, hstrip⟩ | ⟨rest, heq, -, hstrip⟩ |
    ⟨front, heq, -, hstrip⟩ | ⟨-, hstrip⟩
  · rw [hstrip, heq]
    exact ⟨['['], [']'], rfl⟩
  · rw [hstrip, heq]
    exact (List.suffix_cons '[' rest).isInfix
  · rw [hstrip, heq]
    exact (List.prefix_append front [']']).isInfix
  · exact hstrip.symm ▸ List.infix_rfl

/-- No bracket is taken exactly where they stay. -/
theorem stripOuterBrackets_eq_self_iff (s : Text) :
    stripOuterBrackets s = s ↔ BracketsStay s := by
  have hshorter {t : Text} (hstrip : stripOuterBrackets s = t) (hlength : t.length < s.length) :
      ¬ stripOuterBrackets s = s := by
    intro hself
    rw [← hstrip, hself] at hlength
    exact Nat.lt_irrefl _ hlength
  rcases stripOuterBrackets_cases s with ⟨inner, heq, hstrip⟩ | ⟨rest, heq, hnone, hstrip⟩ |
    ⟨front, heq, hnone, hstrip⟩ | ⟨hstay, hstrip⟩
  · have hlength : inner.length < s.length := by
      rw [heq, List.length_append, List.length_cons]
      omega
    apply iff_of_false (hshorter hstrip hlength)
    intro h
    exact h.not_enclosed inner heq
  · apply iff_of_false (hshorter hstrip (by simp [heq]))
    intro h
    exact hnone (h.closed (heq ▸ rfl))
  · apply iff_of_false (hshorter hstrip (by simp [heq]))
    intro h
    exact hnone (h.opened (heq ▸ List.getLast?_concat))
  · exact iff_of_true hstrip hstay

/-- A round takes a piece out of a heading. -/
theorem cleanOnce_isInfix (heading : Text) : cleanOnce heading <:+: heading := by
  obtain ⟨front, back, heq, -⟩ := exists_of_unpunctuated heading
  exact (stripOuterBrackets_isInfix _).trans ⟨front, back, heq.symm⟩

/-! ## Clean headings -/

/-- A clean heading has at its ends nothing that cleaning takes. -/
structure IsClean (heading : Text) : Prop where
  /-- There is no white space at the ends. -/
  trimmed : IsTrimmed heading
  /-- No mark stands at the end. -/
  no_mark : ∀ c ∈ heading.getLast?, isLeadingMark c = false
  /-- A final period does not follow punctuation or two characters of a word. -/
  no_period : ∀ front a, heading = front ++ [a, '.'] → ¬ PeriodGoes front a
  /-- The brackets are those of its parts. -/
  brackets_stay : BracketsStay heading

/-- In a heading that a round does not change, no step of the round changes anything. -/
theorem steps_of_cleanOnce_eq {s : Text} (h : cleanOnce s = s) :
    s.trim = s ∧ stripLeadingMark s = s ∧ stripFinalPeriod s = s ∧ stripOuterBrackets s = s := by
  have hmark : stripLeadingMark s.trim <+: s.trim := by
    obtain ⟨back, hback, -⟩ := exists_of_stripLeadingMark s.trim
    exact ⟨back, hback.symm⟩
  have hperiod : unpunctuated s <+: stripLeadingMark s.trim := by
    rcases stripFinalPeriod_cases (stripLeadingMark s.trim) with hsame | htaken
    · exact hsame ▸ List.prefix_rfl
    · exact ⟨['.'], htaken.symm⟩
  have hbrackets : s <:+: unpunctuated s := by
    have hround := stripOuterBrackets_isInfix (unpunctuated s)
    rwa [← cleanOnce_eq, h] at hround
  -- Every step takes a piece of the text, and all together take nothing.
  have hmarked : s <:+: stripLeadingMark s.trim := hbrackets.trans hperiod.isInfix
  have htrimmed : s <:+: s.trim := hmarked.trans hmark.isInfix
  have htrim : s.trim = s := (Text.trim_isInfix s).eq_of_length_le htrimmed.length_le
  rw [htrim] at hmark hmarked
  have hmark : stripLeadingMark s = s := hmark.eq_of_length_le hmarked.length_le
  rw [unpunctuated, htrim, hmark] at hperiod hbrackets
  have hperiod : stripFinalPeriod s = s := hperiod.eq_of_length_le hbrackets.length_le
  rw [cleanOnce_eq, unpunctuated, htrim, hmark, hperiod] at h
  exact ⟨htrim, hmark, hperiod, h⟩

/-- A round changes nothing exactly in a clean heading. -/
theorem cleanOnce_eq_self_iff (s : Text) : cleanOnce s = s ↔ IsClean s := by
  constructor
  · intro h
    obtain ⟨htrim, hmark, hperiod, hbrackets⟩ := steps_of_cleanOnce_eq h
    constructor
    · exact htrim ▸ Text.isTrimmed_trim s
    · intro c hc
      obtain ⟨back, hback, -, hlast⟩ := exists_of_stripLeadingMark s
      rw [hmark, List.self_eq_append_right] at hback
      rw [Bool.eq_false_iff]
      intro hc'
      exact absurd (hlast c hc hc') (hback ▸ List.not_mem_nil)
    · rintro front a rfl hgoes
      rw [stripFinalPeriod_of_goes hgoes] at hperiod
      simp at hperiod
    · exact (stripOuterBrackets_eq_self_iff s).mp hbrackets
  · intro h
    have hmark : stripLeadingMark s = s := by
      apply if_neg
      intro hany
      obtain ⟨c, hlast, hc⟩ := (Option.any_eq_true _ _).mp hany
      rw [h.no_mark c hlast] at hc
      contradiction
    have hperiod : stripFinalPeriod s = s := by
      by_cases hends : ∃ front a, s = front ++ [a, '.']
      · obtain ⟨front, a, heq⟩ := hends
        rw [heq]
        exact stripFinalPeriod_of_stays (h.no_period front a heq)
      · apply stripFinalPeriod_of_ne
        intro front a heq
        exact hends ⟨front, a, heq⟩
    have hbrackets : stripOuterBrackets s = s :=
      (stripOuterBrackets_eq_self_iff s).mpr h.brackets_stay
    rw [cleanOnce_eq, unpunctuated, h.trimmed.trim_eq, hmark, hperiod, hbrackets]

/-! ## Rounds -/

/-- Cleaning a heading round after round ends with a result: a round that empties the heading or
changes nothing is the last.  The number counts the rounds, the last one included. -/
inductive CleanedIn : Nat → Text → Text → Prop
  | last {heading : Text} : cleanOnce heading = [] ∨ cleanOnce heading = heading →
      CleanedIn 1 heading (cleanOnce heading)
  | more {rounds : Nat} {heading result : Text} : cleanOnce heading ≠ [] →
      cleanOnce heading ≠ heading → CleanedIn rounds (cleanOnce heading) result →
        CleanedIn (rounds + 1) heading result

/-- A round that changes a heading shortens it. -/
theorem length_cleanOnce_lt {heading : Text} (h : cleanOnce heading ≠ heading) :
    (cleanOnce heading).length < heading.length := by
  rcases Nat.lt_or_ge (cleanOnce heading).length heading.length with hlt | hge
  · exact hlt
  · exact absurd ((cleanOnce_isInfix heading).eq_of_length_le hge) h

/-- An empty heading is clean. -/
theorem cleanOnce_nil : cleanOnce [] = [] :=
  rfl

/-- However many rounds are allowed, an empty heading stays empty. -/
theorem cleanRounds_nil (rounds : Nat) : cleanRounds rounds [] = [] := by
  cases rounds with
  | zero => rfl
  | succ rounds =>
    rw [cleanRounds]
    exact if_pos cleanOnce_nil

/-- As many rounds as characters are enough, and one more finds nothing to change. -/
theorem cleanedIn_cleanRounds {allowed : Nat} {heading : Text} (h : heading.length ≤ allowed) :
    ∃ rounds ≤ heading.length + 1, CleanedIn rounds heading (cleanRounds allowed heading) := by
  induction allowed generalizing heading with
  | zero =>
    obtain rfl := List.length_eq_zero_iff.mp (Nat.le_zero.mp h)
    exact ⟨1, Nat.le_refl 1, .last (Or.inl cleanOnce_nil)⟩
  | succ allowed ih =>
    rw [cleanRounds]
    by_cases hsame : cleanOnce heading = heading
    · rw [if_pos hsame]
      have hlast : CleanedIn 1 heading (cleanOnce heading) := .last (Or.inr hsame)
      rw [hsame] at hlast
      exact ⟨1, Nat.le_add_left 1 _, hlast⟩
    · rw [if_neg hsame]
      have hshorter := length_cleanOnce_lt hsame
      by_cases hempty : cleanOnce heading = []
      · have hlast : CleanedIn 1 heading (cleanOnce heading) := .last (Or.inl hempty)
        rw [hempty, cleanRounds_nil]
        exact ⟨1, Nat.le_add_left 1 _, hempty ▸ hlast⟩
      · obtain ⟨rounds, hrounds, hcleaned⟩ :=
          ih (Nat.le_of_lt_succ (Nat.lt_of_lt_of_le hshorter h))
        exact ⟨rounds + 1, by omega, .more hempty hsame hcleaned⟩

/-- Rounds that come to an end leave a piece of the heading that a further round does not
change. -/
theorem CleanedIn.isInfix_and_clean {rounds : Nat} {heading result : Text}
    (h : CleanedIn rounds heading result) : result <:+: heading ∧ IsClean result := by
  induction h with
  | @last heading hlast =>
    refine ⟨cleanOnce_isInfix heading, (cleanOnce_eq_self_iff _).mp ?_⟩
    rcases hlast with hempty | hsame
    · rw [hempty, cleanOnce_nil]
    · rw [hsame, hsame]
  | @more rounds heading result _ _ _ ih =>
    exact ⟨ih.1.trans (cleanOnce_isInfix heading), ih.2⟩

/-- A clean heading is left as it is. -/
theorem IsClean.cleanHeading_eq {heading : Text} (h : IsClean heading) :
    cleanHeading heading = heading := by
  unfold cleanHeading
  cases heading.length with
  | zero => rfl
  | succ rounds =>
    rw [cleanRounds]
    exact if_pos ((cleanOnce_eq_self_iff heading).mpr h)

/-- Cleaning makes a heading clean. -/
theorem isClean_cleanHeading (heading : Text) : IsClean (cleanHeading heading) := by
  obtain ⟨rounds, -, hcleaned⟩ := cleanedIn_cleanRounds (Nat.le_refl heading.length)
  exact hcleaned.isInfix_and_clean.2

/-- A heading is left as it is exactly if it is clean. -/
theorem cleanHeading_eq_self_iff (heading : Text) :
    cleanHeading heading = heading ↔ IsClean heading := by
  constructor
  · intro h
    exact h ▸ isClean_cleanHeading heading
  · intro h
    exact h.cleanHeading_eq

/-- Cleaning comes to an end after at most one round more than the heading has characters.  What is
left is a piece of the heading without white space at its ends; it does not end in a comma, slash,
semicolon or colon, is not enclosed in brackets, does not end in a period behind two characters of
a word, and cleaning leaves it as it is. -/
theorem cleanHeading_settles (heading : Text) :
    (∃ rounds ≤ heading.length + 1, CleanedIn rounds heading (cleanHeading heading)) ∧
      cleanHeading heading <:+: heading ∧ IsTrimmed (cleanHeading heading) ∧
      (∀ c ∈ (cleanHeading heading).getLast?, c ∉ [',', '/', ';', ':']) ∧
      (∀ inner, cleanHeading heading ≠ '[' :: inner ++ [']']) ∧
      (∀ front a b, cleanHeading heading = front ++ [a, b, '.'] →
        ¬ (isWordChar a = true ∧ isWordChar b = true)) ∧
      cleanHeading (cleanHeading heading) = cleanHeading heading := by
  obtain ⟨rounds, hrounds, hcleaned⟩ := cleanedIn_cleanRounds (Nat.le_refl heading.length)
  obtain ⟨hpiece, hclean⟩ : cleanHeading heading <:+: heading ∧ IsClean (cleanHeading heading) :=
    hcleaned.isInfix_and_clean
  refine ⟨⟨rounds, hrounds, hcleaned⟩, hpiece, hclean.trimmed, ?_, hclean.brackets_stay.not_enclosed,
    ?_, hclean.cleanHeading_eq⟩
  · intro c hc
    have hmark := hclean.no_mark c hc
    simp only [isLeadingMark, Bool.or_eq_false_iff, beq_eq_false_iff_ne] at hmark
    simp [hmark]
  · rintro front a b heq ⟨ha, hb⟩
    apply hclean.no_period (front ++ [a]) b (by rw [heq]; simp)
    exact Or.inr ⟨hb, a, List.getLast?_concat, ha⟩

end Region
end Shelfmark
