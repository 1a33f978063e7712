import Mathlib.Data.List.TakeWhile
import Shelfmark.Entry
import Shelfmark.Proofs.Character.Upper

/-!
# Entries - The normal spelling

The normal spelling changes white space only, once a call number is trimmed and in
capitals.  It can be worked out piece by piece: a piece without blanks stays, blanks are
replaced by one space or, beside a period, removed.

Main results:

- Theorem `collapseBlanks_append`: a text falls into pieces in front of every character
  that is no blank.
- Theorem `closePeriodsFrom_append`: what is closed behind a piece without blanks.
- Theorems `inCapitals_normalSpelling` and `isTrimmed_normalSpelling`: a normal spelling is
  in capitals and trimmed.
-/

namespace Shelfmark
namespace Entry

open Character (isBlank)
open Text (EndsWithDigit InCapitals IsTrimmed)

/-! ## Runs of blanks -/

/-- There is nothing to replace in an empty text. -/
@[simp] theorem collapseBlanks_nil : collapseBlanks [] = [] :=
  rfl

/-- A blank is replaced together with the one behind it. -/
theorem collapseBlanks_eq (c : Char) (s : Text) :
    collapseBlanks (c :: s) =
      if isBlank c && s.head?.any isBlank then ' ' :: (collapseBlanks s).drop 1
      else c :: collapseBlanks s :=
  rfl

/-- Two blanks that follow each other become part of one space. -/
theorem collapseBlanks_cons_cons (c d : Char) (s : Text) :
    collapseBlanks (c :: d :: s) =
      if isBlank c && isBlank d then ' ' :: (collapseBlanks (d :: s)).drop 1
      else c :: collapseBlanks (d :: s) :=
  rfl

/-- Blanks are replaced on either side of a character that is none as if the sides stood
alone. -/
theorem collapseBlanks_append {s t : Text} (h : ∀ c ∈ t.head?, isBlank c = false) :
    collapseBlanks (s ++ t) = collapseBlanks s ++ collapseBlanks t := by
  induction s with
  | nil => rfl
  | cons c s ih =>
    cases s with
    | nil =>
      have hlast : (isBlank c && t.head?.any isBlank) = false := by
        cases t with
        | nil => simp
        | cons d t => simp [h d (by simp)]
      rw [List.singleton_append, collapseBlanks_eq, hlast]
      simp [collapseBlanks_eq]
    | cons d s =>
      have hrest : collapseBlanks (d :: s) ≠ [] := by
        rw [collapseBlanks_eq]
        split <;> simp
      obtain ⟨e, u, hcons⟩ := List.exists_cons_of_ne_nil hrest
      rw [List.cons_append] at ih
      rw [List.cons_append, List.cons_append, collapseBlanks_cons_cons, ih,
        collapseBlanks_cons_cons, hcons]
      split <;> rfl

/-- A character that is no blank stays in front of what is replaced behind it. -/
theorem collapseBlanks_cons {c : Char} (h : isBlank c = false) (s : Text) :
    collapseBlanks (c :: s) = c :: collapseBlanks s := by
  rw [collapseBlanks_eq, h]
  rfl

/-- A piece without blanks stays in front of what is replaced behind it. -/
theorem collapseBlanks_piece {s : Text} (h : ∀ c ∈ s, isBlank c = false) (t : Text) :
    collapseBlanks (s ++ t) = s ++ collapseBlanks t := by
  induction s with
  | nil => rfl
  | cons c s ih =>
    rw [List.cons_append, collapseBlanks_cons (h c (by simp)), ih fun d hd => h d (by simp [hd])]
    rfl

/-- A text without blanks has none to replace. -/
theorem collapseBlanks_eq_self {s : Text} (h : ∀ c ∈ s, isBlank c = false) :
    collapseBlanks s = s := by
  simpa using collapseBlanks_piece h []

/-- A run of spaces is replaced by one. -/
theorem collapseBlanks_spaces (n : Nat) {t : Text} (h : ∀ c ∈ t.head?, isBlank c = false) :
    collapseBlanks (List.replicate (n + 1) ' ' ++ t) = ' ' :: collapseBlanks t := by
  have hspaces : collapseBlanks (List.replicate (n + 1) ' ') = [' '] := by
    induction n with
    | zero => rfl
    | succ n ih =>
      rw [List.replicate_succ, collapseBlanks_eq, ih]
      simp [List.replicate_succ]
  rw [collapseBlanks_append h, hspaces]
  rfl

/-- Only spaces are put in. -/
theorem mem_of_mem_collapseBlanks {c : Char} {s : Text} (h : c ∈ collapseBlanks s) :
    c ∈ s ∨ c = ' ' := by
  induction s with
  | nil => contradiction
  | cons d s ih =>
    rw [collapseBlanks_eq] at h
    split at h
    · rcases List.mem_cons.mp h with rfl | h
      · exact Or.inr rfl
      · exact (ih (List.mem_of_mem_drop h)).imp_left (List.mem_cons_of_mem d)
    · rcases List.mem_cons.mp h with rfl | h
      · exact Or.inl List.mem_cons_self
      · exact (ih h).imp_left (List.mem_cons_of_mem d)

/-! ## Blanks beside periods -/

/-- There is nothing to remove in an empty text. -/
@[simp] theorem closePeriodsFrom_nil (afterPeriod : Bool) :
    closePeriodsFrom afterPeriod [] = [] :=
  rfl

/-- A blank is removed behind a period and in front of one. -/
theorem closePeriodsFrom_eq (afterPeriod : Bool) (c : Char) (s : Text) :
    closePeriodsFrom afterPeriod (c :: s) =
      if isBlank c && (afterPeriod || s.head? == some '.') then closePeriodsFrom false s
      else c :: closePeriodsFrom (c == '.') s :=
  rfl

/-- A character that is no blank stays. -/
theorem closePeriodsFrom_cons {c : Char} (h : isBlank c = false) (afterPeriod : Bool) (s : Text) :
    closePeriodsFrom afterPeriod (c :: s) = c :: closePeriodsFrom (c == '.') s := by
  rw [closePeriodsFrom_eq, h]
  rfl

/-- A piece without blanks stays, and its last character is the one in front of what follows. -/
theorem closePeriodsFrom_append (afterPeriod : Bool) {s : Text} {last : Char} (t : Text)
    (h : ∀ c ∈ s, isBlank c = false) (hlast : isBlank last = false) :
    closePeriodsFrom afterPeriod (s ++ last :: t) =
      s ++ last :: closePeriodsFrom (last == '.') t := by
  induction s generalizing afterPeriod with
  | nil => exact closePeriodsFrom_cons hlast afterPeriod t
  | cons c s ih =>
    rw [List.cons_append, closePeriodsFrom_cons (h c (by simp)), ih _ fun d hd => h d (by simp [hd])]
    rfl

/-- A space in front of a period is removed. -/
theorem closePeriodsFrom_space_period (afterPeriod : Bool) (t : Text) :
    closePeriodsFrom afterPeriod (' ' :: '.' :: t) = '.' :: closePeriodsFrom true t := by
  rw [closePeriodsFrom_eq, if_pos (by simp), closePeriodsFrom_cons Character.isBlank_point]
  rfl

/-- A space between other characters stays. -/
theorem closePeriodsFrom_space {t : Text} (h : t.head? ≠ some '.') :
    closePeriodsFrom false (' ' :: t) = ' ' :: closePeriodsFrom false t := by
  have hhead : (t.head? == some '.') = false := by simpa using h
  rw [closePeriodsFrom_eq, hhead]
  rfl

/-- Characters are only left out. -/
theorem closePeriodsFrom_sublist (afterPeriod : Bool) (s : Text) :
    (closePeriodsFrom afterPeriod s).Sublist s := by
  induction s generalizing afterPeriod with
  | nil => exact List.Sublist.refl []
  | cons c s ih =>
    rw [closePeriodsFrom_eq]
    split
    · exact (ih false).cons c
    · exact (ih (c == '.')).cons_cons c

/-- A last character that is no blank stays the last. -/
theorem closePeriodsFrom_concat (afterPeriod : Bool) (s : Text) {c : Char}
    (h : isBlank c = false) : ∃ u, closePeriodsFrom afterPeriod (s ++ [c]) = u ++ [c] := by
  induction s generalizing afterPeriod with
  | nil => exact ⟨[], closePeriodsFrom_cons h afterPeriod []⟩
  | cons d s ih =>
    rw [List.cons_append, closePeriodsFrom_eq]
    split
    · exact ih false
    · obtain ⟨u, hu⟩ := ih (d == '.')
      exact ⟨d :: u, by rw [hu]; rfl⟩

/-! ## Blanks in order -/

/-- A text with no blank doubled and none beside a period. -/
def settle (s : Text) : Text :=
  closePeriods (collapseBlanks s)

/-- A piece without blanks that does not end with a period stays. -/
theorem settle_append {s : Text} (h : ∀ c ∈ s, isBlank c = false) (hlast : s.getLast? ≠ some '.')
    (t : Text) : settle (s ++ t) = s ++ settle t := by
  have hcollapse := collapseBlanks_piece h t
  rcases List.eq_nil_or_concat s with rfl | ⟨u, d, rfl⟩
  · rfl
  · have hpoint : (d == '.') = false := by
      rw [beq_eq_false_iff_ne]
      rintro rfl
      simp at hlast
    rw [List.concat_eq_append] at h hcollapse ⊢
    rw [settle, closePeriods, hcollapse, List.append_assoc, List.singleton_append,
      closePeriodsFrom_append false _ (fun c hc => h c (by simp [hc])) (h d (by simp)), hpoint]
    simp [settle, closePeriods]

/-- A piece that ends with a digit does not end with a period. -/
theorem getLast?_ne_period {s : Text} (h : EndsWithDigit s) : s.getLast? ≠ some '.' := by
  intro hpoint
  have hdigit := h.isDigit '.' hpoint
  contradiction

section Blanks

variable {t : Text} (h : ∀ c ∈ t.head?, isBlank c = false)

include h

/-- The head of a text that does not begin with a blank stays. -/
theorem head?_collapseBlanks : (collapseBlanks t).head? = t.head? := by
  cases t with
  | nil => rfl
  | cons c t => rw [collapseBlanks_cons (h c rfl)]; rfl

/-- Spaces in front of a character that is no period become one. -/
theorem settle_spaces (n : Nat) (hpoint : t.head? ≠ some '.') :
    settle (List.replicate (n + 1) ' ' ++ t) = ' ' :: settle t := by
  rw [settle, closePeriods, collapseBlanks_spaces n h,
    closePeriodsFrom_space (by rwa [head?_collapseBlanks h])]
  rfl

/-- A period stays, and what follows it is put in order. -/
theorem settle_period : settle ('.' :: t) = '.' :: settle t := by
  rw [settle, closePeriods, collapseBlanks_cons Character.isBlank_point,
    closePeriodsFrom_cons Character.isBlank_point]
  cases t with
  | nil => rfl
  | cons c t =>
    rw [collapseBlanks_cons (h c rfl), closePeriodsFrom_cons (h c rfl), settle, closePeriods,
      collapseBlanks_cons (h c rfl), closePeriodsFrom_cons (h c rfl)]

/-- Spaces in front of a period are removed. -/
theorem settle_spaces_period (n : Nat) :
    settle (List.replicate n ' ' ++ '.' :: t) = '.' :: settle t := by
  rw [← settle_period h]
  cases n with
  | zero => rfl
  | succ n =>
    have hhead : ∀ c ∈ ('.' :: t : Text).head?, isBlank c = false := fun c hc =>
      Option.some.inj hc ▸ Character.isBlank_point
    rw [settle, closePeriods, collapseBlanks_spaces n hhead,
      collapseBlanks_cons Character.isBlank_point, closePeriodsFrom_space_period, settle,
      closePeriods, collapseBlanks_cons Character.isBlank_point,
      closePeriodsFrom_cons Character.isBlank_point]
    rfl

end Blanks

/-! ## The gap behind the class letters -/

/-- Where no space follows the capitals at the front there is no gap to close. -/
theorem closeClassGap_eq_self {s : Text} (h : (s.dropWhile Char.isUpper).head? ≠ some ' ') :
    closeClassGap s = s := by
  unfold closeClassGap
  dsimp only
  split
  · rename_i rest hdrop
    rw [hdrop] at h
    exact absurd rfl h
  · rfl

/-- Closing the gap leaves out a space between a capital and a digit, or nothing. -/
theorem closeClassGap_spec (s : Text) :
    closeClassGap s = s ∨ ∃ letters rest, s = letters ++ ' ' :: rest ∧
      closeClassGap s = letters ++ rest ∧ letters ≠ [] ∧ rest ≠ [] := by
  unfold closeClassGap
  dsimp only
  split
  · rename_i rest hdrop
    split
    · rename_i hgap
      refine Or.inr ⟨s.takeWhile Char.isUpper, rest, ?_, rfl, ?_, ?_⟩
      · rw [← hdrop, List.takeWhile_append_dropWhile]
      · exact List.length_pos_iff.mp hgap.1
      · rintro rfl
        exact absurd hgap.2.2 (by decide)
    · exact Or.inl rfl
  · exact Or.inl rfl

/-! ## The whole spelling -/

/-- A normal spelling is in capitals. -/
theorem inCapitals_normalSpelling (raw : Text) : InCapitals (normalSpelling raw) := by
  have hcapitals : InCapitals (closePeriods (collapseBlanks raw.trim.upper)) := by
    intro c hc
    rcases mem_of_mem_collapseBlanks ((closePeriodsFrom_sublist false _).subset hc) with hmem | rfl
    · exact Text.inCapitals_upper raw.trim c hmem
    · exact Character.upper_eq_self (by decide) rfl
  intro c hc
  refine hcapitals c ?_
  unfold normalSpelling at hc
  rcases closeClassGap_spec (closePeriods (collapseBlanks raw.trim.upper)) with
    hself | ⟨letters, rest, hsplit, hclosed, -, -⟩
  · rwa [hself] at hc
  · rw [hclosed] at hc
    rw [hsplit]
    rcases List.mem_append.mp hc with hc | hc
    · exact List.mem_append_left _ hc
    · exact List.mem_append_right _ (List.mem_cons_of_mem _ hc)

/-- A trimmed text is trimmed when the blanks in it are replaced. -/
theorem isTrimmed_collapseBlanks {s : Text} (h : IsTrimmed s) : IsTrimmed (collapseBlanks s) := by
  constructor
  · intro c hc
    cases s with
    | nil => contradiction
    | cons d s =>
      have hd := h.head d rfl
      rw [collapseBlanks_eq, hd] at hc
      exact Option.some.inj hc ▸ hd
  · intro c hc
    rcases List.eq_nil_or_concat s with rfl | ⟨t, d, rfl⟩
    · contradiction
    · have hd := h.last d (by simp)
      rw [List.concat_eq_append, collapseBlanks_append (by simpa using hd),
        collapseBlanks_eq_self (s := [d]) (by simpa using hd)] at hc
      have hlast : d = c := by simpa using hc
      exact hlast ▸ hd

/-- A trimmed text is trimmed when blanks are removed beside periods. -/
theorem isTrimmed_closePeriods {s : Text} (h : IsTrimmed s) : IsTrimmed (closePeriods s) := by
  constructor
  · intro c hc
    cases s with
    | nil => contradiction
    | cons d s =>
      have hd := h.head d rfl
      rw [closePeriods, closePeriodsFrom_cons hd] at hc
      exact Option.some.inj hc ▸ hd
  · intro c hc
    rcases List.eq_nil_or_concat s with rfl | ⟨t, d, rfl⟩
    · contradiction
    · have hd := h.last d (by simp)
      obtain ⟨u, hu⟩ := closePeriodsFrom_concat false t hd
      rw [List.concat_eq_append, closePeriods, hu] at hc
      have hlast : d = c := by simpa using hc
      exact hlast ▸ hd

/-- A trimmed text is trimmed when the gap behind the class letters is closed. -/
theorem isTrimmed_closeClassGap {s : Text} (h : IsTrimmed s) : IsTrimmed (closeClassGap s) := by
  rcases closeClassGap_spec s with hself | ⟨letters, rest, hsplit, hclosed, hletters, hrest⟩
  · rwa [hself]
  · rw [hclosed]
    obtain ⟨letter, letters, rfl⟩ := List.exists_cons_of_ne_nil hletters
    rw [hsplit] at h
    constructor
    · exact fun c hc => h.head c hc
    · intro c hc
      refine h.last c ?_
      have hlast := List.getLast?_eq_some_getLast hrest
      rw [List.getLast?_append, hlast] at hc
      rw [List.getLast?_append, List.getLast?_cons, hlast]
      exact hc

/-- A normal spelling is trimmed. -/
theorem isTrimmed_normalSpelling (raw : Text) : IsTrimmed (normalSpelling raw) :=
  isTrimmed_closeClassGap (isTrimmed_closePeriods (isTrimmed_collapseBlanks
    (Text.isTrimmed_trim raw).upper))

/-- A normal spelling is not changed by trimming it and putting it into capitals. -/
theorem trim_upper_normalSpelling (raw : Text) :
    (normalSpelling raw).trim.upper = normalSpelling raw := by
  rw [(isTrimmed_normalSpelling raw).trim_eq, (inCapitals_normalSpelling raw).upper_eq]

end Entry
end Shelfmark
