import Shelfmark.Proofs.Entry.Spacing

/-!
# Entries - The normal form

A call number in its normal spelling is trimmed and in capitals, its blanks are in order, and no
space stands between class letters and number.  Texts of this form are exactly those that are in
their normal spelling already.

Main results:

- Theorem `settle_eq_self`: blanks that are in order stay.
- Theorem `closeClassGap_eq_self_iff`: closing the class gap changes a text that has one.
- Theorem `normalSpelling_eq_self_iff`: the texts that are in their normal spelling.
- Theorem `normalSpelling_normalSpelling`: a normal spelling is its own.
- Theorem `value_ofText_normal`: what the normal form says of the value of an entry.
-/

namespace Shelfmark

open Character (isBlank)

/-! ## Blanks in order -/

namespace Text

/-- No blank stands beside another one or beside a period. -/
def Settled (s : Text) : Prop :=
  s.IsChain fun c d => (isBlank c = true → isBlank d = false ∧ d ≠ '.') ∧
    (c = '.' → isBlank d = false)

/-- What follows the first character decides whether that may be a blank or a period. -/
theorem settled_cons {c : Char} {s : Text} :
    Settled (c :: s) ↔
      (isBlank c = true → ∀ d ∈ s.head?, isBlank d = false ∧ d ≠ '.') ∧
        (c = '.' → ∀ d ∈ s.head?, isBlank d = false) ∧ Settled s := by
  rw [Settled, List.isChain_cons]
  constructor
  · intro h
    exact ⟨fun hc d hd => (h.1 d hd).1 hc, fun hc d hd => (h.1 d hd).2 hc, h.2⟩
  · intro h
    exact ⟨fun d hd => ⟨fun hc => h.1 hc d hd, fun hc => h.2.1 hc d hd⟩, h.2.2⟩

/-- In a piece of a text blanks are in order if they are in the text. -/
theorem Settled.of_isInfix {s t : Text} (h : Settled s) (ht : t <:+: s) : Settled t := by
  obtain ⟨front, back, rfl⟩ := ht
  exact h.left_of_append.right_of_append

/-- Where blanks are in order they are single. -/
theorem Settled.singleBlanks {s : Text} (h : Settled s) : SingleBlanks s :=
  h.imp fun _ _ hpair hc => (hpair.1 hc).1

/-- Neither of two neighbours is a blank beside the other. -/
theorem Settled.neighbours {front back : Text} {c d : Char}
    (h : Settled (front ++ c :: d :: back)) :
    (isBlank c = true → isBlank d = false ∧ d ≠ '.') ∧ (c = '.' → isBlank d = false) := by
  obtain ⟨hblank, hpoint, -⟩ := settled_cons.mp h.right_of_append
  exact ⟨fun hc => hblank hc d rfl, fun hc => hpoint hc d rfl⟩

/-- A space behind a capital may be left out. -/
theorem Settled.erase_space {s t : Text} (h : Settled (s ++ ' ' :: t))
    (hs : ∀ c ∈ s, c.isUpper = true) : Settled (s ++ t) := by
  obtain ⟨hfront, hback, -⟩ := List.isChain_append.mp h
  refine List.IsChain.append hfront (settled_cons.mp hback).2.2 fun c hc d _ => ?_
  have hupper := hs c (List.mem_of_getLast? hc)
  constructor
  · intro hblank
    rw [Character.isBlank_of_isUpper hupper] at hblank
    contradiction
  · rintro rfl
    contradiction

end Text

namespace Entry

open Text (InCapitals IsTrimmed Settled SingleBlanks)

/-- Single blanks are not replaced. -/
theorem collapseBlanks_of_singleBlanks {s : Text} (h : SingleBlanks s) : collapseBlanks s = s := by
  induction s with
  | nil => rfl
  | cons c s ih =>
    obtain ⟨hhead, hs⟩ := Text.singleBlanks_cons.mp h
    have hsingle : (isBlank c && s.head?.any isBlank) = false := by
      rw [Bool.and_eq_false_imp]
      intro hc
      cases hfirst : s.head? with
      | none => rfl
      | some d => exact hhead hc d hfirst
    rw [collapseBlanks_eq, hsingle, ih hs]
    rfl

/-- Where blanks are in order none is removed beside a period. -/
theorem closePeriodsFrom_of_settled {afterPeriod : Bool} {s : Text} (h : Settled s)
    (hstart : afterPeriod = true → ∀ c ∈ s.head?, isBlank c = false) :
    closePeriodsFrom afterPeriod s = s := by
  induction s generalizing afterPeriod with
  | nil => rfl
  | cons c s ih =>
    obtain ⟨hblank, hpoint, hs⟩ := Text.settled_cons.mp h
    have hkeep : (isBlank c && (afterPeriod || s.head? == some '.')) = false := by
      rw [Bool.and_eq_false_imp]
      intro hc
      have hfront : afterPeriod = false := by
        rw [Bool.eq_false_iff]
        intro hflag
        rw [hstart hflag c rfl] at hc
        contradiction
      rw [hfront, Bool.false_or, beq_eq_false_iff_ne]
      intro hnext
      exact (hblank hc '.' hnext).2 rfl
    rw [closePeriodsFrom_eq, hkeep, ih hs fun hc => hpoint (beq_iff_eq.mp hc)]
    rfl

/-- Blanks that are in order stay. -/
theorem settle_eq_self {s : Text} (h : Settled s) : settle s = s := by
  rw [settle, closePeriods, collapseBlanks_of_singleBlanks h.singleBlanks]
  exact closePeriodsFrom_of_settled h (by simp)

/-- Removing blanks beside periods puts single blanks in order; behind a period none comes
first. -/
theorem settled_closePeriodsFrom (afterPeriod : Bool) {s : Text} (h : SingleBlanks s) :
    Settled (closePeriodsFrom afterPeriod s) ∧
      (afterPeriod = true → ∀ c ∈ (closePeriodsFrom afterPeriod s).head?, isBlank c = false) := by
  induction s generalizing afterPeriod with
  | nil => exact ⟨.nil, by simp⟩
  | cons c s ih =>
    obtain ⟨hhead, hs⟩ := Text.singleBlanks_cons.mp h
    rw [closePeriodsFrom_eq]
    split
    · rename_i hremoved
      obtain ⟨hc, -⟩ := Bool.and_eq_true_iff.mp hremoved
      refine ⟨(ih false hs).1, fun _ => ?_⟩
      rw [head?_closePeriodsFrom _ (hhead hc)]
      exact hhead hc
    · rename_i hkept
      obtain ⟨hrest, hbehind⟩ := ih (c == '.') hs
      constructor
      · refine Text.settled_cons.mpr ⟨fun hc d hd => ?_, fun hc => hbehind (beq_iff_eq.mpr hc), hrest⟩
        rw [head?_closePeriodsFrom _ (hhead hc)] at hd
        refine ⟨hhead hc d hd, ?_⟩
        rintro rfl
        rw [hc, Option.mem_def.mp hd] at hkept
        simp at hkept
      · rintro hflag d hd
        rw [Bool.not_eq_true, Bool.and_eq_false_imp] at hkept
        obtain rfl := Option.some.inj hd
        rw [Bool.eq_false_iff]
        intro hc
        have hnot := hkept hc
        rw [hflag] at hnot
        contradiction

/-- Blanks that were put in order are in order. -/
theorem settled_settle (s : Text) : Settled (settle s) :=
  (settled_closePeriodsFrom false (singleBlanks_collapseBlanks s)).1

/-! ## The gap behind the class letters -/

/-- A space stands between one to three class letters at the front and a digit. -/
def OpensGap (s : Text) : Prop :=
  ∃ letters d rest, s = letters ++ ' ' :: d :: rest ∧ letters ≠ [] ∧ letters.length ≤ 3 ∧
    (∀ c ∈ letters, c.isUpper = true) ∧ d.isDigit = true

/-- Behind the capitals at the front a gap is a space in front of a digit. -/
theorem opensGap_append_iff {letters t : Text} (hne : letters ≠ [])
    (hletters : ∀ c ∈ letters, c.isUpper = true) (ht : ∀ c ∈ t.head?, c.isUpper = false) :
    OpensGap (letters ++ t) ↔
      letters.length ≤ 3 ∧ ∃ d rest, t = ' ' :: d :: rest ∧ d.isDigit = true := by
  constructor
  · rintro ⟨capitals, d, rest, htext, -, hlength, hcapitals, hd⟩
    -- The capitals at the front are the same in both readings of the text.
    obtain ⟨htake, hdrop⟩ := Text.takeWhile_run hletters ht
    obtain ⟨htake', hdrop'⟩ := Text.takeWhile_run (t := ' ' :: d :: rest) hcapitals (by simp)
    rw [htext, htake'] at htake
    rw [htext, hdrop'] at hdrop
    exact ⟨htake ▸ hlength, d, rest, hdrop.symm, hd⟩
  · rintro ⟨hlength, d, rest, rfl, hd⟩
    exact ⟨letters, d, rest, rfl, hne, hlength, hletters, hd⟩

/-- A gap behind the class letters is closed. -/
theorem closeClassGap_of_opensGap {letters rest : Text} {d : Char} (hne : letters ≠ [])
    (hlength : letters.length ≤ 3) (hletters : ∀ c ∈ letters, c.isUpper = true)
    (hd : d.isDigit = true) :
    closeClassGap (letters ++ ' ' :: d :: rest) = letters ++ d :: rest := by
  have hpos := List.length_pos_iff.mpr hne
  obtain ⟨htake, hdrop⟩ := Text.takeWhile_run (t := ' ' :: d :: rest) hletters (by simp)
  unfold closeClassGap
  rw [htake, hdrop]
  exact if_pos ⟨hpos, hlength, hd⟩

/-- There is a gap to close, or closing changes nothing. -/
theorem closeClassGap_eq_self_iff {s : Text} : closeClassGap s = s ↔ ¬ OpensGap s := by
  constructor
  · rintro hself ⟨letters, d, rest, rfl, hne, hlength, hletters, hd⟩
    rw [closeClassGap_of_opensGap hne hlength hletters hd] at hself
    have hlengths := congrArg List.length hself
    simp at hlengths
  · intro hopens
    unfold closeClassGap
    dsimp only
    split
    · rename_i rest hdrop
      refine if_neg fun hgap => hopens ?_
      obtain ⟨hpos, hlength, hstart⟩ := hgap
      obtain ⟨d, hhead, hd⟩ := (Option.any_eq_true _ _).mp hstart
      obtain ⟨tail, rfl⟩ := List.head?_eq_some_iff.mp hhead
      refine ⟨s.takeWhile Char.isUpper, d, tail, ?_, List.length_pos_iff.mp hpos, hlength,
        fun c hc => List.mem_takeWhile_imp hc, hd⟩
      rw [← hdrop, List.takeWhile_append_dropWhile]
    · rfl

/-- Where the gap is closed there is none. -/
theorem not_opensGap_closeClassGap (s : Text) : ¬ OpensGap (closeClassGap s) := by
  by_cases h : OpensGap s
  · obtain ⟨letters, d, rest, rfl, hne, hlength, hletters, hd⟩ := h
    rw [closeClassGap_of_opensGap hne hlength hletters hd,
      opensGap_append_iff hne hletters (by simp [Character.isUpper_of_isDigit hd])]
    rintro ⟨-, e, tail, htail, -⟩
    obtain ⟨rfl, -⟩ := List.cons.inj htail
    contradiction
  · rwa [closeClassGap_eq_self_iff.mpr h]

/-! ## The normal form -/

/-- A text in its normal spelling. -/
structure IsNormal (s : Text) : Prop where
  trimmed : IsTrimmed s
  capitals : InCapitals s
  settled : Settled s
  closed : ¬ OpensGap s

/-- For a trimmed text in capitals with its blanks in order only the class gap is left to
close. -/
theorem normalSpelling_of_settled {s : Text} (htrimmed : IsTrimmed s) (hcapitals : InCapitals s)
    (hsettled : Settled s) : normalSpelling s = closeClassGap s := by
  have hnormal : normalSpelling s = closeClassGap (settle s.trim.upper) := rfl
  rw [hnormal, htrimmed.trim_eq, hcapitals.upper_eq, settle_eq_self hsettled]

/-- A normal spelling has the normal form. -/
theorem isNormal_normalSpelling (raw : Text) : IsNormal (normalSpelling raw) := by
  have hsettled := settled_settle raw.trim.upper
  have hnormal : normalSpelling raw = closeClassGap (settle raw.trim.upper) := rfl
  refine ⟨isTrimmed_normalSpelling raw, inCapitals_normalSpelling raw, ?_, ?_⟩
  · rw [hnormal]
    by_cases h : OpensGap (settle raw.trim.upper)
    · obtain ⟨letters, d, rest, htext, hne, hlength, hletters, hd⟩ := h
      rw [htext] at hsettled ⊢
      rw [closeClassGap_of_opensGap hne hlength hletters hd]
      exact hsettled.erase_space hletters
    · rwa [closeClassGap_eq_self_iff.mpr h]
  · rw [hnormal]
    exact not_opensGap_closeClassGap _

/-- The texts that are in their normal spelling are those in the normal form. -/
theorem normalSpelling_eq_self_iff {s : Text} : normalSpelling s = s ↔ IsNormal s := by
  constructor
  · intro h
    exact h ▸ isNormal_normalSpelling s
  · intro h
    rw [normalSpelling_of_settled h.trimmed h.capitals h.settled]
    exact closeClassGap_eq_self_iff.mpr h.closed

/-- An entry has the normal spelling of the text it is made of. -/
theorem value_ofText (tag : Option Text) (raw : Text) :
    (ofText tag raw).value = normalSpelling raw :=
  rfl

/-- A normal spelling is its own. -/
theorem normalSpelling_normalSpelling (raw : Text) :
    normalSpelling (normalSpelling raw) = normalSpelling raw :=
  normalSpelling_eq_self_iff.mpr (isNormal_normalSpelling raw)

/-- The value of an entry made of any text stays when an entry is made of it.  It has no white
space around it, none doubled, none beside a period and none between one to three class letters
and a digit, and each of its characters is its own uppercase form. -/
theorem value_ofText_normal (tag : Option Text) (raw : Text) :
    ∃ value, (ofText tag raw).value = value ∧ (ofText tag value).value = value ∧
      (∀ c ∈ value.head?, isBlank c = false) ∧
      (∀ c ∈ value.getLast?, isBlank c = false) ∧
      (∀ front c d back, value = front ++ c :: d :: back →
        (isBlank c = true → isBlank d = false ∧ d ≠ '.') ∧ (c = '.' → isBlank d = false)) ∧
      (∀ letters d rest, value = letters ++ ' ' :: d :: rest → letters ≠ [] →
        letters.length ≤ 3 → (∀ c ∈ letters, c.isUpper = true) → d.isDigit = false) ∧
      ∀ c ∈ value, Character.upper c = [c] := by
  have hnormal := isNormal_normalSpelling raw
  have hagain : (ofText tag (normalSpelling raw)).value = normalSpelling raw := by
    rw [value_ofText, normalSpelling_normalSpelling]
  refine ⟨normalSpelling raw, value_ofText tag raw, hagain, hnormal.trimmed.head,
    hnormal.trimmed.last, ?_, ?_, hnormal.capitals⟩
  · intro front c d back hvalue
    have hsettled := hnormal.settled
    rw [hvalue] at hsettled
    exact hsettled.neighbours
  · intro letters d rest hvalue hne hlength hletters
    rw [Bool.eq_false_iff]
    intro hd
    apply hnormal.closed
    exact ⟨letters, d, rest, hvalue, hne, hlength, hletters, hd⟩

end Entry
end Shelfmark
