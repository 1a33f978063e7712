import Mathlib.Data.List.Chain
import Shelfmark.Proofs.Entry.Spelling

/-!
# Entries - Blanks between words

Wherever an entry comes from, its value is trimmed and has no two blanks side by side.  The
latter holds once runs of blanks are replaced, and it stays so when blanks are removed: beside a
single blank stand other characters only.

Main results:

- Theorem `singleBlanks_collapseBlanks`: replacing runs of blanks leaves single blanks.
- Theorem `singleBlanks_closePeriodsFrom`: removing blanks beside periods keeps them single.
- Theorems `Made.isTrimmed` and `Made.singleBlanks`: the values of entries.
-/

namespace Shelfmark

open Character (isBlank)

/-! ## Single blanks -/

namespace Text

/-- No two blanks stand side by side. -/
def SingleBlanks (s : Text) : Prop :=
  s.IsChain fun c d => isBlank c = true → isBlank d = false

/-- Behind a blank at the front stands none, and the rest has single blanks. -/
theorem singleBlanks_cons {c : Char} {s : Text} :
    SingleBlanks (c :: s) ↔
      (isBlank c = true → ∀ d ∈ s.head?, isBlank d = false) ∧ SingleBlanks s := by
  rw [SingleBlanks, List.isChain_cons]
  exact and_congr_left' ⟨fun h hc d hd => h d hd hc, fun h d hd hc => h hc d hd⟩

/-- A piece of a text with single blanks has single blanks. -/
theorem SingleBlanks.of_isInfix {s t : Text} (h : SingleBlanks s) (ht : t <:+: s) :
    SingleBlanks t := by
  obtain ⟨front, back, rfl⟩ := ht
  exact h.left_of_append.right_of_append

/-- The rest of a text with single blanks has single blanks. -/
theorem SingleBlanks.drop {s : Text} (h : SingleBlanks s) (n : Nat) : SingleBlanks (s.drop n) :=
  List.IsChain.drop h n

/-- A single blank in front of a piece may be left out. -/
theorem SingleBlanks.erase_space {s t : Text} (h : SingleBlanks (s ++ ' ' :: t)) :
    SingleBlanks (s ++ t) := by
  obtain ⟨hs, ht, -⟩ := List.isChain_append.mp h
  obtain ⟨hhead, ht⟩ := singleBlanks_cons.mp ht
  exact hs.append ht fun c _ d hd _ => hhead Character.isBlank_space d hd

end Text

namespace Entry

open Text (IsTrimmed SingleBlanks)

/-! ## Replacing and removing blanks -/

/-- A text that begins with a blank begins with one when runs of blanks are replaced. -/
theorem exists_collapseBlanks {c : Char} (h : isBlank c = true) (s : Text) :
    ∃ d t, collapseBlanks (c :: s) = d :: t ∧ isBlank d = true := by
  rw [collapseBlanks_eq]
  split
  · exact ⟨' ', _, rfl, Character.isBlank_space⟩
  · exact ⟨c, _, rfl, h⟩

/-- Where runs of blanks are replaced, single blanks are left. -/
theorem singleBlanks_collapseBlanks (s : Text) : SingleBlanks (collapseBlanks s) := by
  induction s with
  | nil => exact .nil
  | cons c s ih =>
    rw [collapseBlanks_eq]
    split
    · rename_i hblank
      obtain ⟨-, hnext⟩ := Bool.and_eq_true_iff.mp hblank
      cases s with
      | nil => contradiction
      | cons d s =>
        -- The blank that stood for the rest of the run is not followed by another one.
        obtain ⟨e, t, hcons, he⟩ := exists_collapseBlanks hnext s
        rw [hcons] at ih ⊢
        obtain ⟨hhead, ht⟩ := Text.singleBlanks_cons.mp ih
        exact Text.singleBlanks_cons.mpr ⟨fun _ => hhead he, ht⟩
    · rename_i hblank
      refine Text.singleBlanks_cons.mpr ⟨fun hc => ?_, ih⟩
      have hhead : ∀ d ∈ s.head?, isBlank d = false := by
        intro d hd
        rw [hc, Bool.true_and, Option.mem_def.mp hd] at hblank
        exact Bool.eq_false_iff.mpr hblank
      rwa [head?_collapseBlanks hhead]

/-- A text that does not begin with a blank does not when blanks are removed beside periods. -/
theorem head?_closePeriodsFrom (afterPeriod : Bool) {s : Text}
    (h : ∀ c ∈ s.head?, isBlank c = false) : (closePeriodsFrom afterPeriod s).head? = s.head? := by
  cases s with
  | nil => rfl
  | cons c s =>
    rw [closePeriodsFrom_cons (h c rfl)]
    rfl

/-- Single blanks stay single when blanks are removed beside periods. -/
theorem singleBlanks_closePeriodsFrom (afterPeriod : Bool) {s : Text} (h : SingleBlanks s) :
    SingleBlanks (closePeriodsFrom afterPeriod s) := by
  induction s generalizing afterPeriod with
  | nil => exact .nil
  | cons c s ih =>
    obtain ⟨hhead, hs⟩ := Text.singleBlanks_cons.mp h
    rw [closePeriodsFrom_eq]
    split
    · exact ih false hs
    · refine Text.singleBlanks_cons.mpr ⟨fun hc => ?_, ih _ hs⟩
      rw [head?_closePeriodsFrom _ (hhead hc)]
      exact hhead hc

/-- A text with its blanks in order has single blanks. -/
theorem singleBlanks_settle (s : Text) : SingleBlanks (settle s) :=
  singleBlanks_closePeriodsFrom false (singleBlanks_collapseBlanks s)

/-- A normal spelling has single blanks. -/
theorem singleBlanks_normalSpelling (raw : Text) : SingleBlanks (normalSpelling raw) := by
  have hsettle := singleBlanks_settle raw.trim.upper
  have hnormal : normalSpelling raw = closeClassGap (settle raw.trim.upper) := rfl
  rw [hnormal]
  rcases closeClassGap_spec (settle raw.trim.upper) with
    hself | ⟨letters, rest, hsplit, hclosed, -, -⟩
  · rwa [hself]
  · rw [hclosed]
    rw [hsplit] at hsettle
    exact hsettle.erase_space

/-! ## The values of entries -/

/-- The ways in which an entry comes about. -/
inductive Made : Entry → Prop
  | ofText (tag : Option Text) (raw : Text) : Made (ofText tag raw)
  | cleaned {entry : Entry} (made : Made entry) : Made entry.cleaned

/-- The value of an entry is trimmed. -/
theorem Made.isTrimmed {entry : Entry} (h : Made entry) : IsTrimmed entry.value := by
  cases h with
  | ofText tag raw => exact isTrimmed_normalSpelling raw
  | cleaned _ => exact Text.isTrimmed_trim _

/-- The value of an entry has single blanks. -/
theorem Made.singleBlanks {entry : Entry} (h : Made entry) : SingleBlanks entry.value := by
  cases h with
  | ofText tag raw => exact singleBlanks_normalSpelling raw
  | cleaned _ => exact (singleBlanks_settle _).of_isInfix (Text.trim_isInfix _)

end Entry
end Shelfmark
