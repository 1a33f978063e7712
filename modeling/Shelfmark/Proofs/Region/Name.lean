import Mathlib.Data.List.Chain
import Shelfmark.Proofs.Character.Letter
import Shelfmark.Proofs.Region.Heading
import Shelfmark.Region.Name

/-!
# Regions - Plain names

The plainest place names consist of letters and of single spaces between them.  Such a name needs
no cleaning, is one run of name characters, and can be told from the qualifier behind it.

Main results:

- Theorem `PlainName.cleanHeading_eq`: a plain name is clean.
- Theorem `PlainName.spanName_append`: it is a run of name characters.
- Theorem `PlainName.qualifiedName?_append`: a plain name and its qualifier are read back.
-/

namespace Shelfmark
namespace Region

open Character (isBlank isLetter isMark)

/-! ## Plain names -/

/-- A name of letters with single spaces between them, and of at least two letters. -/
structure PlainName (name : Text) : Prop where
  letter_or_space : ∀ c ∈ name, isLetter c = true ∨ c = ' '
  head_letter : ∀ c ∈ name.head?, isLetter c = true
  last_letter : ∀ c ∈ name.getLast?, isLetter c = true
  single_spaces : name.IsChain fun c d => ¬ (c = ' ' ∧ d = ' ')
  two_letters : 2 ≤ (name.filter isLetter).length

/-- A plain name is recognised by going through its characters. -/
theorem plainName_iff (name : Text) :
    PlainName name ↔
      name.all (fun c => isLetter c || c == ' ') = true ∧ name.head?.all isLetter = true ∧
        name.getLast?.all isLetter = true ∧ name.IsChain (fun c d => ¬ (c = ' ' ∧ d = ' ')) ∧
        2 ≤ (name.filter isLetter).length := by
  rw [List.all_eq_true, Option.all_eq_true, Option.all_eq_true]
  simp only [Bool.or_eq_true, beq_iff_eq]
  constructor
  · intro h
    exact ⟨h.letter_or_space, h.head_letter, h.last_letter, h.single_spaces, h.two_letters⟩
  · rintro ⟨hsigns, hhead, hlast, hspaces, hletters⟩
    exact ⟨hsigns, hhead, hlast, hspaces, hletters⟩

instance (name : Text) : Decidable (PlainName name) :=
  decidable_of_iff' _ (plainName_iff name)

/-- A letter is not a sign that is none. -/
theorem ne_of_isLetter {c sign : Char} (h : isLetter c = true) (hsign : isLetter sign = false) :
    c ≠ sign := by
  rintro rfl
  rw [h] at hsign
  contradiction

/-- A run of name characters is split off in front of a sign that is none. -/
theorem spanName_append (afterLetter : Bool) {run rest : Text}
    (hrun : ∀ c ∈ run, isNameChar c = true)
    (hrest : ∀ c ∈ rest.head?, isNameChar c = false ∧ isMark c = false) :
    spanName afterLetter (run ++ rest) = (run, rest) := by
  induction run generalizing afterLetter with
  | nil =>
    cases rest with
    | nil => rfl
    | cons c rest =>
      obtain ⟨hname, hmark⟩ := hrest c rfl
      rw [List.nil_append, spanName, hname, hmark]
      simp
  | cons c run ih =>
    rw [List.cons_append, spanName, if_pos (hrun c (by simp)), ih _ fun d hd => hrun d (by simp [hd])]

namespace PlainName

variable {name : Text} (h : PlainName name)

include h

/-- A plain name is not empty. -/
theorem ne_nil : name ≠ [] := by
  rintro rfl
  exact absurd h.two_letters (by simp)

/-- A plain name is trimmed. -/
theorem isTrimmed : Text.IsTrimmed name :=
  ⟨fun c hc => Character.isBlank_of_isLetter (h.head_letter c hc),
    fun c hc => Character.isBlank_of_isLetter (h.last_letter c hc)⟩

/-- A sign that is neither letter nor space does not stand in a plain name. -/
theorem not_mem {c : Char} (hletter : isLetter c = false) (hspace : c ≠ ' ') : c ∉ name := by
  intro hc
  rcases h.letter_or_space c hc with hc | hc
  · rw [hletter] at hc
    contradiction
  · exact hspace hc

/-- A plain name consists of name characters. -/
theorem isNameChar : ∀ c ∈ name, isNameChar c = true := by
  intro c hc
  rcases h.letter_or_space c hc with hletter | rfl
  · simp [Region.isNameChar, hletter]
  · rfl

/-- A plain name has no marks. -/
theorem isMark : ∀ c ∈ name, isMark c = false := by
  intro c hc
  rcases h.letter_or_space c hc with hletter | rfl
  · exact Character.isMark_of_isLetter hletter
  · decide

/-! ## Cleaning -/

/-- A plain name does not end with a sign that is no letter. -/
theorem getLast?_ne {sign : Char} (hsign : isLetter sign = false) : name.getLast? ≠ some sign := by
  intro hlast
  exact ne_of_isLetter (h.last_letter sign hlast) hsign rfl

/-- A plain name does not begin with a sign that is no letter. -/
theorem head?_ne {sign : Char} (hsign : isLetter sign = false) : name.head? ≠ some sign := by
  intro hhead
  exact ne_of_isLetter (h.head_letter sign hhead) hsign rfl

/-- Nothing at the ends of a plain name is taken by cleaning. -/
theorem isClean : IsClean name := by
  have hopens : name.head? ≠ some '[' := h.head?_ne (by decide)
  have hcloses : name.getLast? ≠ some ']' := h.getLast?_ne (by decide)
  refine ⟨h.isTrimmed, ?_, ?_, ?_, fun hopen => absurd hopen hopens, fun hclose => absurd hclose hcloses⟩
  · intro c hc
    have hletter := h.last_letter c hc
    simp [isLeadingMark, ne_of_isLetter hletter (show isLetter ',' = false by decide),
      ne_of_isLetter hletter (show isLetter '/' = false by decide),
      ne_of_isLetter hletter (show isLetter ';' = false by decide),
      ne_of_isLetter hletter (show isLetter ':' = false by decide)]
  · rintro front a rfl
    have hperiod : (front ++ [a, '.']).getLast? ≠ some '.' := h.getLast?_ne (by decide)
    exact absurd (by simp) hperiod
  · rintro inner rfl
    exact hopens rfl

/-- A plain name is clean. -/
theorem cleanHeading_eq : cleanHeading name = name :=
  h.isClean.cleanHeading_eq

/-! ## Names and qualifiers -/

/-- A plain name is the name in a run that one space ends. -/
theorem nameOfRun?_eq : nameOfRun? (name ++ [' ']) = some name := by
  have hdrop : dropEndSpace (name ++ [' ']) = name := by
    simp [dropEndSpace, Text.dropLast?]
  have hletters : (name.filter isLetter).Sublist (name.filter (!Character.isMark ·)) := by
    refine List.monotone_filter_right name fun c hc => ?_
    rw [Character.isMark_of_isLetter hc]
    rfl
  have hlength : ¬ (name.filter (!Character.isMark ·)).length < 2 :=
    Nat.not_lt.mpr (Nat.le_trans h.two_letters hletters.length_le)
  have hlast : ¬ (name.getLast? = some ' ' ∨ name.getLast? = some '-') := by
    rintro (hspace | hhyphen)
    · exact h.getLast?_ne (by decide) hspace
    · exact h.getLast?_ne (by decide) hhyphen
  unfold nameOfRun?
  rw [hdrop]
  dsimp only
  rw [if_neg hlength, if_neg hlast]

/-- A plain name in front of a plain qualifier is read back with it. -/
theorem qualifiedName?_append {qualifier : Text} (hqualifier : PlainName qualifier) (rest : Text) :
    qualifiedName? (name ++ " (".toList ++ qualifier ++ ')' :: rest) =
      some (name, qualifier, ')' :: rest) := by
  have hrun : ∀ c ∈ name ++ [' '], Region.isNameChar c = true := by
    intro c hc
    rcases List.mem_append.mp hc with hc | hc
    · exact h.isNameChar c hc
    · rw [List.mem_singleton.mp hc]
      rfl
  have hfront : spanName false (name ++ " (".toList ++ qualifier ++ ')' :: rest) =
      (name ++ [' '], '(' :: (qualifier ++ ')' :: rest)) := by
    have hsplit : name ++ " (".toList ++ qualifier ++ ')' :: rest =
        (name ++ [' ']) ++ '(' :: (qualifier ++ ')' :: rest) := by simp
    rw [hsplit]
    refine spanName_append false hrun fun c hc => ?_
    obtain rfl := Option.some.inj hc
    decide
  have hinside : spanName false (qualifier ++ ')' :: rest) = (qualifier, ')' :: rest) := by
    refine spanName_append false hqualifier.isNameChar fun c hc => ?_
    obtain rfl := Option.some.inj hc
    decide
  unfold qualifiedName?
  rw [hfront]
  change (if (spanName false (qualifier ++ ')' :: rest)).1.isEmpty then none
    else (nameOfRun? (name ++ [' '])).map fun n => (n, spanName false (qualifier ++ ')' :: rest))) = _
  rw [hinside, h.nameOfRun?_eq, if_neg (by simpa using hqualifier.ne_nil), Option.map_some]

end PlainName
end Region
end Shelfmark
