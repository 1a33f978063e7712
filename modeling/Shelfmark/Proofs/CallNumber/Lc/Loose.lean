import Shelfmark.Proofs.CallNumber.Lc.Spacing

/-!
# Call numbers - Loose spellings

A call number can be spelled so loosely that no search finds a cutter: with spaces between
class letters and number, or with a word in place of the cutter.  Then what follows the last
point is taken for the cutter as a whole.  As long as it is a word, or a cutter that nothing
follows, the call number reads as it does without the spaces.

Main results:

- Theorem `ofUpper_loose`: a loosely spelled call number reads as its class and its word.
- Theorem `ofUpper_loose_closed`: it reads so with all its gaps closed, too.
-/

namespace Shelfmark
namespace CallNumber
namespace Lc

open Text (IsTrimmed Span leftmost?)

/-! ## Loosely spelled call numbers -/

/-- A word behind a point: it begins with a letter and has no point. -/
structure LooseTail where
  spaces : Nat
  word : Text
  letter : word.head?.any Character.isAlphabetic
  unpointed : '.' ∉ word
  trimmed : IsTrimmed word

/-- Class letters, perhaps set apart from the class number, perhaps a suffix, and perhaps a word
without a joint.  Behind letters that are set apart, the word can be a cutter. -/
structure Loose where
  number : ClassNumber
  letterSpaces : Nat
  suffix : Option Suffix
  tail : Option LooseTail
  single : ∀ t ∈ tail, joints t.word = 0 ∨
    0 < letterSpaces ∧ ∃ cutter : Cutter, t.word = cutter.text

/-- A word behind its point. -/
def LooseTail.text (tail : LooseTail) : Text :=
  Gap.text ⟨tail.spaces, true⟩ ++ tail.word

/-- A loosely spelled call number. -/
def Loose.text (loose : Loose) : Text :=
  loose.number.spaced loose.letterSpaces ++
    (suffixText loose.suffix ++ (loose.tail.map LooseTail.text).getD [])

/-- The call number without spaces behind its letters and in front of its point. -/
def Loose.closed (loose : Loose) : Text :=
  loose.number.text ++ (suffixText (loose.suffix.map Suffix.standard) ++
    (loose.tail.map fun tail => '.' :: tail.word).getD [])

/-- The parts of a loosely spelled call number. -/
def Loose.parts (loose : Loose) : Lc where
  letters := loose.number.letters
  classDigits := some loose.number.digits
  classSuffix := loose.suffix.map Suffix.word
  firstCutter := loose.tail.map LooseTail.word
  firstCutterSuffix := none
  secondCutter := none
  secondCutterSuffix := none

/-! ## Too few joints -/

section Joints

variable {s : Text} (h : joints s ≤ 1)

include h

/-- With one joint there is no cutter behind a class number. -/
theorem firstCutter?_eq_none_of_joints : firstCutter? s = none := by
  rw [Option.eq_none_iff_forall_ne_some]
  intro span hspan
  have hbehind := (behind_of_firstCutter? hspan).2.joints_le
  omega

/-- With one joint nothing is found behind a first cutter. -/
theorem cutterSuffix?_eq_none_of_joints : cutterSuffix? s = none ∧ secondCutter? s = none := by
  have hword : wordBehindCutter? s = none := by
    rw [wordBehindCutter?, behindFirstCutter?_eq_map, firstCutter?_eq_none_of_joints h]
    rfl
  have htext : textBeforePointedCutter? s = none := by
    rw [Option.eq_none_iff_forall_ne_some]
    intro span hspan
    have hbehind := (behind_of_textBeforePointedCutter? hspan).1.joints_le
    omega
  constructor
  · simp only [cutterSuffix?, hword, htext, Option.bind_none]
  · rw [Option.eq_none_iff_forall_ne_some]
    intro span hspan
    have hbehind := (behind_of_secondCutter? hspan).2.joints_le
    omega

end Joints

/-! ## Words -/

/-- The word behind the last point is taken for the cutter. -/
theorem makeshiftCutter?_word (tail : LooseTail) (front : Text) :
    makeshiftCutter? (front ++ tail.text) = some ⟨tail.word, []⟩ := by
  have hpoint : Text.afterLast? '.' (front ++ tail.text) = some tail.word := by
    have hsplit : front ++ tail.text =
        (front ++ List.replicate tail.spaces ' ') ++ '.' :: tail.word := by
      simp [LooseTail.text, Gap.text, Gap.pointText]
    rw [hsplit]
    exact Text.afterLast?_append_cons _ tail.unpointed
  rw [makeshiftCutter?, hpoint, Option.some_or, Option.map_some, tail.trimmed.trim_eq,
    Option.bind_some, if_pos tail.letter]

/-- With one joint the word is the only cutter. -/
theorem ofUpper_word (number : ClassNumber) (n : Nat) (suffix : Option Suffix) (tail : LooseTail)
    (h : joints (number.spaced n ++ (suffixText suffix ++ tail.text)) ≤ 1) :
    ofUpper (number.spaced n ++ (suffixText suffix ++ tail.text)) =
      { letters := number.letters
        classDigits := some number.digits
        classSuffix := suffix.map Suffix.word
        firstCutter := some tail.word
        firstCutterSuffix := none
        secondCutter := none
        secondCutterSuffix := none } := by
  have hleading : leadingCutter? (number.spaced n ++ (suffixText suffix ++ tail.text)) =
      some ⟨tail.word, []⟩ := by
    rw [leadingCutter?, firstCutter?_eq_none_of_joints h, ← List.append_assoc,
      makeshiftCutter?_word]
    rfl
  have hregion : classRegion (number.spaced n ++ (suffixText suffix ++ tail.text))
      (some ⟨tail.word, []⟩) = number.spaced n ++ suffixText suffix :=
    classRegion_spaced number n suffix ⟨tail.spaces, true⟩ tail.word []
  have hword : Span.text ⟨tail.word, []⟩ = tail.word := by
    unfold Span.text
    simpa using Text.before_append tail.word []
  obtain ⟨hsuffix, hsecond⟩ := cutterSuffix?_eq_none_of_joints h
  simp only [ofUpper, leadingLetters, number.takeWhile_spaced, hleading, hregion,
    classDigits?_suffixText, number.behindFirst?_spaced, Option.map_some, Option.bind_some, hsuffix,
    followingCutter?, hsecond, Option.map_none, Option.bind_none, hword, nonempty?_trim_suffixText]

/-! ## The call number -/

/-- The joints of a call number with a word. -/
theorem joints_word (number : ClassNumber) (n : Nat) (suffix : Option Suffix) (tail : LooseTail) :
    joints (number.spaced n ++ (suffixText suffix ++ tail.text)) =
      joints tail.word + if n = 0 then 1 else 0 := by
  have hgap := joints_append tail.word (Gap.isUpper_eq_false ⟨tail.spaces, true⟩)
  have hhead : ∀ c ∈ tail.text.head?, c.isDigit = false := by
    intro c hc
    unfold LooseTail.text Gap.text Gap.pointText at hc
    cases hspaces : tail.spaces with
    | zero =>
      rw [hspaces] at hc
      exact Option.some.inj hc ▸ rfl
    | succ m =>
      rw [hspaces, List.replicate_succ] at hc
      exact Option.some.inj hc ▸ rfl
  rw [number.joints_spaced, joints_append_of_head _ hhead, joints_suffixText, Nat.zero_add,
    LooseTail.text, hgap]

/-- A loosely spelled call number reads as its class and its word. -/
theorem ofUpper_loose (loose : Loose) : ofUpper loose.text = loose.parts := by
  obtain ⟨number, n, suffix, tail, single⟩ := loose
  cases tail with
  | none =>
    have htext : number.spaced n ++ (suffixText suffix ++ []) =
        number.spaced n ++ suffixText suffix := by rw [List.append_nil]
    exact (congrArg ofUpper htext).trans (ofUpper_suffixText number n suffix)
  | some tail =>
    refine ofUpper_word number n suffix tail ?_
    rw [joints_word]
    rcases single tail rfl with hnone | ⟨hspaces, cutter, hcutter⟩
    · split <;> omega
    · have hone := cutter.joints_text []
      rw [List.append_nil, ← hcutter] at hone
      rw [if_neg (by omega), hone]
      rfl

/-- A loosely spelled call number reads so with all its gaps closed. -/
theorem ofUpper_loose_closed (loose : Loose) : ofUpper loose.closed = loose.parts := by
  obtain ⟨number, n, suffix, tail, single⟩ := loose
  cases tail with
  | none =>
    have hclass := ofUpper_suffixText number 0 (suffix.map Suffix.standard)
    rw [word_standard, ← List.append_nil (suffixText _)] at hclass
    exact hclass
  | some tail =>
    rcases single tail rfl with hnone | ⟨-, cutter, hcutter⟩
    · have hword := ofUpper_word number 0 (suffix.map Suffix.standard) { tail with spaces := 0 } (by
        rw [joints_word]
        change joints tail.word + 1 ≤ 1
        omega)
      rw [word_standard] at hword
      exact hword
    · have hone := ofUpper_oneCutter number (setsApart_standard (suffix.map Suffix.standard)) cutter
      rw [word_standard, List.append_nil, ← hcutter] at hone
      exact hone

end Lc
end CallNumber
end Shelfmark
