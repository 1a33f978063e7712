import Shelfmark.Proofs.CallNumber.Lc.Class
import Shelfmark.Proofs.CallNumber.Lc.FirstCutter

/-!
# Call numbers - Class number at the front

A call number that begins with a class number is read with this class number, whatever follows.
Neither search for a first cutter finds one in it: a cutter has a joint of its own, and behind
the last point or space of a class number stands a digit, where no makeshift cutter can begin.
So all of the class number lies in front of the first cutter.

Main results:

- Theorem `length_start_le`: the first cutter begins behind the class number.
- Theorem `exists_classRegion`: the text that describes the class begins with it.
- Theorem `ofUpper_opening`: its letters are read, and its number with what follows it directly.
-/

namespace Shelfmark
namespace CallNumber
namespace Lc

open Text (Span)

namespace ClassNumber

variable (number : ClassNumber) (n : Nat) (t : Text)

/-- A class number begins and ends with characters that are no blanks. -/
theorem isTrimmed_spaced : Text.IsTrimmed (number.spaced n) where
  head c hc := Character.isBlank_of_isUpper (number.head_spaced n [] c (by rwa [List.append_nil]))
  last c hc := by
    have hends := (number.digits_ends.append (List.replicate n ' ')).append number.letters
    exact Character.isBlank_of_isDigit (hends.isDigit c hc)

/-- A class number is not empty. -/
theorem spaced_ne_nil : number.spaced n ≠ [] :=
  List.append_ne_nil_of_left_ne_nil number.ne_nil _

/-! ## The first cutter -/

/-- What stands behind the last point or space is no longer than what follows the class number,
or else begins with a digit of it. -/
theorem behind_spaced {behind : Text}
    (h : behind ∈ (Text.afterLast? '.' (number.spaced n ++ t)).or
      (Text.afterLast? ' ' (number.spaced n ++ t))) :
    behind.length ≤ t.length ∨ ∃ d u, behind = d :: u ∧ d.isDigit = true := by
  have hshort {separator : Char} {rest : Text} (hrest : Text.afterLast? separator t = some rest) :
      rest.length ≤ t.length := by
    obtain ⟨u, rfl, -⟩ := Text.exists_of_afterLast? hrest
    rw [List.length_append, List.length_cons]
    omega
  have hdigit {rest : Text} (hrest : rest ∈ (Text.afterLast? '.' (number.spaced n)).or
      (Text.afterLast? ' ' (number.spaced n))) :
      ∃ d u, rest ++ t = d :: u ∧ d.isDigit = true := by
    have hnone : number.spaced n ++ suffixText none = number.spaced n := List.append_nil _
    rw [← hnone] at hrest
    obtain ⟨d, u, rfl, hd⟩ := number.afterLast?_spaced n none hrest
    exact ⟨d, u ++ t, rfl, hd⟩
  rw [Text.afterLast?_append, Text.afterLast?_append] at h
  rcases Option.or_eq_some_iff.mp h with hpoint | ⟨hpoint, hspace⟩
  · rcases Option.or_eq_some_iff.mp hpoint with hlast | ⟨-, hfirst⟩
    · exact Or.inl (hshort hlast)
    · obtain ⟨rest, hrest, rfl⟩ := Option.map_eq_some_iff.mp hfirst
      exact Or.inr (hdigit (by rw [hrest]; rfl))
  · obtain ⟨-, hnone⟩ := Option.or_eq_none_iff.mp hpoint
    rcases Option.or_eq_some_iff.mp hspace with hlast | ⟨-, hfirst⟩
    · exact Or.inl (hshort hlast)
    · obtain ⟨rest, hrest, rfl⟩ := Option.map_eq_some_iff.mp hfirst
      exact Or.inr (hdigit (by rw [Option.map_eq_none_iff.mp hnone, hrest]; rfl))

/-- A makeshift cutter begins behind the class number. -/
theorem length_start_le_of_makeshiftCutter? {span : Span}
    (h : makeshiftCutter? (number.spaced n ++ t) = some span) : span.start.length ≤ t.length := by
  obtain ⟨text, htext, hletter⟩ := Option.bind_eq_some_iff.mp h
  obtain ⟨behind, hbehind, rfl⟩ := Option.map_eq_some_iff.mp htext
  split at hletter
  · rename_i halpha
    obtain rfl := Option.some.inj hletter
    rcases number.behind_spaced n t hbehind with hle | ⟨d, u, rfl, hd⟩
    · exact (Text.trim_isInfix behind).length_le.trans hle
    · -- A digit is still in front when the text is trimmed, and it is no letter.
      have hblank : ∀ c ∈ some d, Character.isBlank c = false := fun c hc =>
        Option.some.inj hc ▸ Character.isBlank_of_isDigit hd
      have htrim : Text.trim ([d] ++ u) = [d] ++ Text.trimEnd u :=
        Text.trim_append (List.cons_ne_nil d []) hblank hblank u
      rw [List.singleton_append] at htrim
      rw [htrim, List.singleton_append, List.head?_cons, Option.any_some,
        Character.isAlphabetic_of_isDigit hd] at halpha
      contradiction
  · contradiction

/-- The first cutter begins behind the class number. -/
theorem length_start_le {span : Span}
    (h : leadingCutter? (number.spaced n ++ t) = some span) : span.start.length ≤ t.length := by
  rcases Option.or_eq_some_iff.mp h with hfirst | ⟨-, hmakeshift⟩
  · obtain ⟨hstart, hcutter⟩ := exists_of_firstCutter? hfirst
    have hjoints := (behind_of_firstCutter? hfirst).1.joints_le
    rw [number.joints_spaced] at hjoints
    have hle : joints span.start ≤ joints t := by
      split at hjoints <;> omega
    exact (suffix_of_joints_le hstart (List.suffix_append _ t) hcutter hle).length_le
  · exact number.length_start_le_of_makeshiftCutter? n t hmakeshift

/-! ## The class -/

/-- What is cut off behind the class number leaves it as it is. -/
theorem exists_before {rest : Text} (h : rest.length ≤ t.length) :
    ∃ u, (number.spaced n ++ t).before rest = number.spaced n ++ u := by
  refine ⟨t.take (t.length - rest.length), ?_⟩
  rw [Text.before, List.length_append, Nat.add_sub_assoc h, List.take_length_add_append]

/-- Trimming leaves a class number at the front as it is. -/
theorem exists_trim : ∃ u, Text.trim (number.spaced n ++ t) = number.spaced n ++ u :=
  ⟨_, Text.trim_append (number.spaced_ne_nil n) (number.isTrimmed_spaced n).head
    (number.isTrimmed_spaced n).last t⟩

/-- Dropping a point at the end leaves a class number at the front as it is. -/
theorem exists_dropLast? :
    ∃ u, (Text.dropLast? '.' (number.spaced n ++ t)).getD (number.spaced n ++ t) =
      number.spaced n ++ u := by
  unfold Text.dropLast?
  split
  · rename_i hpoint
    have hne : t ≠ [] := by
      rintro rfl
      have hends := (number.digits_ends.append (List.replicate n ' ')).append number.letters
      have hdigit := hends.isDigit '.' (by rwa [List.append_nil] at hpoint)
      contradiction
    exact ⟨t.dropLast, List.dropLast_append_of_ne_nil hne⟩
  · exact ⟨t, rfl⟩

/-- The text that describes the class begins with the class number. -/
theorem exists_classRegion :
    ∃ u, classRegion (number.spaced n ++ t) (leadingCutter? (number.spaced n ++ t)) =
      number.spaced n ++ u := by
  cases hcutter : leadingCutter? (number.spaced n ++ t) with
  | none => exact ⟨t, rfl⟩
  | some span =>
    obtain ⟨u, hbefore⟩ := number.exists_before n t (number.length_start_le n t hcutter)
    obtain ⟨v, htrim⟩ := number.exists_trim n u
    obtain ⟨w, hpoint⟩ := number.exists_dropLast? n v
    simp only [classRegion, hbefore, htrim, hpoint]
    exact number.exists_trim n w

end ClassNumber

/-- A call number that begins with a class number is read with its letters, and with its number
and what follows that directly. -/
theorem ofUpper_opening (number : ClassNumber) (n : Nat) (t : Text) :
    (ofUpper (number.spaced n ++ t)).letters = number.letters ∧
      ∃ u, (ofUpper (number.spaced n ++ t)).classDigits = some (number.digits ++ u) := by
  obtain ⟨u, hregion⟩ := number.exists_classRegion n t
  have hdigits := number.classDigits?_append n u
  rw [← hregion] at hdigits
  exact ⟨number.takeWhile_spaced n t, _, hdigits⟩

end Lc
end CallNumber
end Shelfmark
