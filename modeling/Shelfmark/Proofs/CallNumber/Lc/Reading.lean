import Shelfmark.Proofs.CallNumber.Lc.Spacing

/-!
# Call numbers - Reading a printed LC number

What is printed from parts reads as these parts.  A printed number is a written one with
nothing, a year or a second cutter behind its first cutter, so that each case has been read
already.

Main results:

- Theorem `ofUpper_text`: a printed call number in capitals is read into the parts it has.
- Theorem `parse_text`: a printed call number needs no trimming and no capitals to be read.
-/

namespace Shelfmark
namespace CallNumber
namespace Lc

/-! ## The parts -/

/-- The year that directly follows the first cutter. -/
def Ending.firstSuffix : Ending → Option Text
  | year y => some y.digits.text
  | _ => none

/-- The second cutter as it is printed. -/
def Ending.second : Ending → Option Text
  | cutter _ c _ => some c.text
  | _ => none

/-- The year behind the second cutter. -/
def Ending.secondSuffix : Ending → Option Text
  | cutter _ _ y => y.map fun year => year.digits.text
  | _ => none

/-- The parts of a printed call number. -/
def Printed.parts (printed : Printed) : Lc :=
  { letters := printed.number.letters
    classDigits := some printed.number.digits
    classSuffix := none
    firstCutter := printed.tail.map fun tail => tail.cutter.text
    firstCutterSuffix := printed.tail.bind fun tail => tail.ending.firstSuffix
    secondCutter := printed.tail.bind fun tail => tail.ending.second
    secondCutterSuffix := printed.tail.bind fun tail => tail.ending.secondSuffix }

/-! ## The call number -/

/-- A year is a suffix. -/
def Year.suffix (year : Year) : Suffix where
  spaces := year.spaces
  spaces_pos := year.spaces_pos
  word := year.digits.text
  digit := by simpa using year.digits.head?_any []
  capitalOrDigit c hc := Or.inr (year.digits.isDigit c hc)
  unjointed := by
    have hjoints := year.digits.joints_append []
    rwa [List.append_nil] at hjoints

/-- A year as the text behind a last cutter. -/
def Trailer.ofYear : Option Year → Trailer
  | none => ⟨0, [], by simp⟩
  | some year => ⟨year.spaces, year.digits.text, fun c hc => by
      refine ⟨(year.digits.head_append [] c (by rwa [List.append_nil])).2.1, fun h => ?_⟩
      exact absurd h (Nat.ne_of_gt year.spaces_pos)⟩

/-- A year is a text without a point, which reads as its digits. -/
theorem Trailer.ofYear_spec (year : Option Year) : (ofYear year).text = yearText year ∧
    Unpointed (ofYear year).rest ∧
      (ofYear year).rest.trim.nonempty? = year.map fun y => y.digits.text := by
  cases year with
  | none => exact ⟨rfl, unpointed_of_not_mem (by simp [ofYear]), rfl⟩
  | some year =>
    refine ⟨rfl, unpointed_of_not_mem (year.digits.not_mem rfl), ?_⟩
    change year.digits.text.trim.nonempty? = some year.digits.text
    rw [year.digits.trim]
    exact Text.nonempty?_of_ne_nil year.digits.ne_nil

/-- A printed call number is read into the parts it has. -/
theorem ofUpper_text (printed : Printed) : ofUpper printed.text = printed.parts := by
  obtain ⟨number, tail⟩ := printed
  cases tail with
  | none => exact ofUpper_suffixText number 0 none
  | some tail =>
    obtain ⟨gap, cutter, ending⟩ := tail
    have hapart : gap.SetsApart none := fun h => absurd h (by simp)
    cases ending with
    | nothing => exact ofUpper_oneCutter number hapart cutter
    | year y => exact ofUpper_cutterSuffix number hapart cutter y.suffix
    | cutter gap' cutter' y =>
      obtain ⟨htext, hunpointed, hyear⟩ := Trailer.ofYear_spec y
      have htwo := ofUpper_twoCutters number hapart cutter gap' cutter' (.ofYear y) hunpointed
      rw [htext, hyear] at htwo
      exact htwo

/-! ## White space and case -/

/-- A printed call number is read into the parts it has. -/
theorem parse_text (printed : Printed) : parse printed.text = printed.parts := by
  have hhead : ∀ c ∈ printed.text.head?, Character.isBlank c = false := fun c hc =>
    Character.isBlank_of_isUpper (printed.number.head_text _ c hc)
  have hlast : ∀ c ∈ printed.text.getLast?, Character.isBlank c = false := fun c hc =>
    Character.isBlank_of_isDigit (printed.ends.isDigit c hc)
  have hupper : Text.upper printed.text = printed.text := by
    refine Text.upper_eq_self fun c hc => ?_
    have hsmall : c.toNat < 97 := (printed.isPrinted c hc).toNat_lt
    exact ⟨by omega, Character.isLower_eq_false hsmall⟩
  rw [parse, Text.trim_eq_self hhead hlast, hupper, ofUpper_text]

end Lc
end CallNumber
end Shelfmark
