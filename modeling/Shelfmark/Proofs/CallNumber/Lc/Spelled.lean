import Shelfmark.Proofs.CallNumber.Lc.Reading

/-!
# Call numbers - Spellings of a printed LC number

A call number on a card or in a record is the printed one up to case, with white space
around it.  Neither keeps it from being read: the white space is dropped, and letters of
any case become the capitals of the printed number.

Main results:

- Theorem `Spells.trim_upper`: trimmed and put into capitals, a spelling is the printed
  call number again.
- Theorem `parse_spelled`: from a spelling of a class number with a cutter, the parts are
  read that it was printed from, whatever ends it.
-/

namespace Shelfmark
namespace CallNumber
namespace Lc

/-! ## Spellings -/

/-- A text spells another: it is the same up to the case of its letters, with blanks around
it. -/
def Spells (raw text : Text) : Prop :=
  ∃ front spelling back, raw = front ++ (spelling ++ back) ∧
    (∀ c ∈ front, Character.isBlank c = true) ∧ (∀ c ∈ back, Character.isBlank c = true) ∧
      spelling.map Char.toUpper = text

/-- A character whose capital is no blank is no blank. -/
theorem isBlank_of_toUpper {c : Char} (h : Character.isBlank c.toUpper = false) :
    Character.isBlank c = false := by
  cases hlower : c.isLower with
  | false => rwa [Character.toUpper_eq_self hlower] at h
  | true =>
    have hrange := Character.isLower_iff.mp hlower
    exact Character.isBlank_eq_false (by omega) (by omega)

/-- A character whose capital is printed has this capital as its uppercase form. -/
theorem IsPrinted.upper_eq {c : Char} (h : IsPrinted c.toUpper) :
    Character.upper c = [c.toUpper] := by
  refine if_pos ?_
  cases hlower : c.isLower with
  | false =>
    have hprinted := h.toNat_lt
    rw [Character.toUpper_eq_self hlower] at hprinted
    omega
  | true =>
    have hrange := Character.isLower_iff.mp hlower
    omega

/-- What is printed has characters. -/
theorem Printed.text_ne_nil (printed : Printed) : printed.text ≠ [] := by
  obtain ⟨t, d, htext, -⟩ := printed.ends
  simp [htext]

/-- Trimmed and put into capitals, a spelling of a printed call number is this number. -/
theorem Spells.trim_upper {printed : Printed} {raw : Text} (h : Spells raw printed.text) :
    raw.trim.upper = printed.text := by
  obtain ⟨front, spelling, back, rfl, hfront, hback, hspelling⟩ := h
  have hne : spelling ≠ [] := by
    rintro rfl
    exact printed.text_ne_nil hspelling.symm
  -- Case does not turn a blank into another character, so the capitals tell the ends.
  have hhead : ∀ c ∈ spelling.head?, Character.isBlank c = false := fun c hc => by
    refine isBlank_of_toUpper (Character.isBlank_of_isUpper ?_)
    have hcapital : c.toUpper ∈ printed.text.head? := by
      rw [← hspelling, List.head?_map, Option.mem_def.mp hc]
      rfl
    exact printed.number.head_text _ _ hcapital
  have hlast : ∀ c ∈ spelling.getLast?, Character.isBlank c = false := fun c hc => by
    refine isBlank_of_toUpper (Character.isBlank_of_isDigit (printed.ends.isDigit _ ?_))
    rw [← hspelling, List.getLast?_map, Option.mem_def.mp hc]
    rfl
  have hupper : ∀ c ∈ spelling, Character.upper c = [c.toUpper] := fun c hc => by
    refine IsPrinted.upper_eq (printed.isPrinted _ ?_)
    rw [← hspelling]
    exact List.mem_map_of_mem hc
  rw [Text.trim_append_append hfront hback hne hhead hlast, Text.upper_eq_map hupper,
    hspelling]

/-- A spelling of a printed call number is read into the parts of this number. -/
theorem Spells.parse_eq {printed : Printed} {raw : Text} (h : Spells raw printed.text) :
    parse raw = printed.parts := by
  rw [parse, h.trim_upper, ofUpper_text]

/-! ## One or two cutters -/

/-- The parts of a class number with a first cutter and nothing else. -/
def ClassNumber.withCutter (number : ClassNumber) (cutter : Cutter) : Lc where
  letters := number.letters
  classDigits := some number.digits
  classSuffix := none
  firstCutter := some cutter.text
  firstCutterSuffix := none
  secondCutter := none
  secondCutterSuffix := none

/-- From a class number with a cutter, in any case and with any white space around it, the
letters, the number and the cutter are read, without a class suffix; and behind them what
ends the call number: nothing, a year, a second cutter, or a second cutter with a year. -/
theorem parse_spelled (number : ClassNumber) (gap : Gap) (cutter : Cutter) (ending : Ending)
    {raw : Text} (h : Spells raw (number.text ++ (gap.text ++ (cutter.text ++ ending.text)))) :
    parse raw =
      match ending with
      | .nothing => number.withCutter cutter
      | .year year => { number.withCutter cutter with firstCutterSuffix := some year.digits.text }
      | .cutter _ second none => { number.withCutter cutter with secondCutter := some second.text }
      | .cutter _ second (some year) =>
        { number.withCutter cutter with
          secondCutter := some second.text
          secondCutterSuffix := some year.digits.text } := by
  have hparts : parse raw = Printed.parts ⟨number, some ⟨gap, cutter, ending⟩⟩ := Spells.parse_eq h
  rw [hparts]
  cases ending with
  | nothing => rfl
  | year year => rfl
  | cutter gap' second year =>
    cases year with
    | none => rfl
    | some year => rfl

/-- Small letters, a tab and a line break around the number, and gaps of every kind. -/
theorem parse_smallLetters :
    parse "\t qa76.73  .a3b4 1990\n".toList =
      { letters := "QA".toList
        classDigits := some "76.73".toList
        classSuffix := none
        firstCutter := some "A3".toList
        firstCutterSuffix := none
        secondCutter := some "B4".toList
        secondCutterSuffix := some "1990".toList } :=
  parse_spelled
    ⟨"QA".toList, by simp, by simp, by simp, ⟨"76".toList, by simp, by simp⟩,
      some ⟨"73".toList, by simp, by simp⟩⟩
    ⟨2, true⟩ ⟨'A', by decide, ⟨"3".toList, by simp, by simp⟩⟩
    (.cutter ⟨0, false⟩ ⟨'B', by decide, ⟨"4".toList, by simp, by simp⟩⟩
      (some ⟨1, by decide, ⟨"1990".toList, by simp, by simp⟩⟩))
    ⟨"\t ".toList, "qa76.73  .a3b4 1990".toList, "\n".toList, rfl,
      List.all_eq_true.mp (by decide), List.all_eq_true.mp (by decide), by decide⟩

end Lc
end CallNumber
end Shelfmark
