import Mathlib.Data.List.Find
import Shelfmark.Label.Class
import Shelfmark.Proofs.CallNumberSet.Recognition
import Shelfmark.Proofs.Cluster.Refinement
import Shelfmark.Proofs.ShelfKey.Opening
import Shelfmark.Proofs.Text.Separator

/-!
# Labels - The range that a class number lies in

A detailed label is a row of ranges, and the first that has the class number gives the name.  The
ranges are compared as texts with four columns of the shelf key.  As the bounds have four digits
like these columns, that is the comparison of the numbers, and what stands behind the point of the
class number does not count.

Main results:

- Theorem `ranges_spelling`: a label that is a row of ranges lists them.
- Theorem `keyDigits_of_lc?`: the columns of the key hold the number in front of the point.
- Theorem `detailed_of_ranges`: the label of a record is that of the first range with its class
  number.
-/

namespace Shelfmark

/-- The value of an entry is read as it is spelled. -/
theorem CallNumber.Lc.parse_of_made {entry : Entry} (h : entry.Made) :
    Lc.parse entry.value = Lc.ofUpper entry.value := by
  rw [Lc.parse, h.isTrimmed.trim_eq, h.inCapitals.upper_eq]

namespace Label

open CallNumber (Lc)
open Number (IsDecimal decimalText ofDigits scaled)

/-! ## Rows of ranges -/

/-- A range without the braces around it. -/
def Range.body (range : Range) : Text :=
  range.first ++ '-' :: range.last ++ '=' :: range.name

/-- A range as it stands in a label. -/
def Range.spelling (range : Range) : Text :=
  '\x7b' :: range.body ++ ['\x7d']

/-- A range with bounds of four digits, and with no braces in its name. -/
structure Range.WellFormed (range : Range) : Prop where
  first_digits : ∀ c ∈ range.first, c.isDigit = true
  first_length : range.first.length = 4
  last_digits : ∀ c ∈ range.last, c.isDigit = true
  last_length : range.last.length = 4
  no_opening : '\x7b' ∉ range.name
  no_closing : '\x7d' ∉ range.name

/-- Digits do not end a bound. -/
theorem not_isBoundEnd {s : Text} (h : ∀ c ∈ s, c.isDigit = true) :
    ∀ c ∈ s, (!isBoundEnd c) = true := by
  intro c hc
  have hdigit := h c hc
  rw [Bool.not_eq_true', isBoundEnd, Bool.or_eq_false_iff]
  constructor <;> rw [beq_eq_false_iff_ne] <;> rintro rfl <;> contradiction

namespace Range.WellFormed

variable {range : Range} (h : range.WellFormed)

include h

/-- A range is read back. -/
theorem ofText?_body : Range.ofText? range.body = some range := by
  have hbody : range.body = range.first ++ '-' :: (range.last ++ '=' :: range.name) := by
    simp [body]
  obtain ⟨htake, hdrop⟩ := Text.takeWhile_run (t := '-' :: (range.last ++ '=' :: range.name))
    (not_isBoundEnd h.first_digits) (by simp [isBoundEnd])
  obtain ⟨htake', hdrop'⟩ := Text.takeWhile_run (t := '=' :: range.name)
    (not_isBoundEnd h.last_digits) (by simp [isBoundEnd])
  rw [ofText?, hbody, hdrop]
  dsimp only
  rw [hdrop']
  dsimp only
  rw [htake, htake']

/-- A sign that is neither a digit nor the end of a bound stands in a range only if it stands in
the name. -/
theorem not_mem_body {sign : Char} (hdigit : sign.isDigit = false) (hends : isBoundEnd sign = false)
    (hname : sign ∉ range.name) : sign ∉ range.body := by
  have hnot {bound : Text} (hbound : ∀ c ∈ bound, c.isDigit = true) : sign ∉ bound := by
    intro hmem
    rw [hbound sign hmem] at hdigit
    contradiction
  rw [isBoundEnd, Bool.or_eq_false_iff, beq_eq_false_iff_ne, beq_eq_false_iff_ne] at hends
  simp [body, hnot h.first_digits, hnot h.last_digits, hname, hends]

/-- A number of four digits lies in a range if it lies between the bounds. -/
theorem holds_iff {number : Text} (hnumber : ∀ c ∈ number, c.isDigit = true)
    (hlength : number.length = 4) :
    range.holds number = true ↔
      ofDigits range.first ≤ ofDigits number ∧ ofDigits number ≤ ofDigits range.last := by
  rw [holds, Number.compare_ofDigits h.first_digits hnumber (h.first_length.trans hlength.symm),
    Number.compare_ofDigits hnumber h.last_digits (hlength.trans h.last_length.symm),
    Bool.and_eq_true, Nat.isLE_compare, Nat.isLE_compare]

end Range.WellFormed

/-- A label that is a row of ranges lists them. -/
theorem ranges_spelling {rs : List Range} (h : ∀ range ∈ rs, range.WellFormed) :
    ranges (rs.flatMap Range.spelling) = rs := by
  unfold ranges
  induction rs with
  | nil => rfl
  | cons range rs ih =>
    have hrange := h range List.mem_cons_self
    have hopening := hrange.not_mem_body (by decide) (by decide) hrange.no_opening
    have hclosing := hrange.not_mem_body (by decide) (by decide) hrange.no_closing
    have hfront : range.spelling.filter (· != '\x7b') = range.body ++ ['\x7d'] := by
      have hself : range.body.filter (· != '\x7b') = range.body := by
        rw [List.filter_eq_self]
        intro c hc
        rw [bne_iff_ne]
        rintro rfl
        exact hopening hc
      rw [Range.spelling, List.cons_append, List.filter_cons_of_neg (by simp), List.filter_append,
        hself]
      rfl
    rw [List.flatMap_cons, List.filter_append, hfront, List.append_assoc, List.singleton_append,
      Text.pieces_append hclosing, List.filterMap_cons, hrange.ofText?_body,
      ih fun other hother => h other (by simp [hother])]

/-! ## The class number in the key -/

/-- A call number with one to three class letters, and a class number of up to four digits in front
of the point and up to six behind it. -/
structure HasClass (value letters whole : Text) (fraction : Option Text) : Prop where
  front : ∃ rest, value = letters ++ rest ∧ ∀ c ∈ rest.head?, c.isUpper = false
  ne_nil : letters ≠ []
  length_le : letters.length ≤ 3
  capitals : ∀ c ∈ letters, c.isUpper = true
  digits : (Lc.parse value).classDigits = some (decimalText whole fraction)
  decimal : IsDecimal whole fraction
  whole_length : whole.length ≤ 4
  fraction_length : (fraction.getD []).length ≤ 6

section HasClass

variable {value letters whole : Text} {fraction : Option Text}
  (h : HasClass value letters whole fraction)

include h

/-- Behind the columns of the letters a key has four digits with the value of those in front of the
point. -/
theorem keyDigits_of_lc? {key : Text} (hletters : (Lc.parse value).letters = letters)
    (hkey : ShelfKey.lc? value = .ok key) :
    (∀ c ∈ keyDigits key, c.isDigit = true) ∧ (keyDigits key).length = 4 ∧
      ofDigits (keyDigits key) = ofDigits whole := by
  obtain ⟨classNumber, hnumber, hprefix⟩ :=
    ShelfKey.prefix_of_lc? (hletters ▸ h.ne_nil) h.digits hkey
  rw [hletters] at hprefix
  have hwhole := h.whole_length
  have hwritten := ShelfKey.number_decimalText 4 6 h.decimal (by omega) h.fraction_length (by omega)
  obtain rfl := Except.ok.inj (hwritten.symm.trans hnumber)
  have hfits : scaled 6 whole (fraction.getD []) < 10 ^ (4 + 6) :=
    calc scaled 6 whole (fraction.getD [])
        < 10 ^ (whole.length + 6) :=
          Number.scaled_lt h.decimal.isDigit_whole h.decimal.isDigit_fraction h.fraction_length
      _ ≤ 10 ^ (4 + 6) := Nat.pow_le_pow_right (by omega) (by omega)
  obtain ⟨rest, rfl⟩ := hprefix
  have hcolumns : (letters.padEnd ShelfKey.letterColumns).length = ShelfKey.letterColumns := by
    have hlength := h.length_le
    simp only [Text.padEnd, ShelfKey.letterColumns, List.length_append, List.length_replicate]
    omega
  have hdigits := ShelfKey.length_whole (by omega) hfits
  have hkeyDigits : keyDigits (letters.padEnd ShelfKey.letterColumns ++
      ShelfKey.fixed 4 6 (scaled 6 whole (fraction.getD [])) ++ rest) =
      Text.padZeros 4
        (Number.FixedPoint.ofScaled (scaled 6 whole (fraction.getD [])) 6).whole := by
    rw [keyDigits, List.append_assoc, List.drop_left' hcolumns, ShelfKey.fixed, List.append_assoc,
      List.take_left' hdigits]
  rw [hkeyDigits]
  refine ⟨?_, hdigits, ?_⟩
  · apply Number.isDigit_of_mem_padZeros
    exact (Number.FixedPoint.isDigit_of_mem _ 6).1
  · rw [Number.ofDigits_padZeros, Number.FixedPoint.ofDigits_whole,
      Number.scaled_div whole h.decimal.isDigit_fraction h.fraction_length]

end HasClass

/-! ## The label of a record -/

/-- A label stands under the letters, or under the first two of three that have none. -/
inductive FoundUnder (map : LabelMap) (letters : Text) : Text → Text → Prop
  | all {label : Text} (h : map.lookup letters = some label) : FoundUnder map letters letters label
  | firstTwo {label : Text} (hnone : map.lookup letters = none) (hlength : letters.length = 3)
      (h : map.lookup (letters.take 2) = some label) :
      FoundUnder map letters (letters.take 2) label

/-- The label that stands under the letters is found. -/
theorem FoundUnder.find?_eq {map : LabelMap} {letters found label : Text}
    (h : FoundUnder map letters found label) : find? map letters = some (found, label) := by
  cases h with
  | all h => rw [find?, h]
  | firstTwo hnone hlength h => rw [find?, hnone, if_pos hlength, h]; rfl

/-- The leading letters of a call number in capitals are its class letters. -/
theorem HasClass.classLetters?_eq {value letters whole : Text} {fraction : Option Text}
    (h : HasClass value letters whole fraction) (hcapitals : Text.InCapitals value) :
    classLetters? value = some letters := by
  obtain ⟨rest, rfl, hrest⟩ := h.front
  have hletters : ∀ c ∈ letters, c.isAlpha = true :=
    fun c hc => Bool.or_eq_true_iff.mpr (Or.inl (h.capitals c hc))
  have hother : ∀ c ∈ rest.head?, c.isAlpha = false := by
    intro c hc
    have hself := hcapitals c (List.mem_append_right _ (List.mem_of_head? hc))
    exact Bool.or_eq_false_iff.mpr ⟨hrest c hc, Character.isLower_of_upper_eq hself⟩
  have hlength : ¬ 3 < letters.length := Nat.not_lt.mpr h.length_le
  have hall : letters.all Char.isUpper = true := List.all_eq_true.mpr h.capitals
  rw [classLetters?, (Text.takeWhile_run hletters hother).1]
  simp [h.ne_nil, hlength, hall]

/-- The detailed label of a record.  Its best call number is tagged as Library of Congress and has
a class with a shelf key, and under its letters stands a row of ranges.  Then the label is that of
the first range with the number in front of the point between its bounds, and there is none if no
range has the number. -/
theorem detailed_of_ranges {reader : FieldReader} {options : Options} {map : LabelMap}
    {best : Entry} {letters whole found label : Text} {fraction : Option Text} {rs : List Range}
    (hbest : best ∈ (CallNumberSet.ofReader reader options).best)
    (htagged : best.isTaggedLc = true) (hclass : HasClass best.value letters whole fraction)
    (hkey : ∃ key, ShelfKey.lc? best.value = .ok key)
    (hfound : FoundUnder map letters found label) (hlabel : label = rs.flatMap Range.spelling)
    (hne : rs ≠ []) (hranges : ∀ range ∈ rs, range.WellFormed) :
    ofSet? (CallNumberSet.ofReader reader options) map .detailed =
      (rs.find? fun range =>
        decide (ofDigits range.first ≤ ofDigits whole ∧ ofDigits whole ≤ ofDigits range.last)).map
      fun range => (found ++ range.first.dropWhile (· == '0')) ++
        '-' :: (found ++ range.last.dropWhile (· == '0')) ++ " - ".toList ++ range.name := by
  have hmade := CallNumberSet.made_best hbest
  have hletters : (Lc.parse best.value).letters = letters := by
    obtain ⟨rest, hvalue, hrest⟩ := hclass.front
    rw [CallNumber.Lc.parse_of_made hmade, hvalue]
    exact (Text.takeWhile_run hclass.capitals hrest).1
  obtain ⟨key, hkey⟩ := hkey
  obtain ⟨hdigits, hlength, hvalue⟩ := keyDigits_of_lc? hclass hletters hkey
  have hopens : label.head? = some '\x7b' := by
    obtain ⟨range, rest, rfl⟩ := List.exists_cons_of_ne_nil hne
    rw [hlabel]
    rfl
  have hholds : rs.find? (·.holds (keyDigits key)) = rs.find? fun range =>
      decide (ofDigits range.first ≤ ofDigits whole ∧ ofDigits whole ≤ ofDigits range.last) := by
    apply List.find?_congr
    intro range hrange
    rw [Bool.eq_iff_iff, (hranges range hrange).holds_iff hdigits hlength, hvalue,
      decide_eq_true_iff]
  have hread : detailed? found label best.value =
      ((ranges label).find? (·.holds (keyDigits key))).map (Range.text found) := by
    rw [detailed?, if_pos hopens, hkey]
  have hset : ofSet? (CallNumberSet.ofReader reader options) map .detailed =
      detailed? found label best.value := by
    simp [ofSet?, Option.mem_def.mp hbest, htagged, hclass.classLetters?_eq hmade.inCapitals,
      hfound.find?_eq]
  rw [hset, hread, hlabel, ranges_spelling hranges, hholds]
  rfl

/-- A record with one call number, from computer science. -/
def computerScience : Record :=
  ({} : Record).withField "999wa':'".toList ["LC:QA76.73 .J38".toList]

/-- Two ranges of the class of computer science. -/
def mathematics : List Range :=
  [⟨"0001".toList, "0043".toList, "General".toList⟩,
    ⟨"0075".toList, "0099".toList, "Computer science".toList⟩]

/-- Computer science is labelled with the second range of its class. -/
theorem computerScience_labelled :
    let set := CallNumberSet.ofReader computerScience.reader {}
    let best : Entry := ⟨some "LC".toList, "QA76.73.J38".toList⟩
    let map : LabelMap := [("QA".toList, mathematics.flatMap Range.spelling)]
    best ∈ set.best ∧ best.isTaggedLc = true ∧
      HasClass best.value "QA".toList "76".toList (some "73".toList) ∧
      (∃ key, ShelfKey.lc? best.value = .ok key) ∧
      FoundUnder map "QA".toList "QA".toList (mathematics.flatMap Range.spelling) ∧
      mathematics ≠ [] ∧ (∀ range ∈ mathematics, range.WellFormed) ∧
      ofSet? set map .detailed = some "QA75-QA99 - Computer science".toList := by
  intro set best map
  have hbest : best ∈ set.best := by decide +kernel
  have htagged : best.isTaggedLc = true := rfl
  have hclass : HasClass best.value "QA".toList "76".toList (some "73".toList) :=
    { front := ⟨"76.73.J38".toList, rfl, fun c hc => Option.some.inj hc ▸ rfl⟩
      ne_nil := by decide
      length_le := by decide
      capitals := List.all_eq_true.mp (by decide)
      digits := by decide +kernel
      decimal := ⟨List.all_eq_true.mp (by decide), List.all_eq_true.mp (by decide), by decide⟩
      whole_length := by decide
      fraction_length := by decide }
  have hkey : ∃ key, ShelfKey.lc? best.value = .ok key :=
    ⟨"QA  0076.730000 J0.380000".toList, by decide +kernel⟩
  have hfound : FoundUnder map "QA".toList "QA".toList (mathematics.flatMap Range.spelling) :=
    .all rfl
  have hranges : ∀ range ∈ mathematics, range.WellFormed := by
    have hdigits {bound : Text} (h : bound.all Char.isDigit = true) :
        ∀ c ∈ bound, c.isDigit = true := List.all_eq_true.mp h
    intro range hrange
    rcases List.mem_pair.mp hrange with rfl | rfl
    · exact ⟨hdigits rfl, rfl, hdigits rfl, rfl, by decide, by decide⟩
    · exact ⟨hdigits rfl, rfl, hdigits rfl, rfl, by decide, by decide⟩
  have hlabel := detailed_of_ranges hbest htagged hclass hkey hfound rfl (by decide) hranges
  refine ⟨hbest, htagged, hclass, hkey, hfound, by decide, hranges, hlabel.trans ?_⟩
  decide +kernel

end Label
end Shelfmark
