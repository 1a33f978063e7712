import Shelfmark.Proofs.CallNumber.Lc.Reading
import Shelfmark.Proofs.ShelfKey.Component
import Shelfmark.Proofs.ShelfKey.Place
import Shelfmark.Proofs.Text.Bytes
import Shelfmark.ShelfKey.Basic

/-!
# Shelf keys - Keys in shelf order

The keys of printed Library of Congress numbers, compared byte by byte, are in the order
of the places on the shelf.  Each column of a key is equally wide in all keys, so the
first column that differs decides.  Behind the columns of the class a key goes on with a
space or not at all, and behind a space a digit comes before a letter, as a year comes
before a second cutter.

Main results:

- Theorem `lc?_text`: the key of a printed call number.
- Theorem `compare_lcKey`: the keys are in the order of the places.
- Theorem `lc_bytes_in_shelf_order`: the same of the bytes, with equal keys exactly for
  equal places.
-/

namespace Shelfmark
namespace ShelfKey

open CallNumber.Lc (ClassNumber Cutter Digits Ending Gap Printed Tail Year)
open Number (ofDigits scaled)

/-! ## Numbers of limited width -/

/-- The digits of a year and of a second cutter fit into their columns. -/
def EndingFits : Ending → Prop
  | .nothing => True
  | .year y => y.digits.text.length ≤ 6
  | .cutter _ c y =>
    c.digits.text.length ≤ 6 ∧ ∀ year ∈ y, year.digits.text.length ≤ 6

/-- The digits of a call number fit into their columns. -/
structure Fits (printed : Printed) : Prop where
  whole : printed.number.whole.text.length ≤ 4
  fraction : ∀ digits ∈ printed.number.fraction, digits.text.length ≤ 6
  cutter : ∀ tail ∈ printed.tail, tail.cutter.digits.text.length ≤ 6
  ending : ∀ tail ∈ printed.tail, EndingFits tail.ending

/-- At most six digits stand behind the point, whether there is one or not. -/
theorem Fits.length_fraction_le {printed : Printed} (h : Fits printed) :
    ((printed.number.fraction.map Digits.text).getD []).length ≤ 6 := by
  cases hdigits : printed.number.fraction with
  | none => simp
  | some digits => exact h.fraction digits hdigits

/-! ## The key of a printed call number -/

/-- A cutter in a key. -/
def cutterKey (cutter : Cutter) : Text :=
  cutter.letter :: fixed 1 6 (scaled 6 [] cutter.digits.text)

/-- The digits of a year in a key. -/
def yearKey (digits : Digits) : Text :=
  fixed 6 0 (ofDigits digits.text)

/-- The components of a key behind the first cutter. -/
def endingComponents : Ending → List Text
  | .nothing => []
  | .year y => [yearKey y.digits]
  | .cutter _ c y => cutterKey c :: (y.map fun year => yearKey year.digits).toList

/-- The components of a key behind the class. -/
def tailComponents (tail : Option Tail) : List Text :=
  match tail with
  | none => []
  | some tail => cutterKey tail.cutter :: endingComponents tail.ending

/-- The class number in a key. -/
def numberKey (number : ClassNumber) : Text :=
  fixed 4 6 (scaled 6 number.whole.text ((number.fraction.map Digits.text).getD []))

/-- Components with a space in front of each. -/
def spaced (components : List Text) : Text :=
  components.flatMap (' ' :: ·)

/-- The key of a printed call number. -/
def lcKey (printed : Printed) : Text :=
  Text.padEnd letterColumns printed.number.letters ++ numberKey printed.number ++
    spaced (tailComponents printed.tail)

section Components

/-- A class number that fits is written without loss. -/
theorem number_classNumber {printed : Printed} (h : Fits printed) :
    number printed.number.digits lcClassWidth = .ok (numberKey printed.number) := by
  have hwhole := h.whole
  have hwritten := number_decimalText 4 6 printed.number.isDecimal (by omega)
    h.length_fraction_le (by omega)
  exact hwritten

/-- A cutter that fits is written without loss. -/
theorem cutter_text {c : Cutter} (h : c.digits.text.length ≤ 6) :
    cutter c.text cutterPlaces = .ok (cutterKey c) :=
  cutter_eq c.digits.isDigit c.digits.ne_nil 6 c.isUpper h (by omega)

/-- A year that fits is written without loss. -/
theorem suffix_year {digits : Digits} (h : digits.text.length ≤ 6) :
    suffix digits.text = .ok (yearKey digits) :=
  suffix_eq digits.isDigit digits.ne_nil (by omega)

/-- The components of a printed call number are all written. -/
theorem lcComponents_parts {printed : Printed} (h : Fits printed) :
    lcComponents printed.parts = (tailComponents printed.tail).map .ok := by
  unfold lcComponents Printed.parts
  cases htail : printed.tail with
  | none => rfl
  | some tail =>
    have hfirst := cutter_text (h.cutter tail htail)
    have hfits := h.ending tail htail
    simp only [Option.map_some, Option.bind_some, Option.map_none, hfirst, tailComponents]
    cases hcase : tail.ending with
    | nothing => rfl
    | year y =>
      rw [hcase] at hfits
      simp only [Ending.firstSuffix, Ending.second, Ending.secondSuffix, Option.map_some,
        Option.map_none, suffix_year hfits]
      rfl
    | cutter gap c y =>
      rw [hcase] at hfits
      simp only [Ending.firstSuffix, Ending.second, Ending.secondSuffix, Option.map_some,
        Option.map_none, cutter_text hfits.1]
      cases y with
      | none => rfl
      | some year =>
        rw [Option.map_some, Option.map_some, suffix_year (hfits.2 year rfl)]
        rfl

end Components

/-- Components that are all written are collected. -/
theorem mapM_ok (components : List Text) :
    (components.map Except.ok).mapM id = (.ok components : Except KeyError (List Text)) := by
  induction components with
  | nil => rfl
  | cons component components ih =>
    rw [List.map_cons, List.mapM_cons, ih]
    rfl

/-- Each component ends with a digit. -/
theorem endsWithDigit_of_mem (tail : Option Tail) :
    ∀ component ∈ tailComponents tail, Text.EndsWithDigit component := by
  have hcutter (c : Cutter) : Text.EndsWithDigit (cutterKey c) :=
    (endsWithDigit_fixed Nat.one_pos 6 (scaled 6 [] c.digits.text)).cons c.letter
  have hyear (digits : Digits) : Text.EndsWithDigit (yearKey digits) :=
    endsWithDigit_fixed (by omega) 0 (ofDigits digits.text)
  cases tail with
  | none => simp [tailComponents]
  | some tail =>
    refine List.forall_mem_cons.mpr ⟨hcutter tail.cutter, ?_⟩
    cases tail.ending with
    | nothing => simp [endingComponents]
    | year y => simp [endingComponents, hyear]
    | cutter gap c y =>
      refine List.forall_mem_cons.mpr ⟨hcutter c, ?_⟩
      cases y with
      | none => simp
      | some year => simp [hyear]

/-- The first component stands behind a space, and the others follow. -/
theorem spaced_cons (component : Text) (components : List Text) :
    spaced (component :: components) = [' '] ++ (component ++ spaced components) :=
  rfl

/-- Components do not change the end if each ends with a digit. -/
theorem endsWithDigit_spaced {components : List Text} {s : Text} (hs : Text.EndsWithDigit s)
    (h : ∀ component ∈ components, Text.EndsWithDigit component) :
    Text.EndsWithDigit (s ++ spaced components) := by
  induction components generalizing s with
  | nil => simpa [spaced] using hs
  | cons component components ih =>
    have hcomponent := (h component (by simp)).append (s ++ [' '])
    have hrest := ih hcomponent fun x hx => h x (by simp [hx])
    rw [spaced_cons]
    simpa only [List.append_assoc] using hrest

/-- A key ends with a digit. -/
theorem endsWithDigit_lcKey (printed : Printed) : Text.EndsWithDigit (lcKey printed) := by
  have hnumber : Text.EndsWithDigit (numberKey printed.number) :=
    endsWithDigit_fixed (by omega) 6 _
  exact endsWithDigit_spaced (hnumber.append _) (endsWithDigit_of_mem printed.tail)

/-- Nothing is trimmed off a key. -/
theorem trim_lcKey (printed : Printed) : (lcKey printed).trim = lcKey printed := by
  have hhead : ∀ c ∈ (lcKey printed).head?, Character.isBlank c = false := by
    intro c hc
    obtain ⟨letter, letters, hletters⟩ := List.exists_cons_of_ne_nil printed.number.ne_nil
    have hletter : letter = c := by simpa [lcKey, Text.padEnd, hletters] using hc
    exact Character.isBlank_of_isUpper (printed.number.isUpper c (by simp [hletters, hletter]))
  exact Text.trim_eq_self hhead fun c hc =>
    Character.isBlank_of_isDigit ((endsWithDigit_lcKey printed).isDigit c hc)

/-- The key of a printed call number is there. -/
theorem lc?_text {printed : Printed} (h : Fits printed) :
    lc? printed.text = .ok (lcKey printed) := by
  have hnumber : number (printed.parts.classDigits.getD ['0']) lcClassWidth =
      .ok (numberKey printed.number) := number_classNumber h
  simp only [lc?, CallNumber.Lc.parse_text, hnumber, lcComponents_parts h, mapM_ok]
  exact congrArg Except.ok (trim_lcKey printed)

/-- The key of a printed call number. -/
theorem lc_text {printed : Printed} (h : Fits printed) : lc printed.text = lcKey printed := by
  unfold lc
  rw [lc?_text h]

/-! ## The order of keys -/

/-- Behind a space the order goes on. -/
theorem compare_space (s t : Text) : compare ([' '] ++ s) ([' '] ++ t) = compare s t :=
  Text.compare_append_left [' '] s t

/-- The fraction of a cutter that fits is as wide as its column. -/
theorem scaled_cutter_lt {c : Cutter} (h : c.digits.text.length ≤ 6) :
    scaled 6 [] c.digits.text < 10 ^ (1 + 6) :=
  Nat.lt_trans (Number.scaled_lt (by simp) c.digits.isDigit h) (by simp)

/-- Cutters are in the order of their places, whatever follows them. -/
theorem compare_cutterKey {a b : Cutter} (ha : a.digits.text.length ≤ 6)
    (hb : b.digits.text.length ≤ 6) (s t : Text) :
    compare (cutterKey a ++ s) (cutterKey b ++ t) =
      ((cutterPlace a).compare (cutterPlace b)).then (compare s t) := by
  have hfitsa := scaled_cutter_lt ha
  have hfitsb := scaled_cutter_lt hb
  have hlength : (fixed 1 6 (scaled 6 [] a.digits.text)).length =
      (fixed 1 6 (scaled 6 [] b.digits.text)).length := by
    rw [length_fixed (by omega) hfitsa, length_fixed (by omega) hfitsb]
  rw [cutterKey, cutterKey, List.cons_append, List.cons_append, List.compare_cons_cons,
    Text.compare_append hlength, compare_fixed (by omega) hfitsa hfitsb,
    compare_scaled_eq [] [] ha hb, CutterPlace.compare, Ordering.then_assoc]
  rfl

/-- The digits of a year that fits are as wide as their column. -/
theorem ofDigits_year_lt {digits : Digits} (h : digits.text.length ≤ 6) :
    ofDigits digits.text < 10 ^ (6 + 0) :=
  Nat.lt_of_lt_of_le (Number.ofDigits_lt digits.isDigit) (Nat.pow_le_pow_right (by omega) h)

/-- Years are in the order of their values. -/
theorem compare_yearKey {a b : Digits} (ha : a.text.length ≤ 6) (hb : b.text.length ≤ 6) :
    compare (yearKey a) (yearKey b) = compare (ofDigits a.text) (ofDigits b.text) :=
  compare_fixed (by omega) (ofDigits_year_lt ha) (ofDigits_year_lt hb)

/-- A year comes before a second cutter. -/
theorem compare_yearKey_cutterKey (digits : Digits) (cutter : Cutter) (s t : Text) :
    compare (yearKey digits ++ s) (cutterKey cutter ++ t) = .lt := by
  obtain ⟨d, u, hcons, hd⟩ : ∃ d u, yearKey digits = d :: u ∧ d.isDigit = true :=
    fixed_eq_cons (by omega) 0 (ofDigits digits.text)
  have hdigit := Character.isDigit_iff.mp hd
  have hletter := Character.isUpper_iff.mp cutter.isUpper
  have hlt : compare d cutter.letter = .lt := by
    rw [Character.compare_eq]
    exact Nat.compare_eq_lt.mpr (by omega)
  rw [hcons, cutterKey, List.cons_append, List.cons_append, List.compare_cons_cons, hlt]
  rfl

/-- Years that may be absent are in the order of their values. -/
theorem compare_spaced_years {a b : Option Year} (ha : ∀ year ∈ a, year.digits.text.length ≤ 6)
    (hb : ∀ year ∈ b, year.digits.text.length ≤ 6) :
    compare (spaced (a.map fun year => yearKey year.digits).toList)
        (spaced (b.map fun year => yearKey year.digits).toList) =
      absentFirst compare (a.map fun year => ofDigits year.digits.text)
        (b.map fun year => ofDigits year.digits.text) := by
  cases a with
  | none => cases b <;> rfl
  | some y =>
    cases b with
    | none => rfl
    | some z =>
      simp only [Option.map_some, Option.toList_some, spaced_cons, compare_space]
      rw [spaced, List.flatMap_nil, List.append_nil, List.append_nil,
        compare_yearKey (ha y rfl) (hb z rfl)]
      rfl

/-- Endings are in the order of their places. -/
theorem compare_ending {a b : Ending} (ha : EndingFits a) (hb : EndingFits b) :
    compare (spaced (endingComponents a)) (spaced (endingComponents b)) =
      (endingPlace a).compare (endingPlace b) := by
  cases a with
  | nothing => cases b <;> rfl
  | year y =>
    cases b with
    | nothing => rfl
    | year z =>
      exact compare_spaced_years (a := some y) (b := some z) (fun _ h => Option.some.inj h ▸ ha)
        fun _ h => Option.some.inj h ▸ hb
    | cutter gap d z =>
      simp only [endingComponents, spaced_cons, compare_space]
      exact compare_yearKey_cutterKey y.digits d _ _
  | cutter gap c y =>
    cases b with
    | nothing => rfl
    | year z =>
      simp only [endingComponents, spaced_cons, compare_space]
      rw [Std.OrientedOrd.eq_swap, compare_yearKey_cutterKey]
      rfl
    | cutter gap' d z =>
      simp only [endingComponents, spaced_cons, compare_space]
      rw [compare_cutterKey ha.1 hb.1, compare_spaced_years ha.2 hb.2]
      rfl

/-- What stands behind the class is in the order of its places. -/
theorem compare_tail {a b : Printed} (ha : Fits a) (hb : Fits b) :
    compare (spaced (tailComponents a.tail)) (spaced (tailComponents b.tail)) =
      absentFirst compareTails (place a).tail (place b).tail := by
  unfold place
  cases htail : a.tail with
  | none => cases b.tail <;> rfl
  | some tail =>
    cases htail' : b.tail with
    | none => rfl
    | some tail' =>
      simp only [tailComponents, spaced_cons, compare_space]
      rw [compare_cutterKey (ha.cutter tail htail) (hb.cutter tail' htail'),
        compare_ending (ha.ending tail htail) (hb.ending tail' htail')]
      rfl

/-- A class number that fits is as wide as its columns. -/
theorem scaled_number_lt {printed : Printed} (h : Fits printed) :
    scaled 6 printed.number.whole.text ((printed.number.fraction.map Digits.text).getD []) <
      10 ^ (4 + 6) :=
  Nat.lt_of_lt_of_le (Number.scaled_lt printed.number.whole.isDigit
      printed.number.isDecimal.isDigit_fraction h.length_fraction_le)
    (Nat.pow_le_pow_right (by omega) (Nat.add_le_add_right h.whole 6))

/-- Class numbers are equally wide. -/
theorem compare_numberKey {a b : Printed} (ha : Fits a) (hb : Fits b) (s t : Text) :
    compare (numberKey a.number ++ s) (numberKey b.number ++ t) =
      (compare (place a).number (place b).number).then (compare s t) := by
  have hfitsa := scaled_number_lt ha
  have hfitsb := scaled_number_lt hb
  have hlength : (numberKey a.number).length = (numberKey b.number).length := by
    rw [numberKey, numberKey, length_fixed (by omega) hfitsa, length_fixed (by omega) hfitsb]
  rw [Text.compare_append hlength, numberKey, numberKey, compare_fixed (by omega) hfitsa hfitsb,
    compare_scaled_eq _ _ ha.length_fraction_le hb.length_fraction_le]
  rfl

/-- The class letters fill their columns. -/
theorem length_letterColumns (number : ClassNumber) :
    (Text.padEnd letterColumns number.letters).length = letterColumns := by
  have hlength : number.letters.length ≤ letterColumns := Nat.le_succ_of_le number.length_le
  rw [Text.padEnd, List.length_append, List.length_replicate, Nat.add_sub_cancel' hlength]

/-- Keys are in the order of the places. -/
theorem compare_lcKey {a b : Printed} (ha : Fits a) (hb : Fits b) :
    compare (lcKey a) (lcKey b) = (place a).compare (place b) := by
  have hletters {c : Char} (h : c.isUpper) : 32 < c.toNat := by
    have := Character.isUpper_iff.mp h
    omega
  have hwidth (number : ClassNumber) : number.letters.length ≤ letterColumns :=
    Nat.le_succ_of_le number.length_le
  rw [lcKey, lcKey, List.append_assoc, List.append_assoc,
    Text.compare_append ((length_letterColumns a.number).trans (length_letterColumns b.number).symm),
    Text.compare_padEnd (fun c hc => hletters (a.number.isUpper c hc))
      (fun c hc => hletters (b.number.isUpper c hc)) (hwidth a.number) (hwidth b.number),
    compare_numberKey ha hb, compare_tail ha hb]
  rfl

/-- The keys of call numbers whose digits fit are as bytes in the order of the shelf, and
they are equal exactly when the call numbers have the same place. -/
theorem lc_bytes_in_shelf_order (a b : Printed) (ha : Fits a) (hb : Fits b) :
    compare (lc a.text).bytes (lc b.text).bytes = (place a).compare (place b) ∧
      (lc a.text = lc b.text ↔ place a = place b) := by
  have horder : compare (lc a.text) (lc b.text) = (place a).compare (place b) := by
    rw [lc_text ha, lc_text hb, compare_lcKey ha hb]
  constructor
  · rw [Text.compare_bytes, horder]
  · rw [← Place.compare_eq_iff, ← horder, Std.compare_eq_iff_eq]

/-- The number `QA76.9` with a cutter of the letter `A`. -/
def qa76 (digits : Digits) (ending : Ending) : Printed :=
  { number :=
      { letters := ['Q', 'A']
        isUpper := by simp
        ne_nil := by simp
        length_le := by simp
        whole := ⟨['7', '6'], by simp, by simp⟩
        fraction := some ⟨['9'], by simp, by simp⟩ }
    tail := some ⟨⟨1, true⟩, ⟨'A', rfl, digits⟩, ending⟩ }

/-- As a fraction .34 is less than .4, so `A34` comes before `A4`, even with a year. -/
theorem lc_cutter_as_fraction :
    compare (lc "QA76.9 .A34 1990".toList).bytes (lc "QA76.9 .A4".toList).bytes = .lt := by
  let digits : Digits := ⟨['3', '4'], by simp, by simp⟩
  let digits' : Digits := ⟨['4'], by simp, by simp⟩
  let year : Year := ⟨1, Nat.one_pos, ['1', '9', '9', '0'], by simp, by simp⟩
  have ha : Fits (qa76 digits (.year year)) := by
    constructor <;> simp [qa76, digits, EndingFits, year]
  have hb : Fits (qa76 digits' .nothing) := by
    constructor <;> simp [qa76, digits', EndingFits]
  have horder := (lc_bytes_in_shelf_order _ _ ha hb).1
  exact horder.trans (by decide +kernel)

end ShelfKey
end Shelfmark
