import Shelfmark.Proofs.Entry.Written
import Shelfmark.Proofs.ShelfKey.Browsing

/-!
# Shelf keys - Spelling variants

A record keeps a call number in its normal spelling, and its shelf key is built from that.
For regular call numbers this is the key of the call number as it was written: the normal
spelling closes gaps that no part reaches into.

Main results:

- Theorems `lc_congr` and `dewey_congr`: keys in one scheme agree where the parts do.
- Theorem `isLc_normalSpelling`: a Library of Congress number stays one.
- Theorem `key_of_entry`: the key of a regular call number is the key of its entry.
-/

namespace Shelfmark
namespace ShelfKey

open Entry (normalSpelling)
open CallNumber (Dewey Lc)

/-- A call number that the normal spelling brings into another form of the same parts. -/
inductive Regular : Text → Prop
  /-- Only white space around the call number is left out. -/
  | plain {raw : Text} (spelled : normalSpelling raw = raw.trim) : Regular raw
  /-- A Library of Congress number, put into capitals. -/
  | capitals {raw : Text} (spelled : normalSpelling raw = raw.trim.upper)
      (scheme : Scheme.detect raw = .lc) : Regular raw
  /-- A written Library of Congress number with a tidy text behind its last cutter and with
  numbers that have keys. -/
  | lc {raw : Text} (written : Lc.Written) (text : raw.trim.upper = written.text)
      (tidy : ∀ trailer ∈ written.trailer?, Entry.Tidy trailer) (keyed : (lc? raw).isOk) :
      Regular raw
  /-- A loosely spelled Library of Congress number with a tidy word and with numbers that have
  keys. -/
  | loose {raw : Text} (loose : Lc.Loose) (text : raw.trim.upper = loose.text)
      (tidy : ∀ tail ∈ loose.tail, Entry.settle tail.word = tail.word) (keyed : (lc? raw).isOk) :
      Regular raw
  /-- A written Dewey number in capitals with a tidy text behind the gap. -/
  | dewey {raw : Text} (written : Dewey.Written) (text : raw.trim = written.text)
      (capitals : raw.trim.upper = raw.trim)
      (tidy : ∀ tail ∈ written.tail, Entry.TidyBody tail.body) : Regular raw

/-! ## Keys of one scheme -/

/-- Library of Congress numbers with the same parts have the same key, if there is one. -/
theorem lc_congr {a b : Text} (h : Lc.parse a = Lc.parse b) (hkeyed : (lc? a).isOk) :
    lc a = lc b := by
  have hsame := lc?_congr h
  unfold lc
  rw [← hsame]
  cases hkey : lc? a with
  | ok key => rfl
  | error e =>
    rw [hkey] at hkeyed
    exact absurd hkeyed (by simp [Except.isOk, Except.toBool])

/-- Dewey numbers with the same parts have the same key. -/
theorem dewey_congr {a b : Text} {parts : Dewey} (ha : Dewey.parse? a = some parts)
    (hb : Dewey.parse? b = some parts) : dewey a = dewey b := by
  have hsame : dewey? a = dewey? b := by
    simp only [dewey?, ha, hb]
  obtain ⟨n, hkey⟩ := dewey?_of_parse? ha
  unfold dewey
  rw [← hsame, hkey]

/-! ## Schemes of normal spellings -/

/-- A Library of Congress number that begins with a class number stays one in a normal spelling
that begins with it. -/
theorem isLc_normalSpelling {raw t u : Text} {number : Lc.ClassNumber} {n : Nat}
    (hraw : raw.trim.upper = number.spaced n ++ t) (hnormal : normalSpelling raw = number.text ++ u)
    (h : Scheme.isLc raw = true) : Scheme.isLc (normalSpelling raw) = true := by
  have hinitial := Scheme.isLc_upper h
  rw [Scheme.isLc_spaced number n (Text.isTrimmed_trim raw).upper hraw] at hinitial
  rwa [Scheme.isLc_spaced number 0 (Entry.isTrimmed_normalSpelling raw) hnormal]

/-! ## Regular call numbers -/

/-- A key depends on the trimmed call number only. -/
theorem ofCallNumber?_trim (raw : Text) : ofCallNumber? raw.trim = ofCallNumber? raw := by
  have htrim : raw.trim.trim = raw.trim := (Text.isTrimmed_trim raw).trim_eq
  have hscheme : Scheme.detect raw.trim = Scheme.detect raw := by
    unfold Scheme.detect Scheme.isLc Scheme.isDewey
    rw [htrim]
  have hlc : lc raw.trim = lc raw := by
    have hparts : Lc.parse raw.trim = Lc.parse raw := by
      unfold Lc.parse
      rw [htrim]
    unfold lc
    rw [lc?_congr hparts, htrim]
  have hdewey : dewey raw.trim = dewey raw := by
    have hparts : Dewey.parse? raw.trim = Dewey.parse? raw := by
      unfold Dewey.parse?
      rw [htrim]
    unfold dewey dewey?
    rw [hparts, htrim]
    cases Dewey.parse? raw <;> rfl
  unfold ofCallNumber?
  rw [hscheme, hlc, hdewey]

/-- The key of a Library of Congress number. -/
theorem ofCallNumber?_of_isLc {raw : Text} (h : Scheme.isLc raw = true) :
    ofCallNumber? raw = some (lc raw) := by
  have hscheme : Scheme.detect raw = .lc := if_pos h
  unfold ofCallNumber?
  rw [hscheme]

/-- The key of a Dewey number. -/
theorem ofCallNumber?_of_parse? {raw : Text} {parts : Dewey}
    (h : Dewey.parse? raw = some parts) : ofCallNumber? raw = some (dewey raw) := by
  unfold ofCallNumber?
  rw [Dewey.detect_of_parse? h]

/-- Library of Congress numbers with the same parts have the same key, if it is not degraded. -/
theorem ofCallNumber?_congr {a b : Text} (ha : Scheme.isLc a = true) (hb : Scheme.isLc b = true)
    (hparts : Lc.parse b = Lc.parse a) (hkeyed : (lc? a).isOk) :
    ofCallNumber? a = ofCallNumber? b := by
  rw [ofCallNumber?_of_isLc ha, ofCallNumber?_of_isLc hb, lc_congr hparts.symm hkeyed]

/-- A Library of Congress number that the normal spelling puts into capitals keeps its key, even
a degraded one. -/
theorem ofCallNumber?_capitals {raw : Text} (hspelled : normalSpelling raw = raw.trim.upper)
    (hlc : Scheme.isLc raw = true) : ofCallNumber? raw = ofCallNumber? (normalSpelling raw) := by
  have hvalue : Scheme.isLc (normalSpelling raw) = true := by
    rw [hspelled]
    exact Scheme.isLc_upper hlc
  have hupper := Entry.trim_upper_normalSpelling raw
  have hparts : Lc.parse (normalSpelling raw) = Lc.parse raw := by
    unfold Lc.parse
    rw [hupper, hspelled]
  have hsame : lc (normalSpelling raw) = lc raw := by
    unfold lc
    rw [lc?_congr hparts, hupper, hspelled]
  rw [ofCallNumber?_of_isLc hlc, ofCallNumber?_of_isLc hvalue, hsame]

/-- The key of a regular call number is the key of its entry. -/
theorem key_of_entry (tag : Option Text) {raw : Text} (h : Regular raw)
    (hscheme : Scheme.detect raw ≠ .unknown) :
    ofCallNumber? raw = ofCallNumber? (Entry.ofText tag raw).value := by
  change ofCallNumber? raw = ofCallNumber? (normalSpelling raw)
  cases h with
  | plain spelled => rw [spelled, ofCallNumber?_trim]
  | capitals spelled scheme =>
    have hlc : Scheme.isLc raw = true := by
      unfold Scheme.detect at scheme
      split at scheme
      · assumption
      · split at scheme <;> contradiction
    exact ofCallNumber?_capitals spelled hlc
  | lc written text tidy keyed =>
    have hlc : Scheme.isLc raw = true := Scheme.detect_eq_lc hscheme fun c hc =>
      written.number.head_text _ c (by rwa [text] at hc)
    have hvalue := isLc_normalSpelling (n := 0) text (Entry.normalSpelling_written text tidy) hlc
    exact ofCallNumber?_congr hlc hvalue (Entry.parse_normalSpelling text tidy) keyed
  | loose loose text tidy keyed =>
    have hlc : Scheme.isLc raw = true := Scheme.detect_eq_lc hscheme fun c hc =>
      loose.number.head_spaced loose.letterSpaces _ c (by rwa [text] at hc)
    have hvalue := isLc_normalSpelling text (Entry.normalSpelling_loose text tidy) hlc
    exact ofCallNumber?_congr hlc hvalue (Entry.parse_normalSpelling_loose text tidy) keyed
  | dewey written text capitals tidy =>
    have hnormal := Entry.normalSpelling_dewey (capitals.trans text) tidy
    have htrim := (Entry.isTrimmed_normalSpelling raw).trim_eq
    have hraw := Dewey.parse?_text text
    have hvalue := Dewey.parse?_text (htrim.trans hnormal)
    rw [written.parts_closed] at hvalue
    rw [ofCallNumber?_of_parse? hraw, ofCallNumber?_of_parse? hvalue, dewey_congr hraw hvalue]

/-- A call number in small letters, with gaps of several spaces, has the key of its entry. -/
theorem key_of_written_entry :
    ofCallNumber? "qa76.73 1990b  .j38  v.2".toList =
      ofCallNumber? (Entry.ofText none "qa76.73 1990b  .j38  v.2".toList).value := by
  let number : Lc.ClassNumber :=
    ⟨['Q', 'A'], by simp, by simp, by simp, ⟨['7', '6'], by simp, by simp⟩,
      some ⟨['7', '3'], by simp, by simp⟩⟩
  let suffix : Lc.Suffix :=
    ⟨1, Nat.one_pos, ['1', '9', '9', '0', 'B'], rfl, by simp, rfl⟩
  let trailer : Lc.Trailer := ⟨2, ['V', '.', '2'], by simp⟩
  let tail : Lc.WrittenTail :=
    ⟨⟨2, true⟩, ⟨'J', by simp, ['3', '8'], by simp, by simp⟩, .trailer trailer⟩
  let written : Lc.Written := ⟨number, some suffix, some tail, fun t ht => by
    rw [← Option.some.inj ht]
    exact fun _ => Or.inr rfl⟩
  have htidy : Entry.Tidy trailer :=
    ⟨by decide +kernel, fun c hc => Option.some.inj hc ▸ by decide +kernel, fun _ => by simp [trailer]⟩
  have hregular : Regular "qa76.73 1990b  .j38  v.2".toList :=
    .lc written (by decide +kernel) (fun t ht => Option.some.inj ht ▸ htidy) (by decide +kernel)
  exact key_of_entry none hregular (by decide +kernel)

/-- Small letters behind a Dewey cutter are part of the key, and the entry has none. -/
theorem key_of_entry_fails :
    Scheme.detect "813.54 .S64 v.2".toList ≠ .unknown ∧
      ofCallNumber? "813.54 .S64 v.2".toList ≠
        ofCallNumber? (Entry.ofText none "813.54 .S64 v.2".toList).value := by
  decide +kernel

end ShelfKey
end Shelfmark
