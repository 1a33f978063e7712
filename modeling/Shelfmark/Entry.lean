import Shelfmark.CallNumber.Scheme
import Shelfmark.NaturalOrder

/-!
# Entries

An entry is a call number as a record carries it: perhaps with the tag of its
scheme, and with its spelling brought into one form, so that differences of
case and spacing disappear.  Entries are compared in the normed order of what
is displayed, tag included; two entries may be equal and yet spelled
differently.
-/

namespace Shelfmark

/-- A call number as it was read from a record. -/
structure RawCallNumber where
  /-- The call number as it is written. -/
  text : Text
  /-- The name of its scheme, if the record gives one. -/
  tag : Option Text
  /-- The position among the call numbers of the record. -/
  ordinal : Nat
  deriving Repr, DecidableEq

/-- A call number in the spelling that is displayed, and the tag of its scheme. -/
structure Entry where
  /-- The tag of the scheme; an empty tag is none. -/
  tag : Option Text
  /-- The call number in its normal spelling. -/
  value : Text
  deriving Repr, DecidableEq

namespace Entry

/-! ## Spelling -/

/-- Replaces every run of two or more blanks by one space; a blank on its own stays. -/
def collapseBlanks : Text → Text
  | [] => []
  | c :: s =>
    let rest := collapseBlanks s
    if Character.isBlank c && s.head?.any Character.isBlank then ' ' :: rest.drop 1
    else c :: rest

/-- Removes one blank on either side of every period; the flag says whether the character in
front was a period. -/
def closePeriodsFrom (afterPeriod : Bool) : Text → Text
  | [] => []
  | c :: s =>
    if Character.isBlank c && (afterPeriod || s.head? == some '.') then closePeriodsFrom false s
    else c :: closePeriodsFrom (c == '.') s

/-- Removes one blank on either side of every period. -/
def closePeriods (s : Text) : Text :=
  closePeriodsFrom false s

/-- Removes the space between one to three class letters at the front and a digit. -/
def closeClassGap (s : Text) : Text :=
  let letters := s.takeWhile Char.isUpper
  match s.dropWhile Char.isUpper with
  | ' ' :: rest =>
    if 1 ≤ letters.length ∧ letters.length ≤ 3 ∧ Scheme.startsWithDigit rest then
      letters ++ rest
    else s
  | _ => s

/-- The normal spelling: capitals, without white space around it or doubled inside it, none
beside a period, and none between class letters and number. -/
def normalSpelling (raw : Text) : Text :=
  closeClassGap (closePeriods (collapseBlanks raw.trim.upper))

/-! ## Making entries -/

/-- An entry with a given spelling. -/
def withValue (tag : Option Text) (value : Text) : Entry :=
  ⟨tag.bind Text.nonempty?, value⟩

/-- The entry for a call number in any spelling. -/
def ofText (tag : Option Text) (raw : Text) : Entry :=
  withValue tag (normalSpelling raw)

/-- The entry for a call number of a record. -/
def ofRaw (raw : RawCallNumber) : Entry :=
  ofText raw.tag raw.text

/-- Whether a character is kept when an entry is cleaned. -/
def isPlain (c : Char) : Bool :=
  c.isAlphanum || c == '.'

/-- The same entry with everything but letters, digits and periods turned into single
spaces. -/
def cleaned (entry : Entry) : Entry :=
  let plain := entry.value.trim.map fun c => if isPlain c then c else ' '
  withValue entry.tag (closePeriods (collapseBlanks plain)).trim

/-! ## Scheme -/

/-- The scheme that the value is shaped like. -/
def scheme (entry : Entry) : Scheme :=
  .detect entry.value

/-- Whether the entry is tagged as a Library of Congress number. -/
def isTaggedLc (entry : Entry) : Bool :=
  entry.tag == some Scheme.lc.label

/-- Whether the entry counts as a Library of Congress number: by its tag, or without one by
its shape. -/
def isLc (entry : Entry) : Bool :=
  if entry.tag.isSome then entry.isTaggedLc else Scheme.isLc entry.value

/-! ## Display and order -/

/-- The tag, a colon and the value; the value alone if there is no tag. -/
def display (entry : Entry) : Text :=
  match entry.tag with
  | some tag => tag ++ ':' :: entry.value
  | none => entry.value

/-- The beginning of the value in capitals, by which entries are grouped. -/
def clusterKey (entry : Entry) (length : Nat) : Text :=
  Text.upper (entry.value.take length)

/-- The normed order of what is displayed. -/
def compare (a b : Entry) : Ordering :=
  NaturalOrder.normed a.display b.display

/-- Whether two entries are the same call number with the same tag, whatever their
spelling. -/
def same (a b : Entry) : Bool :=
  (compare a b).isEq

end Entry
end Shelfmark
