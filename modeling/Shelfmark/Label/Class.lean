import Shelfmark.CallNumberSet

/-!
# Labels - The subject of a class

The class letters of a Library of Congress number stand for a subject.  A map
from letters to labels comes in two styles.  A broad map gives one label for
each class with bars between the levels of the hierarchy, such as
`Science|Mathematics` for `QA`.  A detailed map gives a plain label, or a row of
ranges of class numbers, each with its own name and in braces: from, hyphen,
to, equals sign, name.
-/

namespace Shelfmark
namespace Label

/-- Labels by class letters. -/
abbrev LabelMap := List (Text × Text)

/-- What kind of map is in use, and what to take from it. -/
inductive Style where
  /-- Part 0 is the whole hierarchy, part `n` its `n`th level. -/
  | broad (part : Nat)
  /-- Labels with ranges of class numbers. -/
  | detailed
  deriving Repr, DecidableEq

/-! ## Class letters -/

/-- The class letters of a value: one to three capitals that no small letter follows. -/
def classLetters? (value : Text) : Option Text :=
  let letters := value.takeWhile Char.isAlpha
  if letters.isEmpty || decide (3 < letters.length) || !letters.all Char.isUpper then none
  else some letters

/-- The label of a class and the letters under which it was found; a class with three
letters may be found under the first two. -/
def find? (map : LabelMap) (letters : Text) : Option (Text × Text) :=
  match map.lookup letters with
  | some label => some (letters, label)
  | none =>
    if letters.length = 3 then
      (map.lookup (letters.take 2)).map fun label => (letters.take 2, label)
    else none

/-! ## Ranges of class numbers -/

/-- A range of class numbers and its name; the bounds are compared as texts. -/
structure Range where
  /-- The first number of the range. -/
  first : Text
  /-- The last number of the range. -/
  last : Text
  /-- The name of the range. -/
  name : Text
  deriving Repr, DecidableEq

/-- Whether a character ends a bound. -/
def isBoundEnd (c : Char) : Bool :=
  c == '-' || c == '='

/-- Reads a range: two bounds, each up to the next hyphen or equals sign, and the name. -/
def Range.ofText? (s : Text) : Option Range :=
  match s.dropWhile (!isBoundEnd ·) with
  | [] => none
  | _ :: rest =>
    match rest.dropWhile (!isBoundEnd ·) with
    | [] => none
    | _ :: name => some ⟨s.takeWhile (!isBoundEnd ·), rest.takeWhile (!isBoundEnd ·), name⟩

/-- The ranges that a label lists. -/
def ranges (label : Text) : List Range :=
  (Text.pieces '\x7d' (label.filter (· != '\x7b'))).filterMap Range.ofText?

/-- Whether a number of four digits lies in a range. -/
def Range.holds (range : Range) (number : Text) : Bool :=
  (compare range.first number).isLE && (compare number range.last).isLE

/-- A range and its name as they are displayed: the letters with either bound, without the
zeros in front. -/
def Range.text (letters : Text) (range : Range) : Text :=
  let bound (s : Text) : Text := letters ++ s.dropWhile (· == '0')
  bound range.first ++ '-' :: bound range.last ++ " - ".toList ++ range.name

/-- The four digits of the class number that a shelf key holds behind the letters. -/
def keyDigits (key : Text) : Text :=
  (key.drop ShelfKey.letterColumns).take 4

/-! ## Labels -/

/-- Letters and label with a dash between them. -/
def dashed (letters label : Text) : Text :=
  letters ++ " - ".toList ++ label

/-- Whether a label begins with a range of classes of the given letter, as in `QA-QZ - `. -/
def namesClasses (initial : Text) (label : Text) : Bool :=
  match label with
  | a :: b :: '-' :: c :: d :: ' ' :: '-' :: ' ' :: _ =>
    [a] == initial && b.isUpper && [c] == initial && d.isUpper
  | _ => false

/-- The label of a value in a detailed map. -/
def detailed? (letters label value : Text) : Option Text :=
  if label.head? = some '\x7b' then
    match ShelfKey.lc? value with
    | .error _ => none
    | .ok key => ((ranges label).find? (·.holds (keyDigits key))).map (Range.text letters)
  else if namesClasses (letters.take 1) label then some label
  else some (dashed letters label)

/-- The label of a class in a broad map. -/
def broad? (letters label : Text) : Nat → Option Text
  | 0 => some (dashed letters (label.replace '|' " - ".toList))
  | level + 1 => ((Text.pieces '|' label)[level]?).map (dashed (letters.take 1))

/-- The label of the record's best call number, which has to be tagged as Library of
Congress. -/
def ofSet? (set : CallNumberSet) (map : LabelMap) (style : Style) : Option Text := do
  let best ← set.best
  if !best.isTaggedLc then none
  else
    let letters ← classLetters? best.value
    let (found, label) ← find? map letters
    match style with
    | .broad part => broad? found label part
    | .detailed => detailed? found label best.value

end Label
end Shelfmark
