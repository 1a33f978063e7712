import Shelfmark.CallNumber.Lc.Shape
import Shelfmark.Character.Letter

/-!
# Call numbers - Parts of an LC number

A Library of Congress number reads as class letters, a class number, perhaps a
class suffix, and up to two cutters, each with optional text behind it:
`M211 .M93 K.240 1988` is the class `M 211`, the cutter `M93` and the suffix
`K.240 1988`.

Reading never fails.  A part that cannot be found is absent, and a first cutter
that is not well formed is still found when it follows the last point or the
last space.
-/

namespace Shelfmark
namespace CallNumber

/-- The parts of a Library of Congress call number, in capitals. -/
structure Lc where
  /-- The class letters, empty if the call number does not begin with a letter. -/
  letters : Text
  /-- The class number. -/
  classDigits : Option Text
  /-- The text between class number and first cutter. -/
  classSuffix : Option Text
  /-- The first cutter. -/
  firstCutter : Option Text
  /-- The text between the cutters, or behind the only one. -/
  firstCutterSuffix : Option Text
  /-- The second cutter. -/
  secondCutter : Option Text
  /-- The text behind the second cutter. -/
  secondCutterSuffix : Option Text
  deriving Repr, DecidableEq

namespace Lc

open Text (Span leftmost?)

/-- The capital letters at the front. -/
def leadingLetters (s : Text) : Text :=
  s.takeWhile Char.isUpper

/-! ## The class -/

/-- Whether a character separates the class letters from what follows. -/
def isClassSeparator (c : Char) : Bool :=
  c.isUpper || c == ' '

/-- The class number: the text between the first and the second run of capitals and spaces. -/
def classDigits? (region : Text) : Option Text :=
  let behind := (region.dropWhile (!isClassSeparator ·)).dropWhile isClassSeparator
  (Text.trim (behind.takeWhile (!isClassSeparator ·))).nonempty?

/-- The text behind the first place where `part` occurs. -/
def behindFirst? (part : Text) : Text → Option Text :=
  leftmost? fun s => if part.isPrefixOf s then some (s.drop part.length) else none

/-- The part of a call number that describes its class: what stands in front of the first
cutter, without the point that leads to it. -/
def classRegion (s : Text) : Option Span → Text
  | none => s
  | some cutter =>
    let region := (s.before cutter.start).trim
    ((region.dropLast? '.').getD region).trim

/-! ## Cutters -/

/-- The text behind the last point, or else behind the last space, as a makeshift cutter; it
has to begin with a letter. -/
def makeshiftCutter? (s : Text) : Option Span :=
  let behind := (Text.afterLast? '.' s).or (Text.afterLast? ' ' s)
  (behind.map Text.trim).bind fun text =>
    if text.head?.any Character.isAlphabetic then some ⟨text, []⟩ else none

/-- The first cutter: the one behind a class number, or else a makeshift one. -/
def leadingCutter? (s : Text) : Option Span :=
  (firstCutter? s).or (makeshiftCutter? s)

/-- The text behind the first cutter, and the rest of the call number.  A word directly
behind the cutter is continued up to the next pointed cutter; without such a word, the text
in front of a pointed cutter counts if it is not blank. -/
def cutterSuffix? (s : Text) : Option (Text × Text) :=
  match wordBehindCutter? s with
  | some word =>
    let rest := (fromPointedCutter? word.rest).getD []
    let filler := (word.rest.before rest).trim
    let suffix := word.text.trim ++ (if filler.isEmpty then [] else ' ' :: filler)
    some (suffix, rest)
  | none =>
    (textBeforePointedCutter? s).bind fun span =>
      span.text.trim.nonempty?.map fun text => (text, span.rest)

/-! ## The call number -/

/-- The second cutter: the next one behind the suffix of the first, or else the one that
follows the first directly. -/
def followingCutter? (s : Text) (suffix : Option (Text × Text)) : Option Span :=
  match suffix with
  | some (_, rest) => cutterIn? rest
  | none => secondCutter? s

/-- The parts of a call number in capitals without white space around it. -/
def ofUpper (s : Text) : Lc :=
  let first := leadingCutter? s
  let region := classRegion s first
  let digits := classDigits? region
  let suffix := first.bind fun _ => cutterSuffix? s
  let second := first.bind fun _ => followingCutter? s suffix
  { letters := leadingLetters s
    classDigits := digits
    classSuffix := digits.bind fun d => (behindFirst? d region).bind fun t => t.trim.nonempty?
    firstCutter := first.map Span.text
    firstCutterSuffix := suffix.map Prod.fst
    secondCutter := second.map Span.text
    secondCutterSuffix := second.bind fun span => span.rest.trim.nonempty? }

/-- The parts of a call number, in any case and with any white space around it. -/
def parse (callNumber : Text) : Lc :=
  ofUpper callNumber.trim.upper

/-- The class letters and number together. -/
def class? (parts : Lc) : Option Text :=
  parts.classDigits.map (parts.letters ++ ·)

end Lc
end CallNumber
end Shelfmark
