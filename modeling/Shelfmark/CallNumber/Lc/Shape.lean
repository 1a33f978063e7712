import Shelfmark.Text.Span

/-!
# Call numbers - Shapes inside an LC number

The parts of a Library of Congress number are recognised by their shapes, in
capitals throughout: a class number, perhaps a word between class and cutter,
and cutters, which are one letter followed by digits.

Where a part ends is clear for all shapes but the word: it reaches as far as
what has to follow it allows.  So a word is passed over together with a
question about the text behind it, and the furthest end with an answer counts.

`firstCutter?` and `secondCutter?` look for cutters behind a class number,
`wordBehindCutter?` and `textBeforePointedCutter?` for what stands between two
cutters.
-/

namespace Shelfmark
namespace CallNumber
namespace Lc

open Text (Span leftmost? furthest?)

/-! ## Numbers, gaps and cutters -/

/-- Letters without accents, digits and the low line make up words. -/
def isWordChar (c : Char) : Bool :=
  c.isAlphanum || c == '_'

/-- The text behind a run of digits. -/
def skipDigits? (s : Text) : Option Text :=
  if s.head?.any Char.isDigit then some (s.dropWhile Char.isDigit) else none

/-- The text behind a decimal fraction, if there is one. -/
def skipFraction (s : Text) : Text :=
  match s with
  | '.' :: digits => (skipDigits? digits).getD s
  | _ => s

/-- The text behind a class number: one to three letters, digits and perhaps a decimal
fraction. -/
def skipClassNumber? (s : Text) : Option Text :=
  let letters := (s.take 4).takeWhile Char.isUpper
  if 1 ≤ letters.length ∧ letters.length ≤ 3 then
    (skipDigits? (s.drop letters.length)).map skipFraction
  else none

/-- The text behind spaces. -/
def skipSpaces (s : Text) : Text :=
  s.dropWhile (· == ' ')

/-- The text behind the gap in front of a cutter: spaces and perhaps a point. -/
def skipGap (s : Text) : Text :=
  Text.dropFirst '.' (skipSpaces s)

/-- The text behind a cutter: a capital letter and digits. -/
def skipCutter? : Text → Option Text
  | [] => none
  | c :: s => if c.isUpper then skipDigits? s else none

/-- The cutter at the front of a text. -/
def cutterHere? (s : Text) : Option Span :=
  (skipCutter? s).map fun rest => ⟨s, rest⟩

/-- Whether a text begins with a point and a cutter. -/
def atPointedCutter : Text → Bool
  | '.' :: s => (skipCutter? s).isSome
  | _ => false

/-! ## Ends with an answer -/

section Ends

variable {α : Type} (answer : Text → Option α)

/-- The answer behind the longest run of characters other than digits, and then of word
characters, that has one. -/
def behindNonDigits? : Text → Option α
  | [] => answer []
  | c :: s =>
    if c.isDigit then furthest? isWordChar answer (c :: s)
    else
      match behindNonDigits? s with
      | some a => some a
      | none => answer (c :: s)

/-- Whether a word can begin with a character and go on with any word characters. -/
def startsPlainWord (c : Char) : Bool :=
  c.isDigit || c.isLower

/-- The answer behind the longest word that has one.  A word is no cutter: either it begins
with a digit or a small letter, or it begins with a capital and something other than a digit.
The second kind runs over anything up to the next digit and then on to the end of the word. -/
def behindWord? : Text → Option α
  | [] => none
  | c :: s =>
    if startsPlainWord c then furthest? isWordChar answer s
    else
      match s with
      | [] => none
      | d :: s => if c.isUpper && !d.isDigit then behindNonDigits? answer s else none

/-- The answer behind a class number and, after spaces, the longest word that has one; or else
the answer behind the class number alone. -/
def behindClass? (s : Text) : Option α :=
  (skipClassNumber? s).bind fun rest =>
    match if rest.head? = some ' ' then behindWord? answer (skipSpaces rest) else none with
    | some a => some a
    | none => answer rest

/-- The answer behind a cutter with as many digits as have one. -/
def behindCutter? : Text → Option α
  | c :: d :: s => if c.isUpper && d.isDigit then furthest? Char.isDigit answer s else none
  | _ => none

end Ends

/-! ## Places -/

/-- The first cutter behind a class number. -/
def firstCutter? : Text → Option Span :=
  leftmost? (behindClass? fun s => cutterHere? (skipGap s))

/-- The second of two cutters behind a class number with only a gap between them. -/
def secondCutter? : Text → Option Span :=
  leftmost? (behindClass? fun s => (skipCutter? (skipGap s)).bind fun s => cutterHere? (skipGap s))

/-- The leftmost cutter in a text. -/
def cutterIn? : Text → Option Span :=
  leftmost? cutterHere?

/-- The text from the leftmost pointed cutter on, the spaces in front of the point included. -/
def fromPointedCutter? : Text → Option Text :=
  leftmost? fun s => if atPointedCutter (skipSpaces s) then some s else none

/-- The text behind the first cutter and the spaces that follow it. -/
def behindFirstCutter? : Text → Option Text :=
  leftmost? (behindClass? fun s => (skipCutter? (skipGap s)).map skipSpaces)

/-- The word that directly follows the first cutter. -/
def wordBehindCutter? (s : Text) : Option Span :=
  (behindFirstCutter? s).bind fun start => (behindWord? some start).map fun rest => ⟨start, rest⟩

/-! ## The text in front of a pointed cutter -/

/-- Which pointed cutter ends a part that starts at a given end of a text, or goes on there. -/
structure PartEnd where
  /-- The last pointed cutter of the current line. -/
  onLine : Option Text
  /-- The one behind any number of words: the longest word that leads to one is passed over,
  as long as there is such a word, and then the line decides. -/
  behindWords : Option Text
  /-- The one behind word characters and then words. -/
  behindWordChars : Option Text
  /-- The one behind characters other than digits, word characters and then words. -/
  behindNonDigits : Option Text
  /-- The same, where at least one character other than a digit follows. -/
  behindCapital : Option Text
  deriving Repr, DecidableEq

/-- The ends of a part that starts, or goes on, at the front of a text.  All of them are found
in one pass from the end of the text, because each follows from those one character later. -/
def partEnd : Text → PartEnd
  | [] => ⟨none, none, none, none, none⟩
  | c :: s =>
    let next := partEnd s
    let here := if atPointedCutter (c :: s) then some (c :: s) else none
    let onLine := if c = '\n' then none else next.onLine.or here
    let behindWord :=
      if startsPlainWord c then next.behindWordChars
      else if c.isUpper then next.behindCapital
      else none
    let behindWords := behindWord.or onLine
    let behindWordChars :=
      if isWordChar c then next.behindWordChars.or behindWords else behindWords
    { onLine
      behindWords
      behindWordChars
      behindNonDigits :=
        if c.isDigit then behindWordChars else next.behindNonDigits.or behindWords
      behindCapital := if c.isDigit then none else next.behindNonDigits }

/-- The text between the first cutter and a pointed one, if there is a pointed one at all.
Behind the first cutter as many words as possible are passed over, which may lead to a later
line; then the last pointed cutter of the line ends the part. -/
def textBeforePointedCutter? (s : Text) : Option Span :=
  (fromPointedCutter? s).bind fun _ =>
    s |> leftmost? (behindClass? fun s => skipGap s |> behindCutter? fun s =>
      let start := skipSpaces s
      (partEnd start).behindWords.map fun rest => ⟨start, rest⟩)

end Lc
end CallNumber
end Shelfmark
