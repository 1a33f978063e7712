import Shelfmark.Character.Case
import Shelfmark.Text.Basic

/-!
# Natural order of texts

A reader expects `v.2` before `v.10`.  For the natural order a text is a row of
tokens, each a run of digits or a single other character with its case folded.
Numbers compare by value however long they are, and a shorter spelling of the
same number comes first.

The normed order is the natural order after periods and spaces are removed, so
that `QA76.73 .J38` and `QA76.73.J38` are the same call number.
-/

namespace Shelfmark
namespace NaturalOrder

/-! ## Tokens -/

/-- What is compared as one: a run of digits, or another character without its case. -/
inductive Token where
  /-- A maximal run of ASCII digits. -/
  | number (run : Text)
  /-- Any other character, folded. -/
  | other (folded : Char)
  deriving Repr, DecidableEq

/-- Puts a character in front of a row of tokens; a digit joins the run that begins there. -/
def Token.push (c : Char) (tokens : List Token) : List Token :=
  if c.isDigit then
    match tokens with
    | number run :: rest => number (c :: run) :: rest
    | _ => number [c] :: tokens
  else other (Character.fold c) :: tokens

/-- The tokens of a text. -/
def tokens (s : Text) : List Token :=
  s.foldr Token.push []

/-! ## Comparison -/

/-- The digits of a run without its leading zeros. -/
def significant (run : Text) : Text :=
  run.dropWhile (· == '0')

/-- Two runs of digits compare by their values: first the number of significant digits, then
the digits themselves, and for equal values the length of the spelling. -/
def compareNumbers (a b : Text) : Ordering :=
  (compare (significant a).length (significant b).length).then <|
  (compare (significant a) (significant b)).then <|
  compare a.length b.length

/-- Two tokens compare as numbers if both are, and by their first characters otherwise. -/
def Token.compare : Token → Token → Ordering
  | number a, number b => compareNumbers a b
  | number a, other d => Ord.compare (a.head?) (some d)
  | other c, number b => Ord.compare (some c) (b.head?)
  | other c, other d => Ord.compare c d

/-- The natural order of texts. -/
def natural (a b : Text) : Ordering :=
  List.compareLex Token.compare (tokens a) (tokens b)

/-- The characters that do not count in a call number. -/
def isIgnorable (c : Char) : Bool :=
  c == '.' || c == ' '

/-- The natural order of texts without their periods and spaces. -/
def normed (a b : Text) : Ordering :=
  natural (a.filter (!isIgnorable ·)) (b.filter (!isIgnorable ·))

/-- Whether two characters may stand for each other in a common beginning: case does not
matter, and a period matches a space. -/
def looselyEqual (a b : Char) : Bool :=
  (isIgnorable a && isIgnorable b) || Character.fold a == Character.fold b

/-! ## Sorting -/

/-- Sorts by a comparison, leaving equal values in the order in which they are. -/
def sortBy {α : Type} (cmp : α → α → Ordering) (values : List α) : List α :=
  values.mergeSort fun a b => (cmp a b).isLE

/-- Sorts by a comparison and keeps the first of the values that compare equal. -/
def sortDistinct {α : Type} (cmp : α → α → Ordering) (values : List α) : List α :=
  (sortBy cmp values).eraseDupsBy fun a b => (cmp a b).isEq

end NaturalOrder
end Shelfmark
