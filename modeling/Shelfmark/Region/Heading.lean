import Shelfmark.Character.Letter
import Shelfmark.Text.Basic

/-!
# Regions - Clean headings

A heading carries the punctuation of the field it was taken from: a comma or
colon that led to the next part, a final period, brackets around what was
supplied.  Cleaning strips these from the ends, round after round, until a
round changes nothing.  Every round that changes something shortens the
heading, so there are no more rounds than characters.
-/

namespace Shelfmark
namespace Region

/-! ## One round -/

/-- The marks that lead from one part of a field to the next. -/
def isLeadingMark (c : Char) : Bool :=
  c == ',' || c == '/' || c == ';' || c == ':'

/-- Strips one mark from the end, with the spaces in front of it. -/
def stripLeadingMark (s : Text) : Text :=
  if s.getLast?.any isLeadingMark then Text.dropEndWhile (· == ' ') s.dropLast else s

/-- Whether a character belongs to a word. -/
def isWordChar (c : Char) : Bool :=
  Character.isAlphanumeric c || c == '_'

/-- Whether a character is an ASCII punctuation mark or symbol. -/
def isPunctuation (c : Char) : Bool :=
  0x21 ≤ c.toNat && c.toNat ≤ 0x7E && !c.isAlphanum

/-- Strips a period from the end if it follows two characters of a word, or punctuation; the
period of an initial stays. -/
def stripFinalPeriod (s : Text) : Text :=
  match s.reverse with
  | '.' :: a :: b :: _ =>
    if (isWordChar a && isWordChar b) || isPunctuation a then s.dropLast else s
  | ['.', a] => if isPunctuation a then s.dropLast else s
  | _ => s

/-- Strips the brackets around a heading, or a bracket at one end that has no counterpart
anywhere. -/
def stripOuterBrackets (s : Text) : Text :=
  let opens := s.head? = some '['
  let closes := s.getLast? = some ']'
  if opens ∧ closes then s.tail.dropLast
  else if opens ∧ !s.contains ']' then s.tail
  else if closes ∧ !s.contains '[' then s.dropLast
  else s

/-- One round of cleaning. -/
def cleanOnce (heading : Text) : Text :=
  stripOuterBrackets (stripFinalPeriod (stripLeadingMark heading.trim))

/-! ## All rounds -/

/-- At most `rounds` rounds of cleaning, fewer if a round changes nothing. -/
def cleanRounds : Nat → Text → Text
  | 0, heading => heading
  | rounds + 1, heading =>
    let next := cleanOnce heading
    if next = heading then heading else cleanRounds rounds next

/-- A heading without the punctuation around it. -/
def cleanHeading (heading : Text) : Text :=
  cleanRounds heading.length heading

end Region
end Shelfmark
