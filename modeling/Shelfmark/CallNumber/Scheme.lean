import Shelfmark.Text.Basic

/-!
# Call numbers - Classification schemes

A call number belongs to the scheme whose shape it begins with.  Library of
Congress numbers begin with one to three letters and a digit, Dewey numbers
with a digit; white space around the call number never matters, and whatever
follows the shape is free.
-/

namespace Shelfmark

/-- The classification scheme that a call number is shaped like. -/
inductive Scheme where
  /-- The Library of Congress classification. -/
  | lc
  /-- The Dewey Decimal classification. -/
  | dewey
  /-- Neither shape. -/
  | unknown
  deriving Repr, DecidableEq

namespace Scheme

/-- The letters that no Library of Congress class begins with. -/
def unusedInitials : List Char :=
  ['I', 'O', 'W', 'X', 'Y']

/-- Whether a Library of Congress class may begin with the letter, in either case. -/
def isLcInitial (c : Char) : Bool :=
  c.isAlpha && !unusedInitials.contains c.toUpper

/-- Drops the ASCII letters at the front, at most `n` of them. -/
def dropLetters : Nat → Text → Text
  | n + 1, c :: s => if c.isAlpha then dropLetters n s else c :: s
  | _, s => s

/-- Whether a text begins with an ASCII digit. -/
def startsWithDigit (s : Text) : Bool :=
  s.head?.any Char.isDigit

/-- Whether the trimmed call number begins with one to three class letters, any number of
spaces and a digit. -/
def isLc (callNumber : Text) : Bool :=
  match callNumber.trim with
  | [] => false
  | c :: s => isLcInitial c && startsWithDigit ((dropLetters 2 s).dropWhile (· == ' '))

/-- Whether the trimmed call number begins with a digit. -/
def isDewey (callNumber : Text) : Bool :=
  startsWithDigit callNumber.trim

/-- The scheme of a call number; the two shapes exclude each other. -/
def detect (callNumber : Text) : Scheme :=
  if isLc callNumber then lc
  else if isDewey callNumber then dewey
  else unknown

/-- The short name of a scheme, which is also the tag of call numbers that belong to it. -/
def label : Scheme → Text
  | lc => "LC".toList
  | dewey => "DEWEY".toList
  | unknown => "UNKNOWN".toList

end Scheme
end Shelfmark
