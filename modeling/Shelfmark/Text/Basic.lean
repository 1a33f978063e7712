import Shelfmark.Character.Blank
import Shelfmark.Character.Case

/-!
# Text - Characters in a row

Call numbers, headings and field values are read and rewritten as lists of
characters, so every function here recurses on the data.  Texts are ordered
lexicographically by code point, which is also the order of their UTF-8 bytes.

The functions split, strip and join; what counts as white space and as upper
case is decided by the character modules.
-/

namespace Shelfmark

/-- A text is the list of its characters. -/
abbrev Text := List Char

namespace Text

/-! ## White space and case -/

/-- Drops white space at the front. -/
def trimStart (s : Text) : Text :=
  s.dropWhile Character.isBlank

/-- Drops the characters at the end that satisfy `p`. -/
def dropEndWhile (p : Char → Bool) (s : Text) : Text :=
  (s.reverse.dropWhile p).reverse

/-- Drops white space at the end. -/
def trimEnd (s : Text) : Text :=
  dropEndWhile Character.isBlank s

/-- Drops white space at both ends. -/
def trim (s : Text) : Text :=
  trimEnd (trimStart s)

/-- Replaces each character by its full uppercase form. -/
def upper (s : Text) : Text :=
  s.flatMap Character.upper

/-- The text, unless it is empty. -/
def nonempty? (s : Text) : Option Text :=
  if s.isEmpty then none else some s

/-! ## Splitting and joining -/

/-- The part of `s` in front of `rest`, where `rest` is an end of `s`. -/
def before (s rest : Text) : Text :=
  s.take (s.length - rest.length)

/-- The pieces between the occurrences of a separator; one more than there are separators. -/
def pieces (separator : Char) : Text → List Text
  | [] => [[]]
  | c :: s =>
    if c = separator then [] :: pieces separator s
    else
      match pieces separator s with
      | [] => [[c]]
      | piece :: rest => (c :: piece) :: rest

/-- The parts around the first occurrence of a separator. -/
def cut? (separator : Char) : Text → Option (Text × Text)
  | [] => none
  | c :: s =>
    if c = separator then some ([], s)
    else (cut? separator s).map fun parts => (c :: parts.1, parts.2)

/-- The part after the last occurrence of a separator. -/
def afterLast? (separator : Char) : Text → Option Text
  | [] => none
  | c :: s =>
    match afterLast? separator s with
    | some rest => some rest
    | none => if c = separator then some s else none

/-- Drops one given character at the front, if it stands there. -/
def dropFirst (c : Char) : Text → Text
  | [] => []
  | a :: s => if a = c then s else a :: s

/-- Drops one given character at the end, if it stands there. -/
def dropLast? (c : Char) (s : Text) : Option Text :=
  if s.getLast? = some c then some s.dropLast else none

/-- Joins texts with a separator between neighbours. -/
def join (separator : Text) (parts : List Text) : Text :=
  List.intercalate separator parts

/-- Replaces every occurrence of a character by a text. -/
def replace (s : Text) (c : Char) (insert : Text) : Text :=
  s.flatMap fun a => if a = c then insert else [a]

/-- Whether `part` occurs in the text as a run of consecutive characters. -/
def includes (part : Text) : Text → Bool
  | [] => part.isEmpty
  | c :: s => part.isPrefixOf (c :: s) || includes part s

/-- Extends a text with blanks at the end until it has the given width. -/
def padEnd (width : Nat) (s : Text) : Text :=
  s ++ List.replicate (width - s.length) ' '

/-- Extends a numeral with zeros at the front until it has the given width. -/
def padZeros (width : Nat) (s : Text) : Text :=
  List.replicate (width - s.length) '0' ++ s

end Text
end Shelfmark
