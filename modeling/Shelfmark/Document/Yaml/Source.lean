import Shelfmark.Text.Basic

/-!
# Documents - The characters of a YAML text

Indentation decides the structure of a YAML text, so every character is kept
with its line and column.  The different line breaks are made equal first, and
a text with characters that YAML does not admit is refused.
-/

namespace Shelfmark
namespace Document
namespace Yaml

/-- A character and where it stands. -/
structure Located where
  /-- The character. -/
  char : Char
  /-- The number of lines above. -/
  line : Nat
  /-- The number of characters to the left. -/
  column : Nat
  /-- The number of bytes before it in UTF-8. -/
  offset : Nat
  deriving Repr, DecidableEq

/-- Located characters that are still to be read. -/
abbrev Source := List Located

/-! ## Character classes -/

/-- Spaces and tabs. -/
def isSpace (c : Char) : Bool :=
  c == ' ' || c == '\t'

/-- The characters that end a line: the line feed, to which most others are converted, and the
line and paragraph separators. -/
def isBreak (c : Char) : Bool :=
  c == '\n' || c == '\u2028' || c == '\u2029'

/-- A byte order mark, which may begin a line. -/
def isOrderMark (c : Located) : Bool :=
  c.char == '\uFEFF' && c.column == 0

/-- Whether a character may stand in a document. -/
def isAdmitted (c : Char) : Bool :=
  let n := c.toNat
  n == 0x09 || n == 0x0A || n == 0x0D || (0x20 ≤ n && n ≤ 0x7E) || n == 0x85 ||
  (0xA0 ≤ n && n ≤ 0xFFFD) || 0x10000 ≤ n

/-! ## Sources -/

/-- Makes the line breaks equal: a carriage return with its line feed, either alone, and the
next-line character. -/
def unifyBreaks : Text → Text
  | [] => []
  | '\r' :: '\n' :: s => '\n' :: unifyBreaks s
  | c :: s => (if c = '\r' ∨ c = '\u0085' then '\n' else c) :: unifyBreaks s

/-- Gives each character its place. -/
def locate (line column offset : Nat) : Text → Source
  | [] => []
  | c :: s =>
    ⟨c, line, column, offset⟩ ::
      if isBreak c then locate (line + 1) 0 (offset + c.utf8Size) s
      else locate line (column + 1) (offset + c.utf8Size) s

/-- The located characters of a text. -/
def source? (s : Text) : Option Source :=
  if s.all isAdmitted then some (locate 0 0 0 (unifyBreaks s)) else none

namespace Source

/-- Whether the source is at its end, or at white space. -/
def atBlank : Source → Bool
  | [] => true
  | c :: _ => isSpace c.char || isBreak c.char

/-- Whether three equal characters and then white space follow. -/
def atMarker (mark : Char) : Source → Bool
  | a :: b :: c :: rest =>
    a.char == mark && b.char == mark && c.char == mark && atBlank rest
  | _ => false

/-- Whether a line begins here that separates documents. -/
def atDocumentMarker (source : Source) : Bool :=
  match source with
  | [] => false
  | c :: _ => c.column == 0 && (atMarker '-' source || atMarker '.' source)

end Source
end Yaml
end Document
end Shelfmark
