import Shelfmark.Character.Letter
import Shelfmark.Text.Basic

/-!
# Regions - Names and qualifiers

A place name consists of letters, periods, hyphens and spaces; a combining mark
belongs to the letter in front of it.  A name may carry a qualifier in
parentheses: the larger place, or the kind of place, or both with a colon
between spaces, as in `Satricum (Lazio : Extinct city)`.
-/

namespace Shelfmark
namespace Region

/-! ## Runs of name characters -/

/-- Whether a character other than a mark may stand in a name. -/
def isNameChar (c : Char) : Bool :=
  Character.isLetter c || c == '.' || c == '-' || c == ' '

/-- Splits off the longest run of name characters at the front; the flag says whether a mark
may come first because a letter stands in front of it. -/
def spanName (afterLetter : Bool) : Text → Text × Text
  | [] => ([], [])
  | c :: s =>
    if isNameChar c then
      let (run, rest) := spanName (Character.isLetter c) s
      (c :: run, rest)
    else if afterLetter && Character.isMark c then
      let (run, rest) := spanName true s
      (c :: run, rest)
    else ([], c :: s)

/-- Whether a text is a run of name characters from end to end, and not empty. -/
def isName (s : Text) : Bool :=
  !s.isEmpty && (spanName false s).2.isEmpty

/-- Drops one space at the end, if it is there. -/
def dropEndSpace (s : Text) : Text :=
  (s.dropLast? ' ').getD s

/-- The name in a run of name characters that an opening parenthesis follows: the run without
one space at its end.  It has at least two characters, marks apart, and does not end in a
space or hyphen. -/
def nameOfRun? (run : Text) : Option Text :=
  let name := dropEndSpace run
  let characters := name.filter (!Character.isMark ·)
  if characters.length < 2 then none
  else if name.getLast? = some ' ' ∨ name.getLast? = some '-' then none
  else some name

/-! ## Qualified names -/

/-- A name and the qualifier behind its opening parenthesis, at the front of a text, and the
text behind the qualifier. -/
def qualifiedName? (s : Text) : Option (Text × Text × Text) :=
  let (run, rest) := spanName false s
  match rest with
  | '(' :: inside =>
    let (qualifier, rest) := spanName false inside
    if qualifier.isEmpty then none
    else (nameOfRun? run).map fun name => (name, qualifier, rest)
  | _ => none

/-- Whether a text ends in parentheses around a single name, with no line break in front of
them. -/
def hasSingleQualifier (s : Text) : Bool :=
  match Text.afterLast? '(' s with
  | none => false
  | some inside =>
    !(s.before inside).contains '\n' &&
      match inside.dropLast? ')' with
      | none => false
      | some qualifier => isName qualifier

/-- A name with a typed qualifier: name, place and kind of place. -/
structure TypedName where
  /-- What stands in front of the parenthesis. -/
  front : Text
  /-- The larger place. -/
  place : Text
  /-- The kind of place. -/
  kind : Text
  deriving Repr, DecidableEq

/-- Reads a whole text as a name with a typed qualifier. -/
def TypedName.ofText? (s : Text) : Option TypedName :=
  (Text.cut? '(' s).bind fun parts =>
    (parts.2.dropLast? ')').bind fun inside =>
      (Text.cut? ':' inside).bind fun halves =>
        match halves.1.dropLast? ' ', halves.2 with
        | some place, ' ' :: kind =>
          if isName parts.1 && isName place && isName kind then some ⟨parts.1, place, kind⟩
          else none
        | _, _ => none

end Region
end Shelfmark
