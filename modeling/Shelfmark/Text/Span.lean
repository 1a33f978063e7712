import Shelfmark.Text.Basic

/-!
# Text - Places and parts

A search goes through the ends of a text, that is, through what remains of it
from each place on.  Two kinds of search are given here.  One takes the first
place that has an answer, the other goes along a run of characters as far as an
answer still follows: the furthest end of the run that has one decides.
-/

namespace Shelfmark
namespace Text

/-! ## Parts -/

/-- A part of a text: where it starts, and what follows it. -/
structure Span where
  /-- The text from the first character of the part on. -/
  start : Text
  /-- The text behind the part. -/
  rest : Text
  deriving Repr, DecidableEq

/-- The characters of a part. -/
def Span.text (span : Span) : Text :=
  span.start.before span.rest

/-! ## Searches -/

/-- The answer at the leftmost place that has one, the place behind the last character
included. -/
def leftmost? {α : Type} (answer : Text → Option α) : Text → Option α
  | [] => answer []
  | c :: s =>
    match answer (c :: s) with
    | some a => some a
    | none => leftmost? answer s

/-- The answer at the furthest place that has one, not further than the characters that
satisfy `p` reach. -/
def furthest? {α : Type} (p : Char → Bool) (answer : Text → Option α) : Text → Option α
  | [] => answer []
  | c :: s =>
    if p c then
      match furthest? p answer s with
      | some a => some a
      | none => answer (c :: s)
    else answer (c :: s)

end Text
end Shelfmark
