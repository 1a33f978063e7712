import Shelfmark.Number.Binary64
import Shelfmark.Text.Basic

/-!
# Numbers - Numerals

A numeral is an optional sign followed by digits with an optional point and an
optional exponent, or by one of the words for infinity and for not a number in
any case.  At least one digit stands before or after the point.  The value is
the nearest double, and a numeral that is too large reads as infinity.
-/

namespace Shelfmark
namespace Number

/-- The value of a run of decimal digits. -/
def ofDigits (digits : Text) : Nat :=
  Nat.ofDigitChars 10 digits 0

/-- Splits an optional sign off; the flag says whether it is a minus. -/
def cutSign : Text → Bool × Text
  | '-' :: s => (true, s)
  | '+' :: s => (false, s)
  | s => (false, s)

/-- The exponent at the end of a numeral: nothing, or `e`, an optional sign and digits. -/
def exponent? : Text → Option Int
  | [] => some 0
  | e :: s =>
    if e = 'e' ∨ e = 'E' then
      let (negative, digits) := cutSign s
      if digits.isEmpty then none
      else if digits.all Char.isDigit then
        some (if negative then -(ofDigits digits : Int) else ofDigits digits)
      else none
    else none

/-- The size written by an unsigned numeral without words. -/
def decimal? (s : Text) : Option Magnitude :=
  let whole := s.takeWhile Char.isDigit
  let tail := s.dropWhile Char.isDigit
  let (fraction, tail) :=
    match tail with
    | '.' :: t => (t.takeWhile Char.isDigit, t.dropWhile Char.isDigit)
    | _ => ([], tail)
  if whole.isEmpty && fraction.isEmpty then none
  else
    (exponent? tail).map fun exponent =>
      Magnitude.ofDecimal (ofDigits (whole ++ fraction)) (exponent - fraction.length)

/-- The double that a numeral denotes; `none` for a text that is no numeral. -/
def Binary64.ofNumeral? (s : Text) : Option Binary64 :=
  let (negative, size) := cutSign s
  let word := size.map Char.toLower
  if word = "inf".toList || word = "infinity".toList then
    some (.signed negative .infinite)
  else if word = "nan".toList then some .nan
  else (decimal? size).map (.signed negative)

end Number
end Shelfmark
