import Shelfmark.Number.FixedPoint
import Shelfmark.Number.Numeral
import Shelfmark.Text.Quoted

/-!
# Shelf keys - Components of fixed width

Shelf keys are compared character by character.  That agrees with the order of
numbers only where numbers are equally wide, so every number in a key is
written with fixed digits before and after the point: class numbers as they
stand, the digits of a cutter as a decimal fraction, and each run of digits in
a suffix as a whole number.
-/

namespace Shelfmark
namespace ShelfKey

/-! ## Errors -/

/-- Why a call number has no shelf key. -/
inductive KeyError where
  /-- A part that has to be a number is none. -/
  | invalidNumber (value : Text)
  /-- A number is beyond double precision, or a word such as `nan`. -/
  | nonFinite (value : Text)
  /-- A call number without a Dewey class number. -/
  | notDewey (value : Text)
  deriving Repr, DecidableEq

/-- The sentence that reports an error. -/
def KeyError.message : KeyError → Text
  | invalidNumber value => "not a number: ".toList ++ Text.quoted value
  | nonFinite value => "number is not finite: ".toList ++ Text.quoted value
  | notDewey value => "not a Dewey call number: ".toList ++ Text.quoted value

/-! ## Numbers -/

/-- How wide a number is written. -/
structure Width where
  /-- The least number of digits before the point; unless it is positive, nothing is padded
  and a whole part of zero is left out. -/
  before : Int
  /-- The number of digits after the point; if it is negative, as many as are needed. -/
  after : Int
  deriving Repr, DecidableEq

/-- The digits kept after the point where as many as are needed are asked for. -/
def mostPlaces : Nat := 12

/-- The digits of a number of units cut to a width. -/
def Width.digits (width : Width) (units : Nat) : Number.FixedPoint :=
  let places := if width.after < 0 then mostPlaces else width.after.toNat
  let exact := Number.FixedPoint.ofUnits units places
  { whole :=
      if 0 < width.before then Text.padZeros width.before.toNat exact.whole
      else if exact.whole = ['0'] then []
      else exact.whole
    fraction :=
      if width.after < 0 then exact.fraction.dropEndWhile (· == '0') else exact.fraction }

/-- A signed number of units written with a width.  The sign is left out where only zeros
remain, the point where no digit follows it, and something is always written. -/
def Width.render (width : Width) (negative : Bool) (units : Nat) : Text :=
  let digits := width.digits units
  let isZero := (digits.whole ++ digits.fraction).all (· == '0')
  let sign := if negative && !isZero then ['-'] else []
  let point := if digits.fraction.isEmpty then [] else ['.']
  if digits.whole.isEmpty && digits.fraction.isEmpty then sign ++ ['0']
  else sign ++ digits.whole ++ point ++ digits.fraction

/-- A numeral, with any white space around it, written with a width. -/
def number (value : Text) (width : Width) : Except KeyError Text :=
  match Number.Binary64.ofNumeral? value.trim with
  | some (.signed negative (.finite units)) => .ok (width.render negative units)
  | some _ => .error (.nonFinite value)
  | none => .error (.invalidNumber value)

/-! ## Cutters -/

/-- The greatest number that the digits of a cutter may form. -/
def greatestCutter : Nat := 2147483647

/-- A cutter: its capitals, and its digits as a decimal fraction with the given number of
places.  A single letter without digits comes first among the cutters of that letter;
anything else behind the letters is left as it is. -/
def cutter (text : Text) (places : Int) : Except KeyError Text :=
  let letters := text.takeWhile Char.isUpper
  let digits := text.dropWhile Char.isUpper
  if digits.isEmpty then
    if letters.length = 1 then (number ['0'] ⟨1, places⟩).map (letters ++ ·)
    else .ok letters
  else if digits.all Char.isDigit && decide (Number.ofDigits digits ≤ greatestCutter) then
    (number ('.' :: digits) ⟨1, places⟩).map (letters ++ ·)
  else .ok text

/-! ## Suffixes -/

/-- The width of a run of digits inside a suffix. -/
def suffixWidth : Width := ⟨6, 0⟩

/-- The text cut into runs: each run of digits is one piece, each other character another. -/
def digitRuns : Text → List Text
  | [] => []
  | c :: s =>
    match digitRuns s with
    | [] => [[c]]
    | run :: runs =>
      if c.isDigit && run.head?.any Char.isDigit then (c :: run) :: runs else [c] :: run :: runs

/-- A suffix with every run of digits padded, so that `v.2` comes before `v.10`. -/
def suffix (text : Text) : Except KeyError Text :=
  ((digitRuns text).mapM fun (run : Text) =>
    if run.all Char.isDigit then number run suffixWidth else .ok run).map List.flatten

end ShelfKey
end Shelfmark
