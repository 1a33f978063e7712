import Shelfmark.CallNumber.Scheme

/-!
# Call numbers - Parts of a Dewey number

A Dewey number such as `813.54 .S64 1999` is a class number, then perhaps a
cutter, then whatever identifies the copy.  Text that follows the class number
without a cutter is not kept.
-/

namespace Shelfmark
namespace CallNumber

/-- The parts of a Dewey call number. -/
structure Dewey where
  /-- One to three digits and perhaps a decimal fraction. -/
  classDigits : Text
  /-- A capital letter, digits, and perhaps more capital letters. -/
  cutter : Option Text
  /-- The text behind the cutter: year, volume, copy. -/
  cutterSuffix : Option Text
  deriving Repr, DecidableEq

namespace Dewey

/-- Takes the digits at the front, at most `n` of them. -/
def takeDigits : Nat → Text → Text
  | n + 1, c :: s => if c.isDigit then c :: takeDigits n s else []
  | _, _ => []

/-- The decimal fraction at the front: a point and at least one digit, or nothing. -/
def takeFraction : Text → Text
  | '.' :: s =>
    let digits := s.takeWhile Char.isDigit
    if digits.isEmpty then [] else '.' :: digits
  | _ => []

/-- The class number at the front of a text, empty if there is none. -/
def takeClass (s : Text) : Text :=
  let whole := takeDigits 3 s
  if whole.isEmpty then [] else whole ++ takeFraction (s.drop whole.length)

/-- The cutter behind optional spaces and an optional point, and the text behind the cutter. -/
def cutter? (s : Text) : Option (Text × Text) :=
  match Text.dropFirst '.' (s.dropWhile (· == ' ')) with
  | [] => none
  | letter :: s =>
    let digits := s.takeWhile Char.isDigit
    if letter.isUpper && !digits.isEmpty then
      let tail := (s.drop digits.length).dropWhile (· == ' ')
      let gap := (s.drop digits.length).takeWhile (· == ' ')
      let letters := tail.takeWhile Char.isUpper
      some (Text.trimEnd (letter :: digits ++ gap ++ letters), tail.drop letters.length)
    else none

/-- The parts of a trimmed call number; `none` unless it begins with a class number. -/
def parse? (callNumber : Text) : Option Dewey :=
  let s := callNumber.trim
  let classDigits := takeClass s
  if classDigits.isEmpty then none
  else
    match cutter? (s.drop classDigits.length) with
    | some (cutter, rest) => some ⟨classDigits, some cutter, rest.trim.nonempty?⟩
    | none => some ⟨classDigits, none, none⟩

/-- The class number in front of the cutter. -/
def classNumber? (callNumber : Text) : Option Text :=
  (parse? callNumber).map Dewey.classDigits

end Dewey
end CallNumber
end Shelfmark
