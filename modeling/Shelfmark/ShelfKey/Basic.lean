import Shelfmark.CallNumber.Dewey
import Shelfmark.CallNumber.Lc
import Shelfmark.ShelfKey.Component

/-!
# Shelf keys - Forward keys

The order of shelf keys as plain texts is the order of the call numbers on the
shelf, within one classification scheme.

- `lc?` and `dewey?` build the key of a call number or say why there is none.
- `lc` and `dewey` fall back to the call number itself.
- `ofCallNumber?` chooses the scheme.
-/

namespace Shelfmark
namespace ShelfKey

/-! ## Library of Congress -/

/-- The columns of the class letters. -/
def letterColumns : Nat := 4

/-- The width of a Library of Congress class number. -/
def lcClassWidth : Width := ⟨4, 6⟩

/-- The decimal places of a cutter. -/
def cutterPlaces : Int := 6

/-- The components of a key behind the class, in order, those absent left out. -/
def lcComponents (parts : CallNumber.Lc) : List (Except KeyError Text) :=
  [ parts.classSuffix.map suffix,
    parts.firstCutter.map (cutter · cutterPlaces),
    parts.firstCutterSuffix.map suffix,
    parts.secondCutter.map (cutter · cutterPlaces),
    parts.secondCutterSuffix.map suffix ].filterMap id

/-- The key of a Library of Congress number: class letters in four columns, the class number,
and the other components with a space in front of each.  The first component that is no
number is the error. -/
def lc? (callNumber : Text) : Except KeyError Text := do
  let parts := CallNumber.Lc.parse callNumber
  let classNumber ← number (parts.classDigits.getD ['0']) lcClassWidth
  let components ← (lcComponents parts).mapM id
  let key := parts.letters.padEnd letterColumns ++ classNumber ++ components.flatMap (' ' :: ·)
  return Text.trim key

/-- The key of a Library of Congress number, or else the call number in capitals. -/
def lc (callNumber : Text) : Text :=
  match lc? callNumber with
  | .ok key => key
  | .error _ => callNumber.trim.upper

/-! ## Dewey -/

/-- The width of a Dewey class number. -/
def deweyClassWidth : Width := ⟨3, 8⟩

/-- The key of a Dewey number: the class number, then cutter and suffix as they stand. -/
def dewey? (callNumber : Text) : Except KeyError Text :=
  match CallNumber.Dewey.parse? callNumber with
  | none => .error (.notDewey callNumber)
  | some parts =>
    (number parts.classDigits deweyClassWidth).map fun classNumber =>
      classNumber ++ ([parts.cutter, parts.cutterSuffix].filterMap id).flatMap (' ' :: ·)

/-- The key of a Dewey number, or else the trimmed call number. -/
def dewey (callNumber : Text) : Text :=
  match dewey? callNumber with
  | .ok key => key
  | .error _ => callNumber.trim

/-! ## Either scheme -/

/-- The key of a call number in the scheme it is shaped like. -/
def ofCallNumber? (callNumber : Text) : Option Text :=
  match Scheme.detect callNumber with
  | .lc => some (lc callNumber)
  | .dewey => some (dewey callNumber)
  | .unknown => none

end ShelfKey
end Shelfmark
