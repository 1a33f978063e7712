import Shelfmark.Number.Shortest
import Shelfmark.Record
import Shelfmark.ShelfKey.Basic

/-!
# Facets - Dewey numbers

The Dewey numbers of a record are offered in three ways: rounded down to a
multiple of some precision, to browse by hundreds or tens; without spaces, to
search; and as a shelf key, to sort.
-/

namespace Shelfmark
namespace DeweyFacet

/-- Why there are no rounded numbers. -/
inductive FacetError where
  /-- The precision is not a positive finite number. -/
  | invalidPrecision (precision : Number.Binary64)
  /-- A rounded number cannot be written. -/
  | unwritable (cause : ShelfKey.KeyError)
  deriving Repr, DecidableEq

/-- The sentence that reports an error. -/
def FacetError.message : FacetError → Text
  | invalidPrecision precision =>
    "rounding precision must be a positive number, got ".toList ++ precision.text
  | unwritable cause => cause.message

/-! ## Rounding -/

/-- What is added to a quotient before it is rounded down, so that `0.3 / 0.1` counts as
three: the double nearest to `10 ^ -9`. -/
def tolerance : Number.Magnitude :=
  .ofDecimal 1 (-9)

/-- The greatest multiple of a positive precision, in units, that does not exceed a number by
more than the tolerance. -/
def roundDown (number : Number.Magnitude) (precision : Nat) : Number.Magnitude :=
  match tolerance with
  | .infinite => .infinite
  | .finite epsilon => (((number.div precision).add epsilon).floor).mul precision

/-- The width of a rounded number: three digits before the point, and as many behind it as
are needed. -/
def width : ShelfKey.Width := ⟨3, -1⟩

/-- A class number rounded down, as it is displayed: the double is printed, read again and
written with the width of a rounded number. -/
def roundedText (precision : Nat) (classNumber : Text) : Except ShelfKey.KeyError Text :=
  match Number.Binary64.ofNumeral? classNumber with
  | some (.signed _ number) =>
    ShelfKey.number (Number.Binary64.text (.signed false (roundDown number precision))) width
  | _ => .error (.invalidNumber classNumber)

/-! ## Values -/

/-- The class numbers among the values of a field, rounded down to multiples of the
precision, each once and in order; `none` if there is none. -/
def numbers (reader : FieldReader) (spec : Text) (precision : Number.Binary64) :
    Except FacetError (Option (List Text)) :=
  match precision with
  | .signed false (.finite (units + 1)) =>
    let classNumbers := (reader.listValues spec).filterMap CallNumber.Dewey.classNumber?
    match classNumbers.mapM (roundedText (units + 1)) with
    | .ok [] => .ok none
    | .ok texts => .ok (some texts.eraseDups)
    | .error cause => .error (.unwritable cause)
  | _ => .error (.invalidPrecision precision)

/-- The Dewey values of a field in capitals without spaces, each once. -/
def searchable? (reader : FieldReader) (spec : Text) : Option (List Text) :=
  match ((reader.listValues spec).filter Scheme.isDewey).map fun value =>
      value.upper.replace ' ' [] with
  | [] => none
  | values => some values.eraseDups

/-- The shelf key of the first Dewey value of a field. -/
def sortable? (reader : FieldReader) (spec : Text) : Option Text :=
  ((reader.listValues spec).find? Scheme.isDewey).map ShelfKey.dewey

end DeweyFacet
end Shelfmark
