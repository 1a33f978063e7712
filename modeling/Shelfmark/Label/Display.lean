import Shelfmark.CallNumber.Lc
import Shelfmark.Record

/-!
# Labels - Short forms of a call number

The first catalogued call number of a record is displayed in three short forms:
whole, up to the first period, and by its class letters alone.
-/

namespace Shelfmark
namespace Label

/-- The whole call number in capitals without spaces. -/
def full? (reader : FieldReader) (spec : Text) : Option Text :=
  (reader.firstValue? spec).map fun value => value.upper.replace ' ' []

/-- The part in front of the first period in capitals; a call number that begins with a
period stays whole. -/
def callNumber? (reader : FieldReader) (spec : Text) : Option Text :=
  (reader.firstValue? spec).map fun value =>
    let front := value.takeWhile (· != '.')
    Text.upper (if front.isEmpty then value else front)

/-- The class letters. -/
def subject? (reader : FieldReader) (spec : Text) : Option Text :=
  (reader.firstValue? spec).bind fun value =>
    (CallNumber.Lc.leadingLetters value.upper).nonempty?

end Label
end Shelfmark
