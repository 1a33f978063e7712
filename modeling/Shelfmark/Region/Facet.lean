import Shelfmark.Options
import Shelfmark.Record
import Shelfmark.Region.Chain

/-!
# Regions - Facet values

The region facet of a record lists its geographic headings and the places of
its subdivision chains, each once and in that order.
-/

namespace Shelfmark
namespace Region

/-- The geographic headings of a record, cleaned; those that cleaning empties are left out. -/
def places (reader : FieldReader) (fields : FieldSpecs) : List Text :=
  ((reader.listValues fields.regionPlaces).map cleanHeading).filter (!·.isEmpty)

/-- The places of all subdivision chains of a record. -/
def chained (reader : FieldReader) (fields : FieldSpecs) : List Text :=
  (reader.listValues fields.regionSubdivisions).flatMap qualifyChain

/-- The region facet of a record, however its fields are read; `none` if it has no value. -/
def facetOf? (reader : FieldReader) (fields : FieldSpecs) : Option (List Text) :=
  match (places reader fields ++ chained reader fields).eraseDups with
  | [] => none
  | values => some values

/-- The region facet of a record held in memory. -/
def facet? (record : Record) (fields : FieldSpecs) : Option (List Text) :=
  facetOf? record.reader fields

end Region
end Shelfmark
