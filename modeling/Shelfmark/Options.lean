import Shelfmark.Text.Basic

/-!
# Options

What a library may choose: how call numbers are grouped and summarised, which
scheme names stand for another, and which fields of a record hold what.
-/

namespace Shelfmark

/-- The specifications of the fields that are read from a record. -/
structure FieldSpecs where
  /-- Holdings, each written as scheme, colon and call number. -/
  holdings : Text := "999wa':'".toList
  /-- Library of Congress numbers of the catalogue, for records without such holdings. -/
  lcFallback : Text := "050ab".toList
  /-- Fields whose first value is the full call number. -/
  fullCallNumber : Text := "099ab:090ab:050ab".toList
  /-- Fields whose first value gives the call number label. -/
  callNumberLabel : Text := "090a:050a".toList
  /-- Fields whose first value gives the call number subject. -/
  callNumberSubject : Text := "090a:050a".toList
  /-- Dewey numbers. -/
  dewey : Text := "082a".toList
  /-- Geographic headings. -/
  regionPlaces : Text := "651a".toList
  /-- Geographic subdivision chains, joined with number signs. -/
  regionSubdivisions : Text := "650z'#'".toList
  deriving Repr, DecidableEq

/-- How the call numbers of a record are grouped, summarised and found. -/
structure Options where
  /-- The number of leading characters by which call numbers are grouped. -/
  keyLength : Nat := 5
  /-- The longest summary that is shown in full. -/
  maxSummaryLength : Nat := 100
  /-- The size of the largest group whose members are shown one by one. -/
  maxListedVolumes : Nat := 10
  /-- Whether call numbers of no known scheme are left out. -/
  dropUnknownSchemes : Bool := true
  /-- Scheme names that stand for another scheme, in the order given. -/
  schemeAliases : List (Text × Text) :=
    [("MONO-SER".toList, "LC".toList), ("LCPER".toList, "LC".toList)]
  /-- The fields to read. -/
  fields : FieldSpecs := {}
  deriving Repr, DecidableEq

/-- The scheme that a scheme name stands for. -/
def Options.resolveScheme (options : Options) (scheme : Text) : Text :=
  (options.schemeAliases.lookup scheme).getD scheme

end Shelfmark
