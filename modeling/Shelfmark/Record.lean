import Shelfmark.Text.Basic

/-!
# Records

A record is what a catalogue knows about one work, reduced to the texts stored
under field specifications such as `050ab`.  A reader may ask for several
fields at once by joining their specifications with colons; a colon between
single quotes belongs to a specification and does not separate.
-/

namespace Shelfmark

/-- The fields of one record, in the order in which they were first filled. -/
structure Record where
  /-- The control number. -/
  id : Option Text := none
  /-- The values stored under each single field specification. -/
  fields : List (Text × List Text) := []
  deriving Repr, DecidableEq

/-! ## Field specifications -/

namespace FieldSpec

/-- The pieces between the colons outside quotes; the flag says whether a quote is open. -/
def pieces (quoted : Bool) : Text → List Text
  | [] => [[]]
  | c :: s =>
    if c = ':' ∧ ¬quoted then [] :: pieces quoted s
    else
      match pieces (if c = '\'' then !quoted else quoted) s with
      | [] => [[c]]
      | piece :: rest => (c :: piece) :: rest

/-- The single field specifications that a specification names. -/
def split (spec : Text) : List Text :=
  (pieces false spec).filter (!·.isEmpty)

end FieldSpec

namespace Record

/-! ## Filling a record -/

/-- Appends values to the field with a given specification, at the end of the fields if there
is none yet. -/
def appendTo (spec : Text) (values : List Text) : List (Text × List Text) → List (Text × List Text)
  | [] => [(spec, values)]
  | field :: rest =>
    if field.1 = spec then (field.1, field.2 ++ values) :: rest
    else field :: appendTo spec values rest

/-- The record with values appended to a field. -/
def withField (record : Record) (spec : Text) (values : List Text) : Record :=
  { record with fields := appendTo spec values record.fields }

/-! ## Reading a record -/

/-- The values of all fields that a specification names: trimmed, not empty, each once and in
order of first occurrence. -/
def listValues (record : Record) (spec : Text) : List Text :=
  let stored := (FieldSpec.split spec).flatMap fun field =>
    (record.fields.lookup field).getD []
  ((stored.map Text.trim).filter (!·.isEmpty)).eraseDups

/-- The first of the values that a specification names. -/
def firstValue? (record : Record) (spec : Text) : Option Text :=
  (record.listValues spec).head?

end Record

/-! ## Access to the fields -/

/-- Read access to the fields of a record, wherever they are stored. -/
structure FieldReader where
  /-- The control number. -/
  id : Option Text
  /-- The values of all fields that a specification names. -/
  listValues : Text → List Text

/-- The first of the values that a specification names. -/
def FieldReader.firstValue? (reader : FieldReader) (spec : Text) : Option Text :=
  (reader.listValues spec).head?

/-- Reads the fields of a record held in memory. -/
def Record.reader (record : Record) : FieldReader :=
  ⟨record.id, record.listValues⟩

/-- What is read through a reader may be read from a record held in memory. -/
instance : Coe Record FieldReader := ⟨Record.reader⟩

end Shelfmark
