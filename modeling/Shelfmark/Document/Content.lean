import Shelfmark.Document.Yaml.Reader
import Shelfmark.Options
import Shelfmark.Record

/-!
# Documents - Records and options

A list of records, or a set of options, can be read from a document in either
notation.  What a document does not mention has its default, and keys that
nobody knows are skipped.
-/

namespace Shelfmark
namespace Document

/-- The tree of a document. -/
def read? : Dialect → Text → Option Node
  | .yaml => Yaml.read?
  | .json => Json.read?

/-! ## Records -/

/-- The keys of a record. -/
def recordKeys : List Text :=
  ["id", "fields"].map String.toList

/-- Reads a record: perhaps a control number, and values by field specification. -/
def record? (dialect : Dialect) (node : Node) : Option Record := do
  let fields ← node.fields? dialect recordKeys
  return {
    id := ← Node.field? fields "id" Node.optionalText? none
    fields := ← Node.field? fields "fields" (Node.dictionary? (Node.list? Node.text?)) [] }

/-- Reads a list of records. -/
def records? (dialect : Dialect) (text : Text) : Option (List Record) :=
  (read? dialect text).bind (Node.list? (record? dialect))

/-! ## Options -/

/-- The keys of the field specifications. -/
def specKeys : List Text :=
  ["holdings", "lc-fallback", "full-call-number", "call-number-label", "call-number-subject",
    "dewey", "region-places", "region-subdivisions"].map String.toList

/-- Reads field specifications. -/
def fieldSpecs? (dialect : Dialect) (node : Node) : Option FieldSpecs := do
  let fields ← node.fields? dialect specKeys
  let spec (name : String) (default : Text) := Node.field? fields name Node.text? default
  let base : FieldSpecs := {}
  return {
    holdings := ← spec "holdings" base.holdings
    lcFallback := ← spec "lc-fallback" base.lcFallback
    fullCallNumber := ← spec "full-call-number" base.fullCallNumber
    callNumberLabel := ← spec "call-number-label" base.callNumberLabel
    callNumberSubject := ← spec "call-number-subject" base.callNumberSubject
    dewey := ← spec "dewey" base.dewey
    regionPlaces := ← spec "region-places" base.regionPlaces
    regionSubdivisions := ← spec "region-subdivisions" base.regionSubdivisions }

/-- The keys of the options. -/
def optionKeys : List Text :=
  ["key-length", "max-summary-length", "max-listed-volumes", "drop-unknown-schemes",
    "scheme-aliases", "fields"].map String.toList

/-- Reads options. -/
def optionsOf? (dialect : Dialect) (node : Node) : Option Options := do
  let fields ← node.fields? dialect optionKeys
  let base : Options := {}
  return {
    keyLength := ← Node.field? fields "key-length" Node.count? base.keyLength
    maxSummaryLength :=
      ← Node.field? fields "max-summary-length" Node.count? base.maxSummaryLength
    maxListedVolumes :=
      ← Node.field? fields "max-listed-volumes" Node.count? base.maxListedVolumes
    dropUnknownSchemes :=
      ← Node.field? fields "drop-unknown-schemes" Node.flag? base.dropUnknownSchemes
    schemeAliases :=
      ← Node.field? fields "scheme-aliases" (Node.dictionary? Node.text?) base.schemeAliases
    fields := ← Node.field? fields "fields" (fieldSpecs? dialect) base.fields }

/-- Reads the options in a document. -/
def options? (dialect : Dialect) (text : Text) : Option Options :=
  (read? dialect text).bind (optionsOf? dialect)

end Document
end Shelfmark
