import Shelfmark.Cluster.Best
import Shelfmark.Cluster.Summary
import Shelfmark.Record
import Shelfmark.ShelfKey.Basic
import Shelfmark.ShelfKey.Reverse

/-!
# The call numbers of a record

A record carries a call number for each copy in its holdings, and the catalogue
may suggest one.  They are gathered, grouped into clusters and reduced to one
best call number, from which the record's shelf keys are made.
-/

namespace Shelfmark

/-- The call numbers of one record and what was made of them. -/
structure CallNumberSet where
  /-- The control number of the record. -/
  id : Option Text
  /-- The call numbers as read, holdings first, numbered in that order. -/
  raw : List RawCallNumber
  /-- The entries of the holdings. -/
  holdings : List Entry
  /-- The entries of the holdings and of the catalogue. -/
  entries : List Entry
  /-- The clusters of the holdings. -/
  holdingsClusters : Clusters
  /-- The clusters of all entries. -/
  clusters : Clusters
  /-- The entry that represents the record. -/
  best : Option Entry
  /-- The options under which the call numbers were gathered. -/
  options : Options
  deriving Repr, DecidableEq

namespace CallNumberSet

/-! ## Gathering -/

/-- Splits a holdings value at its first colon; both halves have to be more than blanks. -/
def holding? (options : Options) (value : Text) : Option (Text × Text) :=
  (Text.cut? ':' value).bind fun parts =>
    let scheme := parts.1.trim
    let callNumber := parts.2.trim
    if scheme.isEmpty || callNumber.isEmpty then none
    else some (options.resolveScheme scheme, callNumber)

/-- The holdings of a record, numbered, without repetition of scheme and call number. -/
def readHoldings (reader : FieldReader) (options : Options) : List RawCallNumber :=
  let values := reader.listValues options.fields.holdings
  ((values.filterMap (holding? options)).eraseDups).mapIdx fun ordinal holding =>
    ⟨holding.2, some holding.1, ordinal⟩

/-- The call numbers that the catalogue suggests, numbered from `first` on. -/
def readFallback (reader : FieldReader) (options : Options) (first : Nat) : List RawCallNumber :=
  ((reader.listValues options.fields.lcFallback).filter Scheme.isLc).mapIdx fun i value =>
    ⟨value, some Scheme.lc.label, first + i⟩

/-- The call numbers of a record: its holdings, and what the catalogue suggests unless a
holding is tagged as Library of Congress. -/
def readAll (reader : FieldReader) (options : Options) : List RawCallNumber :=
  let holdings := readHoldings reader options
  if (holdings.map Entry.ofRaw).any Entry.isTaggedLc then holdings
  else holdings ++ readFallback reader options holdings.length

/-- The first member of the best cluster, cleaned if it is tagged as Library of Congress. -/
def chooseBest? (clusters : Clusters) : Option Entry :=
  (clusters.best?.bind Cluster.first?).map fun entry =>
    if entry.isTaggedLc then entry.cleaned else entry

/-- The call numbers of a record, as its fields are read. -/
def ofReader (reader : FieldReader) (options : Options) : CallNumberSet :=
  let raw := readAll reader options
  let holdings := (readHoldings reader options).map Entry.ofRaw
  let entries := raw.map Entry.ofRaw
  let clusters := Clusters.ofEntries entries options
  { id := reader.id
    raw := raw
    holdings := holdings
    entries := entries
    holdingsClusters := Clusters.ofEntries holdings options
    clusters := clusters
    best := chooseBest? clusters
    options := options }

/-- The call numbers of a record held in memory. -/
def ofRecord (record : Record) (options : Options) : CallNumberSet :=
  ofReader record.reader options

/-! ## The best call number -/

/-- The best call number as it is displayed. -/
def displayed? (set : CallNumberSet) : Option Text :=
  set.best.map Entry.value

/-- The text by which an entry is sorted: its shelf key, or its value if it has none. -/
def sortKey (entry : Entry) : Text :=
  if entry.isLc then ShelfKey.lc entry.value
  else if entry.scheme = .dewey then ShelfKey.dewey entry.value
  else entry.value

/-- The shelf key of the best call number. -/
def sortable? (set : CallNumberSet) : Option Text :=
  set.best.map sortKey

/-- The reverse key of the best call number. -/
def reverseKey? (set : CallNumberSet) : Option Text :=
  set.sortable?.map ShelfKey.reverse

/-! ## Listings -/

/-- A list, unless it is empty. -/
def nonempty? {α : Type} (values : List α) : Option (List α) :=
  if values.isEmpty then none else some values

/-- The values of entries in natural order, or the summaries of their clusters. -/
def listing (options : Options) (entries : List Entry) (clusters : Clusters) (conflate : Bool) :
    Option (List Text) :=
  nonempty? <|
    if conflate then clusters.summaries options
    else NaturalOrder.sortDistinct NaturalOrder.natural (entries.map Entry.value)

/-- Every call number, summarised by clusters if `conflate` is set. -/
def listed? (set : CallNumberSet) (conflate : Bool) : Option (List Text) :=
  listing set.options set.entries set.clusters conflate

/-- Every call number of the holdings, summarised by clusters if `conflate` is set. -/
def listedHoldings? (set : CallNumberSet) (conflate : Bool) : Option (List Text) :=
  listing set.options set.holdings set.holdingsClusters conflate

end CallNumberSet
end Shelfmark
