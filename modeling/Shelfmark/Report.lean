import Shelfmark.CallNumberSet
import Shelfmark.Document.Json.Writer

/-!
# Reports

Two reports are written for readers: the breakdown of one call number into its
parts, and the call numbers of one record.  Each has a plain form with one fact
to a line and a form as a JSON object, from which absent facts are left out.
-/

namespace Shelfmark

open Document (Json.Value)
open Document.Json (member?)

/-! ## Breakdown of a call number -/

/-- A call number and its parts. -/
structure Breakdown where
  /-- The call number as it was given. -/
  input : Text
  /-- The scheme that it is shaped like. -/
  scheme : Scheme
  /-- Its parts as a Library of Congress number. -/
  lc : Option CallNumber.Lc
  /-- Its parts as a Dewey number. -/
  dewey : Option CallNumber.Dewey
  /-- Its shelf key. -/
  shelfKey : Option Text
  deriving Repr, DecidableEq

namespace Breakdown

/-- Breaks a call number down in the scheme that it is shaped like. -/
def ofCallNumber (input : Text) : Breakdown :=
  let scheme := Scheme.detect input
  { input := input
    scheme := scheme
    lc := if scheme = .lc then some (.parse input) else none
    dewey := if scheme = .dewey then CallNumber.Dewey.parse? input else none
    shelfKey := ShelfKey.ofCallNumber? input }

/-- The parts of a Library of Congress number with their names. -/
def lcParts (parts : CallNumber.Lc) : List (String × Option Text) :=
  [("letters", some parts.letters),
   ("class digits", parts.classDigits),
   ("class suffix", parts.classSuffix),
   ("first cutter", parts.firstCutter),
   ("first cutter suffix", parts.firstCutterSuffix),
   ("second cutter", parts.secondCutter),
   ("second cutter suffix", parts.secondCutterSuffix)]

/-- The parts of a Dewey number with their names. -/
def deweyParts (parts : CallNumber.Dewey) : List (String × Option Text) :=
  [("class digits", some parts.classDigits),
   ("cutter", parts.cutter),
   ("cutter suffix", parts.cutterSuffix)]

/-- All parts with their names. -/
def parts (breakdown : Breakdown) : List (String × Option Text) :=
  match breakdown.lc, breakdown.dewey with
  | some lc, _ => lcParts lc
  | none, some dewey => deweyParts dewey
  | none, none => []

/-- The columns of a name. -/
def nameColumns : Nat := 22

/-- A name and a value on an indented line. -/
def line (name : String) (value : Text) : Text :=
  [' ', ' '] ++ Text.padEnd nameColumns name.toList ++ value ++ ['\n']

/-- The plain form: the call number with its scheme, then its parts, those that are empty left
out, and its shelf key. -/
def plain (breakdown : Breakdown) : Text :=
  breakdown.input ++ [' ', '['] ++ breakdown.scheme.label ++ [']', '\n'] ++
    breakdown.parts.flatMap (fun part =>
      match part.2.bind Text.nonempty? with
      | some value => line part.1 value
      | none => []) ++
    (match breakdown.shelfKey with
      | some key => line "shelf key" key
      | none => [])

/-- The name of a part as a key: a hyphen for each space. -/
def keyOfName (name : String) : String :=
  String.ofList (Text.replace name.toList ' ' ['-'])

/-- Parts as an object. -/
def partsJson (parts : List (String × Option Text)) : Json.Value :=
  .object (parts.flatMap fun part => member? (keyOfName part.1) part.2)

/-- The breakdown as an object. -/
def json (breakdown : Breakdown) : Json.Value :=
  .object <|
    [("input", .text breakdown.input),
     ("scheme", .text (breakdown.scheme.label.map Char.toLower))] ++
    (breakdown.lc.map fun lc => ("lc", partsJson (lcParts lc))).toList ++
    (breakdown.dewey.map fun dewey => ("dewey", partsJson (deweyParts dewey))).toList ++
    member? "shelf-key" breakdown.shelfKey

end Breakdown

/-! ## Report on a record -/

/-- The call numbers of a record. -/
structure RecordReport where
  /-- The control number. -/
  id : Option Text
  /-- The best call number. -/
  callNumber : Option Text
  /-- Its shelf key. -/
  shelfKey : Option Text
  /-- The reverse of its shelf key. -/
  reverseShelfKey : Option Text
  /-- All call numbers, or the summaries of their clusters. -/
  callNumbers : List Text
  deriving Repr, DecidableEq

namespace RecordReport

/-- The report on a record; with `all` every call number is listed, otherwise one summary for
each cluster. -/
def ofRecord (record : Record) (options : Options) (all : Bool) : RecordReport :=
  let set := CallNumberSet.ofRecord record options
  { id := set.id
    callNumber := set.displayed?
    shelfKey := set.sortable?
    reverseShelfKey := set.reverseKey?
    callNumbers := (set.listed? (!all)).getD [] }

/-- The plain form: control number, best call number and shelf key between tabs, a hyphen for
each that is absent, then the call numbers on lines of their own. -/
def plain (report : RecordReport) : Text :=
  report.id.getD ['-'] ++ ['\t'] ++ report.callNumber.getD ['-'] ++ ['\t'] ++
    report.shelfKey.getD ['-'] ++ ['\n'] ++
    report.callNumbers.flatMap fun callNumber => '\t' :: callNumber ++ ['\n']

/-- The report as an object. -/
def json (report : RecordReport) : Json.Value :=
  .object <|
    member? "id" report.id ++
    member? "call-number" report.callNumber ++
    member? "shelf-key" report.shelfKey ++
    member? "reverse-shelf-key" report.reverseShelfKey ++
    [("call-numbers", .list (report.callNumbers.map .text))]

end RecordReport
end Shelfmark
