import Shelfmark.CommandLine.Help
import Shelfmark.Document.Content
import Shelfmark.Report

/-!
# Command line - Running a command

What a command prints depends only on its arguments and on the texts of the
files it names.  A command that fails prints nothing: arguments that are not
understood end with exit code 2, a file that is missing or cannot be read as
what it should be with exit code 1.  A request for help or for the version is
no failure: the page or the version is printed, and no command is carried out.
-/

namespace Shelfmark
namespace CommandLine

/-- What the program leaves behind. -/
structure Outcome where
  /-- The exit code. -/
  code : Nat
  /-- The text on standard output. -/
  output : Text
  deriving Repr, DecidableEq

/-- The outcome of arguments that are not understood. -/
def usageError : Outcome := ⟨2, []⟩

/-- The outcome of a file that cannot be read. -/
def fileError : Outcome := ⟨1, []⟩

/-- The name and version of the program. -/
def versionLine : Text :=
  "callnum 0.5.0\n".toList

/-! ## Files -/

/-- The texts of files, by name. -/
abbrev Files := Text → Option Text

/-- The last part of a path. -/
def fileName (path : Text) : Text :=
  (Text.afterLast? '/' path).getD path

/-- The part of a file name behind its last point, unless the point comes first. -/
def fileExtension? (path : Text) : Option Text :=
  let name := fileName path
  (Text.afterLast? '.' name).bind fun ending =>
    if ending.length + 1 < name.length then some ending else none

/-- The notation that the name of a file promises. -/
def dialectOf (path : Text) : Document.Dialect :=
  if (fileExtension? path).map (·.map Char.toLower) = some "json".toList then .json else .yaml

/-- Reads the records in a file. -/
def recordsIn? (files : Files) (path : Text) : Option (List Record) :=
  (files path).bind (Document.records? (dialectOf path))

/-- Reads the options in a file, or takes the defaults if no file is named. -/
def optionsIn? (files : Files) : Option Text → Option Options
  | none => some {}
  | some path => (files path).bind (Document.options? (dialectOf path))

/-! ## Commands -/

/-- The line for the key of one call number; nothing if it is of no known scheme. -/
def keyLine (reverse : Bool) (callNumber : Text) : Text :=
  match ShelfKey.ofCallNumber? callNumber with
  | none => []
  | some key =>
    callNumber ++ ['\t'] ++ (if reverse then ShelfKey.reverse key else key) ++ ['\n']

/-- A list as JSON on lines of its own. -/
def jsonLines (values : List Document.Json.Value) : Text :=
  (Document.Json.Value.list values).pretty ++ ['\n']

/-- What a command leaves behind, given the pages of help. -/
def Command.run (pages : Page → Text) (files : Files) : Command → Outcome
  | .help page => ⟨0, pages page⟩
  | .version => ⟨0, versionLine⟩
  | .key callNumbers reverse => ⟨0, callNumbers.flatMap (keyLine reverse)⟩
  | .parse callNumbers json =>
    let breakdowns := callNumbers.map Breakdown.ofCallNumber
    ⟨0, if json then jsonLines (breakdowns.map Breakdown.json)
        else breakdowns.flatMap Breakdown.plain⟩
  | .cluster file optionsFile all json =>
    match optionsIn? files optionsFile with
    | none => fileError
    | some options =>
      match recordsIn? files file with
      | none => fileError
      | some records =>
        let reports := records.map fun record => RecordReport.ofRecord record options all
        ⟨0, if json then jsonLines (reports.map RecordReport.json)
            else reports.flatMap RecordReport.plain⟩

/-- The names of the files that a command reads. -/
def Command.fileNames : Command → List Text
  | .cluster file optionsFile _ _ => optionsFile.toList ++ [file]
  | _ => []

/-- What the program leaves behind when it is run with some arguments, given the pages of help:
how these are laid out matters for nothing else. -/
def runWith (pages : Page → Text) (arguments : List Text) (files : Files) : Outcome :=
  match Command.ofArguments? arguments with
  | none => usageError
  | some command => command.run pages files

/-- What the program leaves behind when it is run with some arguments. -/
def run (arguments : List Text) (files : Files) : Outcome :=
  runWith Page.text arguments files

end CommandLine
end Shelfmark
