import Shelfmark.CommandLine.Arguments

/-!
# Command line - Pages of help

A page of help says what the program or one of its commands does, how it is
written on the command line, and what each part of that means.  The parts are
listed under titles, with their explanations in a column.
-/

namespace Shelfmark
namespace CommandLine

/-! ## Layout -/

/-- A line of text. -/
def textLine (s : String) : Text :=
  s.toList ++ ['\n']

/-- A list under a title: entries and, in a column behind them, what is said about each. -/
def listing (title : String) (rows : List (String × String)) : Text :=
  let columns := (rows.map (·.1.length)).foldl max 0 + 2
  '\n' :: textLine (title ++ ":") ++ rows.flatMap fun row =>
    [' ', ' '] ++ Text.padEnd columns row.1.toList ++ textLine row.2

/-- A page: what is said first, how the command line is written, and lists. -/
def pageText (about usage : String) (listings : Text) : Text :=
  textLine about ++ '\n' :: textLine ("Usage: callnum " ++ usage) ++ listings

/-! ## Entries -/

/-- The names of a switch and its value, the letters in a column. -/
def Switch.entry (switch : Switch) : String :=
  switch.letter.elim "    " (fun letter => String.ofList ['-', letter, ',', ' ']) ++
    "--" ++ switch.name ++ switch.value.elim "" fun value => " <" ++ value.name ++ ">"

/-- What is said about a switch, and what its value is where it is not given. -/
def Switch.explanation (switch : Switch) : String :=
  switch.about ++
    (switch.value.bind Value.default?).elim "" fun value => " [default: " ++ value ++ "]"

/-- The list of switches. -/
def options (switches : List Switch) : Text :=
  listing "Options" (switches.map fun switch => (switch.entry, switch.explanation))

/-- How operands are written. -/
def Operand.entry (operand : Operand) : String :=
  "<" ++ operand.name ++ ">" ++ if operand.repeated then "..." else ""

/-- What the command for help does. -/
def helpAbout : String :=
  "Print this message or the help of the given subcommand(s)"

/-! ## Pages -/

/-- The text of a page of help. -/
def Page.text : Page → Text
  | .program =>
    pageText "Shelf keys, parsing and per-record clustering of library call numbers"
      "[OPTIONS] <COMMAND>" <|
      listing "Commands"
        (Task.all.map (fun task => (task.form.name, task.form.about)) ++
          [(helpFlag.name, helpAbout)]) ++
      options programSwitches
  | .task t =>
    let form := t.form
    pageText form.about (form.name ++ " [OPTIONS] " ++ form.operand.entry) <|
      listing "Arguments" [(form.operand.entry, form.operand.about)] ++ options form.switches
  | .help =>
    pageText helpAbout (helpFlag.name ++ " [COMMAND]...") <|
      listing "Arguments" [("[COMMAND]...", "Print help for the subcommand(s)")]

end CommandLine
end Shelfmark
