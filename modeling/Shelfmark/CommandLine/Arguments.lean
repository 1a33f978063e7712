import Shelfmark.Text.Basic

/-!
# Command line - Arguments

The program has three commands, each with flags and options of its own; the
log level may be set before the command as well as behind it.  Flags have long
and short names, which are never abbreviated; an option takes its value from
the same argument or from the next one; two hyphens end the flags.

Help and the version are asked for by flags, and help by a command as well.
Such a request is answered at once: what stands behind it is not looked at, and
a command that is asked for help needs no operands.

Every other departure from this is a usage error, for which there is no more to
say than that the arguments are not understood.
-/

namespace Shelfmark
namespace CommandLine

/-! ## Commands -/

/-- The commands that work on call numbers and records. -/
inductive Task where
  /-- Print the shelf key of each call number, or its reverse key. -/
  | key
  /-- Break each call number down into its parts. -/
  | parse
  /-- Report on each record of a file. -/
  | cluster
  deriving Repr, DecidableEq

/-- The pages of help. -/
inductive Page where
  /-- On the program as a whole. -/
  | program
  /-- On one of its commands. -/
  | task (task : Task)
  /-- On the command that prints the pages of help. -/
  | help
  deriving Repr, DecidableEq

/-- What the program is asked to do. -/
inductive Command where
  /-- Print a page of help. -/
  | help (page : Page)
  /-- Print the program's name and version. -/
  | version
  /-- Print the shelf key of each call number, or its reverse key. -/
  | key (callNumbers : List Text) (reverse : Bool)
  /-- Break each call number down into its parts. -/
  | parse (callNumbers : List Text) (json : Bool)
  /-- Report on each record of a file. -/
  | cluster (file : Text) (options : Option Text) (all json : Bool)
  deriving Repr, DecidableEq

/-- The command that is carried out, unless it is a request for help or for the version. -/
def Command.task? : Command → Option Task
  | .help _ => none
  | .version => none
  | .key _ _ => some .key
  | .parse _ _ => some .parse
  | .cluster _ _ _ _ => some .cluster

/-- What is asked for and answered at once. -/
inductive Request where
  /-- The page of help on the command, or on the program in front of a command. -/
  | help
  /-- The version. -/
  | version
  deriving Repr, DecidableEq

/-- What a request asks the program to do where help is on a given page. -/
def Request.command (page : Page) : Request → Command
  | .help => .help page
  | .version => .version

/-! ## Values -/

/-- What the text of a value has to be. -/
inductive Kind where
  /-- Any text. -/
  | text
  /-- The name of a file. -/
  | path
  /-- A log level. -/
  | level
  deriving Repr, DecidableEq

/-- The words for the log levels. -/
def logLevels : List String :=
  ["off", "error", "warn", "info", "debug", "trace"]

/-- Whether a text is a log level, in any case. -/
def isLogLevel (value : Text) : Bool :=
  logLevels.any fun level => level.toList == value.map Char.toLower

/-- Whether a text is what it has to be; the names of files may not be empty. -/
def Kind.accepts : Kind → Text → Bool
  | .text, _ => true
  | .path, value => !value.isEmpty
  | .level, value => isLogLevel value

/-- The value of an option. -/
structure Value where
  /-- What it is called. -/
  name : String
  /-- What it has to be. -/
  kind : Kind
  /-- What it is where the option is not given, if that is shown. -/
  default? : Option String := none
  deriving Repr, DecidableEq

/-! ## Flags and options -/

/-- A flag or option that a command knows. -/
structure Switch where
  /-- The name behind two hyphens. -/
  name : String
  /-- The letter behind one hyphen, if there is one. -/
  letter : Option Char := none
  /-- The value, if it takes one. -/
  value : Option Value := none
  /-- The request that it makes, if it makes one. -/
  request : Option Request := none
  /-- What is said about it on a page of help. -/
  about : String
  deriving Repr, DecidableEq

/-- The option for the log level. -/
def logLevel : Switch :=
  { name := "log-level", value := some ⟨"LEVEL", .level, some "warn"⟩,
    about := "Set log level (error, warn, info, debug, trace)" }

/-- The flag that asks for help. -/
def helpFlag : Switch :=
  { name := "help", letter := some 'h', request := some .help, about := "Print help" }

/-- The flag that asks for the version. -/
def versionFlag : Switch :=
  { name := "version", letter := some 'V', request := some .version, about := "Print version" }

/-- What stands in front of a command. -/
def programSwitches : List Switch :=
  [logLevel, helpFlag, versionFlag]

/-- The arguments of a command that belong to no option. -/
structure Operand where
  /-- What one of them is called. -/
  name : String
  /-- What each has to be. -/
  kind : Kind
  /-- Whether there may be more than one. -/
  repeated : Bool
  /-- What is said about them on a page of help. -/
  about : String
  deriving Repr, DecidableEq

/-- Whether a command takes some operands, be they enough or not. -/
def Operand.takes (operand : Operand) (values : List Text) : Bool :=
  values.all operand.kind.accepts && (operand.repeated || values.length ≤ 1)

/-- What is written on the command line for a command. -/
structure Form where
  /-- The name of the command. -/
  name : String
  /-- What is said about it on a page of help. -/
  about : String
  /-- Its operands. -/
  operand : Operand
  /-- Its switches, in the order in which they are listed. -/
  switches : List Switch
  deriving Repr, DecidableEq

/-- How each command is written. -/
def Task.form : Task → Form
  | .key =>
    { name := "key"
      about := "Print the shelf key of each call number"
      operand := ⟨"CALL_NUMBERS", .text, true, "LC or Dewey call numbers"⟩
      switches :=
        [logLevel,
          { name := "reverse", letter := some 'r', about := "Print reverse shelf keys instead" },
          helpFlag] }
  | .parse =>
    { name := "parse"
      about := "Show the components of each call number"
      operand := ⟨"CALL_NUMBERS", .text, true, "LC or Dewey call numbers"⟩
      switches := [{ name := "json", about := "Output as JSON" }, logLevel, helpFlag] }
  | .cluster =>
    { name := "cluster"
      about := "Pick the best call number of each record and summarize the rest"
      operand := ⟨"FILE", .path, false, "Records as a YAML or JSON list"⟩
      switches :=
        [logLevel,
          { name := "options", letter := some 'o', value := some ⟨"OPTIONS", .path, none⟩,
            about := "Conflation options (YAML or JSON)" },
          { name := "all", about := "List every call number instead of one summary per cluster" },
          { name := "json", about := "Output as JSON" },
          helpFlag] }

/-- All commands, in the order in which they are listed. -/
def Task.all : List Task :=
  [.key, .parse, .cluster]

/-- The command with a name. -/
def Task.ofName? (name : Text) : Option Task :=
  Task.all.find? (·.form.name.toList == name)

/-! ## Reading arguments one by one -/

/-- One meaning among the arguments of a command. -/
inductive Part where
  /-- A flag, by its name. -/
  | flag (name : String)
  /-- An option, by its name, and its value. -/
  | option (name : String) (value : Text)
  /-- An argument that belongs to no option. -/
  | operand (value : Text)
  /-- A flag that makes a request. -/
  | request (request : Request)
  deriving Repr, DecidableEq

/-- The request that is made. -/
def request? (parts : List Part) : Option Request :=
  parts.findSome? fun part =>
    match part with
    | .request request => some request
    | _ => none

/-- Whether an argument cannot be a value because it begins like a flag. -/
def looksLikeFlag (argument : Text) : Bool :=
  argument.head? == some '-' && argument != ['-']

/-- The switches in a row of letters, up to one that makes a request.  The last letter may be
that of an option: its value is the rest of the row, perhaps behind an equals sign.  The option
whose value is still to come, if any, is given by its name. -/
def letters? (switches : List Switch) : Text → Option (List Part × Option String)
  | [] => some ([], none)
  | c :: rest =>
    match switches.find? (·.letter == some c) with
    | none => none
    | some switch =>
      match switch.value, switch.request with
      | some _, _ =>
        if rest.isEmpty then some ([], some switch.name)
        else some ([.option switch.name (Text.dropFirst '=' rest)], none)
      | none, some request => some ([.request request], none)
      | none, none =>
        (letters? switches rest).map fun (parts, pending) => (.flag switch.name :: parts, pending)

/-- The switch in an argument behind its two hyphens, with its value if it has one. -/
def word? (switches : List Switch) (argument : Text) : Option (List Part × Option String) :=
  let (name, value) :=
    match Text.cut? '=' argument with
    | some (name, value) => (name, some value)
    | none => (argument, none)
  match switches.find? (·.name.toList == name) with
  | none => none
  | some switch =>
    match switch.value, switch.request, value with
    | some _, _, some value => some ([.option switch.name value], none)
    | some _, _, none => some ([], some switch.name)
    | none, _, some _ => none
    | none, some request, none => some ([.request request], none)
    | none, none, none => some ([.flag switch.name], none)

/-- What one argument in front of the end of the flags means. -/
def argument? (switches : List Switch) : Text → Option (List Part × Option String)
  | '-' :: '-' :: word => word? switches word
  | '-' :: c :: rest => letters? switches (c :: rest)
  | value => some ([.operand value], none)

/-- The meaning of the arguments of a command, one by one, up to a request. -/
def parts? (switches : List Switch) : List Text → Option (List Part)
  | [] => some []
  | argument :: rest =>
    if argument = ['-', '-'] then some (rest.map .operand)
    else
      match argument? switches argument, rest with
      | none, _ => none
      | some (parts, none), rest =>
        if (request? parts).isSome then some parts else (parts? switches rest).map (parts ++ ·)
      | some (_, some _), [] => none
      | some (parts, some name), value :: rest =>
        if looksLikeFlag value then none
        else (parts? switches rest).map (parts ++ .option name value :: ·)

/-! ## Reading the arguments of a command -/

/-- The switches given, by name. -/
def given (parts : List Part) : List String :=
  parts.filterMap fun part =>
    match part with
    | .flag name => some name
    | .option name _ => some name
    | _ => none

/-- The arguments that belong to no option. -/
def operands (parts : List Part) : List Text :=
  parts.filterMap fun part =>
    match part with
    | .operand value => some value
    | _ => none

/-- The value of an option. -/
def valueOf? (parts : List Part) (name : String) : Option Text :=
  parts.findSome? fun part =>
    match part with
    | .option other value => if other = name then some value else none
    | _ => none

/-- Whether an option has the value that it has to have, if it is given. -/
def Switch.fits (switch : Switch) (parts : List Part) : Bool :=
  switch.value.all fun value => (valueOf? parts switch.name).all value.kind.accepts

/-- Whether the parts of a command's arguments are in order: no switch twice, and all values what
they have to be. -/
def Form.accepts (form : Form) (parts : List Part) : Bool :=
  (given parts).Nodup && form.switches.all (·.fits parts) && form.operand.takes (operands parts)

/-- The parts of a command's arguments, if they are in order. -/
def Form.parts? (form : Form) (arguments : List Text) : Option (List Part) :=
  (CommandLine.parts? form.switches arguments).filter form.accepts

/-- What the parts of a command's arguments ask it to do. -/
def Task.command (parts : List Part) : Task → Command
  | .key => .key (operands parts) ((given parts).contains "reverse")
  | .parse => .parse (operands parts) ((given parts).contains "json")
  | .cluster =>
    .cluster ((operands parts).headD []) (valueOf? parts "options") ((given parts).contains "all")
      ((given parts).contains "json")

/-- Reads the arguments of a command, which needs an operand unless a request is made. -/
def Task.read? (task : Task) (arguments : List Text) : Option Command :=
  (task.form.parts? arguments).bind fun parts =>
    match request? parts with
    | some request => some (request.command (.task task))
    | none => if (operands parts).isEmpty then none else some (task.command parts)

/-! ## Reading a command line -/

/-- The page that is asked for by the words behind the command for help: that on the program, or
on the command with the only word as its name. -/
def Page.ofWords? : List Text → Option Page
  | [] => some .program
  | [name] =>
    if name = helpFlag.name.toList then some .help else (Task.ofName? name).map .task
  | _ => none

/-- Whether the log levels in front of a command are in order: one at most, and a log level. -/
def levelsFit (levels : List Text) : Bool :=
  levels.length ≤ 1 && levels.all isLogLevel

/-- Reads a command line behind some log levels.  A log level that is an argument of its own is
looked at when the next switch in front of the command is, or when the command is carried out. -/
def command? (levels : List Text) : List Text → Option Command
  | [] => none
  | argument :: rest =>
    if !looksLikeFlag argument then
      if argument = helpFlag.name.toList then (Page.ofWords? rest).map .help
      else
        ((Task.ofName? argument).bind (·.read? rest)).filter fun command =>
          command.task?.isNone || levelsFit levels
    else
      match argument? programSwitches argument, rest with
      | some ([.request request], none), _ =>
        if levelsFit levels then some (request.command .program) else none
      | some ([.option _ level], none), rest =>
        if levelsFit (levels ++ [level]) then command? (levels ++ [level]) rest else none
      | some ([], some _), level :: rest =>
        if levelsFit levels && !looksLikeFlag level then command? (levels ++ [level]) rest else none
      | _, _ => none

/-- Reads the arguments of the program; `none` is a usage error. -/
def Command.ofArguments? (arguments : List Text) : Option Command :=
  command? [] arguments

end CommandLine
end Shelfmark
