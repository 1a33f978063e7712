import Shelfmark.CommandLine.Run
import Shelfmark.Proofs.CommandLine.Arguments

/-!
# Command line - What is printed

A command either fails and prints nothing, or it prints what it has to say about each of its call
numbers or records, one after the other.  Neither the other call numbers nor their place on the
command line matter for what is said about one: it is what the same command line prints with that
call number as its only one.  A request for help prints its page and nothing else.

Main results:

- Theorem `output_of_failure`: a command line that fails prints nothing.
- Theorems `run_key`, `run_parse` and `run_cluster`: the plain output as a row of outputs.
- Theorem `run_composed`: all of it for every command line and all files.
-/

namespace Shelfmark

/-- A call number has a key unless it is of no known scheme. -/
theorem ShelfKey.ofCallNumber?_eq_none_iff (callNumber : Text) :
    ofCallNumber? callNumber = none ↔ Scheme.detect callNumber = .unknown := by
  unfold ofCallNumber?
  cases Scheme.detect callNumber with
  | lc => simp
  | dewey => simp
  | unknown => simp

namespace CommandLine

/-! ## Failing -/

/-- A command that fails prints nothing. -/
theorem Command.output_of_failure {pages : Page → Text} {files : Files} {command : Command}
    (h : (command.run pages files).code ≠ 0) : (command.run pages files).output = [] := by
  cases command with
  | help page => exact absurd rfl h
  | version => exact absurd rfl h
  | key callNumbers reverse => exact absurd rfl h
  | parse callNumbers json => exact absurd rfl h
  | cluster file options all json =>
    unfold Command.run at h ⊢
    dsimp only at h ⊢
    cases hoptions : optionsIn? files options with
    | none => rfl
    | some read =>
      rw [hoptions] at h
      dsimp only at h ⊢
      cases hrecords : recordsIn? files file with
      | none => rfl
      | some records =>
        rw [hrecords] at h
        exact absurd rfl h

/-- A command line that fails prints nothing. -/
theorem output_of_failure {pages : Page → Text} {arguments : List Text} {files : Files}
    (h : (runWith pages arguments files).code ≠ 0) :
    (runWith pages arguments files).output = [] := by
  unfold runWith at h ⊢
  cases hcommand : Command.ofArguments? arguments with
  | none => rfl
  | some command =>
    rw [hcommand] at h
    exact Command.output_of_failure h

/-! ## Printing in a row -/

/-- What a command line prints for some operands, each of them as the only one, in a row. -/
def outputInTurn (pages : Page → Text) (arguments : List Text) (files : Files)
    (operands : List Text) : Text :=
  operands.flatMap fun operand => (runWith pages (withOperands [operand] arguments) files).output

/-- No line is printed for a call number of no known scheme, and one for any other. -/
theorem keyLine_eq_nil_iff (reverse : Bool) (callNumber : Text) :
    keyLine reverse callNumber = [] ↔ Scheme.detect callNumber = .unknown := by
  rw [← ShelfKey.ofCallNumber?_eq_none_iff]
  unfold keyLine
  cases ShelfKey.ofCallNumber? callNumber with
  | none => simp
  | some key => simp

/-- A report on records needs the options and the records. -/
theorem exists_of_run_cluster {pages : Page → Text} {files : Files} {file : Text}
    {options : Option Text} {all json : Bool}
    (h : ((Command.cluster file options all json).run pages files).code = 0) :
    ∃ read, optionsIn? files options = some read := by
  unfold Command.run at h
  dsimp only at h
  split at h
  · contradiction
  · rename_i read hread
    exact ⟨read, hread⟩

/-- The report on records is what is said about each of them. -/
theorem run_cluster_records (pages : Page → Text) {files : Files} {file : Text}
    {options : Option Text} {all : Bool} {read : Options} {records : List Record}
    (hoptions : optionsIn? files options = some read)
    (hrecords : recordsIn? files file = some records) :
    (Command.cluster file options all false).run pages files =
      ⟨0, records.flatMap fun record => (RecordReport.ofRecord record read all).plain⟩ := by
  unfold Command.run
  dsimp only
  rw [hoptions, hrecords]
  dsimp only
  rw [List.flatMap_map]
  rfl

section Lines

variable {pages : Page → Text} {arguments : List Text} {files : Files} {command : Command}

/-- A command line that is understood runs its command. -/
theorem run_of_command (h : Command.ofArguments? arguments = some command) :
    runWith pages arguments files = command.run pages files := by
  rw [runWith, h]

/-- With another operand a command line runs its command on that. -/
theorem run_alone {task : Task} (h : Command.ofArguments? arguments = some command)
    (htask : command.task? = some task) {operand : Text}
    (htakes : task.form.operand.takes [operand] = true) :
    runWith pages (withOperands [operand] arguments) files =
      (command.onOperands [operand]).run pages files :=
  run_of_command (ofArguments?_withOperands h htask (List.cons_ne_nil operand []) htakes)

/-- A command that prints a text for each operand prints what it prints for each alone. -/
theorem run_in_turn {task : Task} (h : Command.ofArguments? arguments = some command)
    (htask : command.task? = some task) {operands : List Text} {text : Text → Text}
    (hrun : command.run pages files = ⟨0, operands.flatMap text⟩)
    (htakes : ∀ operand ∈ operands, task.form.operand.takes [operand] = true)
    (halone : ∀ operand ∈ operands,
      (command.onOperands [operand]).run pages files = ⟨0, text operand⟩) :
    runWith pages arguments files = ⟨0, outputInTurn pages arguments files operands⟩ := by
  rw [run_of_command h, hrun, outputInTurn]
  congr 1
  exact List.flatMap_congr fun operand hmem => by
    rw [run_alone h htask (htakes operand hmem), halone operand hmem]

/-- Keys of one call number. -/
theorem run_key_alone {callNumbers : List Text} {reverse : Bool}
    (h : Command.ofArguments? arguments = some (.key callNumbers reverse)) (callNumber : Text) :
    runWith pages (withOperands [callNumber] arguments) files =
      ⟨0, keyLine reverse callNumber⟩ := by
  rw [run_alone h rfl rfl, Command.onOperands, Command.run, List.flatMap_singleton]

/-- The parts of one call number. -/
theorem run_parse_alone {callNumbers : List Text}
    (h : Command.ofArguments? arguments = some (.parse callNumbers false)) (callNumber : Text) :
    runWith pages (withOperands [callNumber] arguments) files =
      ⟨0, (Breakdown.ofCallNumber callNumber).plain⟩ := by
  rw [run_alone h rfl rfl, Command.onOperands, Command.run]
  simp

/-- Keys are printed in a row. -/
theorem run_key {callNumbers : List Text} {reverse : Bool}
    (h : Command.ofArguments? arguments = some (.key callNumbers reverse)) :
    runWith pages arguments files = ⟨0, outputInTurn pages arguments files callNumbers⟩ := by
  refine run_in_turn h rfl rfl (fun _ _ => rfl) fun callNumber _ => ?_
  rw [Command.onOperands, Command.run, List.flatMap_singleton]

/-- The parts of call numbers are printed in a row. -/
theorem run_parse {callNumbers : List Text}
    (h : Command.ofArguments? arguments = some (.parse callNumbers false)) :
    runWith pages arguments files = ⟨0, outputInTurn pages arguments files callNumbers⟩ := by
  have hrun : (Command.parse callNumbers false).run pages files =
      ⟨0, callNumbers.flatMap fun callNumber => (Breakdown.ofCallNumber callNumber).plain⟩ := by
    rw [Command.run, List.flatMap_map]
    rfl
  refine run_in_turn h rfl hrun (fun _ _ => rfl) fun callNumber _ => ?_
  rw [Command.onOperands, Command.run]
  simp

/-- Records are reported on in a row. -/
theorem run_cluster {file : Text} {options : Option Text} {all : Bool}
    (h : Command.ofArguments? arguments = some (.cluster file options all false))
    (hsuccess : (runWith pages arguments files).code = 0) {records : List Record}
    (hrecords : recordsIn? files file = some records) {alone : Record → Text}
    (halone : ∀ record ∈ records, alone record ≠ [] ∧
      recordsIn? files (alone record) = some [record]) :
    runWith pages arguments files =
        ⟨0, outputInTurn pages arguments files (records.map alone)⟩ ∧
      ∀ record ∈ records,
        (runWith pages (withOperands [alone record] arguments) files).code = 0 := by
  rw [run_of_command h] at hsuccess ⊢
  obtain ⟨read, hread⟩ := exists_of_run_cluster hsuccess
  have hsingle (record : Record) (hmem : record ∈ records) :
      runWith pages (withOperands [alone record] arguments) files =
        ⟨0, (RecordReport.ofRecord record read all).plain⟩ := by
    obtain ⟨hname, hfile⟩ := halone record hmem
    have htakes : Task.cluster.form.operand.takes [alone record] = true := by
      simp [Operand.takes, Task.form, Kind.accepts, hname]
    rw [run_alone h rfl htakes, Command.onOperands, List.headD_cons,
      run_cluster_records pages hread hfile, List.flatMap_singleton]
  constructor
  · rw [run_cluster_records pages hread hrecords, outputInTurn, List.flatMap_map]
    congr 1
    exact List.flatMap_congr fun record hmem => by rw [hsingle record hmem]
  · intro record hmem
    rw [hsingle record hmem]

end Lines

/-- The command line is all or nothing, and its plain output is composed.  Whatever the arguments
and the files are, a failure prints nothing.  Where keys or parts of call numbers are asked for,
the command succeeds and prints, in order, what it prints for each call number as the only one with
the same switches; for a key that is nothing exactly if the call number is of no known scheme.
Where a file of records is reported on with success, the output is that for files with one of the
records each, in order, with the same switches.  Where help is asked for, no command is carried
out and its page alone is printed; help on a command is asked for by a flag among arguments that
are in order, whatever operands stand in front of it and whatever stands behind it. -/
theorem run_composed (pages : Page → Text) (arguments : List Text) (files : Files) :
    ((runWith pages arguments files).code ≠ 0 → (runWith pages arguments files).output = []) ∧
    (∀ callNumbers reverse,
      Command.ofArguments? arguments = some (.key callNumbers reverse) →
        runWith pages arguments files = ⟨0, outputInTurn pages arguments files callNumbers⟩ ∧
        ∀ callNumber, (runWith pages (withOperands [callNumber] arguments) files).code = 0 ∧
          ((runWith pages (withOperands [callNumber] arguments) files).output = [] ↔
            Scheme.detect callNumber = .unknown)) ∧
    (∀ callNumbers, Command.ofArguments? arguments = some (.parse callNumbers false) →
        runWith pages arguments files = ⟨0, outputInTurn pages arguments files callNumbers⟩ ∧
        ∀ callNumber, (runWith pages (withOperands [callNumber] arguments) files).code = 0) ∧
    (∀ file options all records, ∀ alone : Record → Text,
      Command.ofArguments? arguments = some (.cluster file options all false) →
      (runWith pages arguments files).code = 0 → recordsIn? files file = some records →
      (∀ record ∈ records, alone record ≠ [] ∧
        recordsIn? files (alone record) = some [record]) →
        runWith pages arguments files =
            ⟨0, outputInTurn pages arguments files (records.map alone)⟩ ∧
        ∀ record ∈ records,
          (runWith pages (withOperands [alone record] arguments) files).code = 0) ∧
    (∀ page, Command.ofArguments? arguments = some (.help page) →
      runWith pages arguments files = ⟨0, pages page⟩) ∧
    ∀ task front parts, (Task.form task).parts? front = some parts → request? parts = none →
      ['-', '-'] ∉ front → ∀ rest,
        runWith pages (task.form.name.toList :: (front ++ "--help".toList :: rest)) files =
          ⟨0, pages (.task task)⟩ := by
  refine ⟨output_of_failure, fun callNumbers reverse h => ⟨run_key h, fun callNumber => ?_⟩,
    fun callNumbers h => ⟨run_parse h, fun callNumber => ?_⟩,
    fun file options all records alone h hsuccess hrecords halone =>
      run_cluster h hsuccess hrecords halone, fun page h => run_of_command h,
    fun task front parts h hrequest hopen rest =>
      run_of_command (ofArguments?_help h hrequest hopen rest)⟩
  · rw [run_key_alone h]
    exact ⟨rfl, keyLine_eq_nil_iff reverse callNumber⟩
  · rw [run_parse_alone h]

/-- A file with two records, and a file for each of them. -/
def recordFiles : Files := fun name =>
  [("both.json", "[\x7b\"id\":\"a\"\x7d,\x7b\"id\":\"b\"\x7d]"),
    ("a.json", "[\x7b\"id\":\"a\"\x7d]"),
    ("b.json", "[\x7b\"id\":\"b\"\x7d]")].findSome? fun file =>
      if file.1.toList = name then some file.2.toList else none

/-- Two records are reported on like one and the other, and two keys are printed like one and the
other, but help on keys is printed once. -/
theorem twoRecords_composed :
    run ["cluster".toList, "both.json".toList, "--all".toList] recordFiles =
        ⟨0, outputInTurn Page.text ["cluster".toList, "both.json".toList, "--all".toList]
          recordFiles ["a.json".toList, "b.json".toList]⟩ ∧
      run ["key".toList, "QA76".toList, "-r".toList, "Z4".toList] recordFiles =
        ⟨0, outputInTurn Page.text ["key".toList, "QA76".toList, "-r".toList, "Z4".toList]
          recordFiles ["QA76".toList, "Z4".toList]⟩ ∧
      run ["key".toList, "--help".toList, "QA76".toList, "Z4".toList] recordFiles =
        ⟨0, (Page.task .key).text⟩ := by
  have hcluster := (run_composed Page.text ["cluster".toList, "both.json".toList, "--all".toList]
    recordFiles).2.2.2.1 "both.json".toList none true [⟨some ['a'], []⟩, ⟨some ['b'], []⟩]
    (fun record => record.id.getD [] ++ ".json".toList) (by decide +kernel) (by decide +kernel)
    (by decide +kernel) (by decide +kernel)
  have hkey := (run_composed Page.text ["key".toList, "QA76".toList, "-r".toList, "Z4".toList]
    recordFiles).2.1 ["QA76".toList, "Z4".toList] true (by decide +kernel)
  have hhelp := (run_composed Page.text
    ["key".toList, "--help".toList, "QA76".toList, "Z4".toList] recordFiles).2.2.2.2.1
    (.task .key) (by decide +kernel)
  exact ⟨hcluster.1, hkey.1, hhelp⟩

end CommandLine
end Shelfmark
