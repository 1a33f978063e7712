import Mathlib.Data.List.Basic
import Shelfmark.CommandLine.Arguments

/-!
# Command line - Arguments and where they stand

Flags and operands may be mixed.  What a command is asked to do depends on the flags, and on the
operands in their order, but not on where the operands stand among the flags.  So every command
line can be written with its flags in front and its operands behind two hyphens, and the operands
can be exchanged there.  A request among the flags is answered whatever stands behind it.

Main results:

- Theorem `parts?_switchArguments`: the parts of a command line with other operands.
- Theorem `Task.read?_switchArguments`: any of the commands with other operands.
- Theorem `ofArguments?_withOperands`: the same for whole command lines.
- Theorem `ofArguments?_help`: help on a command, whatever stands behind the request.
-/

namespace Shelfmark
namespace CommandLine

/-! ## Parts in a row -/

/-- The switches given in two rows of parts. -/
theorem given_append (a b : List Part) : given (a ++ b) = given a ++ given b :=
  List.filterMap_append

/-- The operands in two rows of parts. -/
theorem operands_append (a b : List Part) : operands (a ++ b) = operands a ++ operands b :=
  List.filterMap_append

/-- The value of an option is the first one in two rows of parts. -/
theorem valueOf?_append (a b : List Part) (name : String) :
    valueOf? (a ++ b) name = (valueOf? a name).or (valueOf? b name) :=
  List.findSome?_append

/-- The request is the first one in two rows of parts. -/
theorem request?_append (a b : List Part) : request? (a ++ b) = (request? a).or (request? b) :=
  List.findSome?_append

/-- Operands are no switches. -/
theorem given_operands (values : List Text) : given (values.map .operand) = [] := by
  simp [given, List.filterMap_map]

/-- Operands are what they are. -/
theorem operands_operands (values : List Text) : operands (values.map .operand) = values := by
  simp [operands, List.filterMap_map]

/-- Operands give no option a value. -/
theorem valueOf?_operands (values : List Text) (name : String) :
    valueOf? (values.map .operand) name = none := by
  simp [valueOf?, List.findSome?_map, Function.comp_def]

/-- Operands make no request. -/
theorem request?_operands (values : List Text) : request? (values.map .operand) = none := by
  simp [request?, List.findSome?_map, Function.comp_def]

/-- Two rows of parts have the same switches with the same values. -/
structure SameSwitches (a b : List Part) : Prop where
  given_eq : given a = given b
  valueOf?_eq : ∀ name, valueOf? a name = valueOf? b name

/-- Operands alone have the same switches: none. -/
theorem SameSwitches.of_operands (a b : List Text) :
    SameSwitches (a.map .operand) (b.map .operand) where
  given_eq := by rw [given_operands, given_operands]
  valueOf?_eq name := by rw [valueOf?_operands, valueOf?_operands]

/-- The same parts in front keep the switches the same. -/
theorem SameSwitches.append_left {a b : List Part} (h : SameSwitches a b) (front : List Part) :
    SameSwitches (front ++ a) (front ++ b) where
  given_eq := by rw [given_append, given_append, h.given_eq]
  valueOf?_eq name := by rw [valueOf?_append, valueOf?_append, h.valueOf?_eq]

/-- An operand in front does not matter for the switches. -/
theorem SameSwitches.cons_operand {a b : List Part} (h : SameSwitches a b) (value : Text) :
    SameSwitches a (.operand value :: b) where
  given_eq := h.given_eq
  valueOf?_eq := h.valueOf?_eq

/-- A request does not matter for the switches. -/
theorem SameSwitches.concat_request (parts : List Part) (request : Request) :
    SameSwitches (parts ++ [.request request]) parts where
  given_eq := by rw [given_append, show given [.request request] = [] from rfl, List.append_nil]
  valueOf?_eq name := by
    rw [valueOf?_append, show valueOf? [.request request] name = none from rfl, Option.or_none]

/-- With the same switches, parts are in order if the operands are. -/
theorem SameSwitches.accepts {a b : List Part} (h : SameSwitches a b) {form : Form}
    (haccepts : form.accepts b = true) (htakes : form.operand.takes (operands a) = true) :
    form.accepts a = true := by
  have hfits (switch : Switch) : switch.fits a = switch.fits b := by
    rw [Switch.fits, Switch.fits, h.valueOf?_eq]
  simp only [Form.accepts, Bool.and_eq_true, h.given_eq, hfits] at haccepts ⊢
  exact ⟨haccepts.1, htakes⟩

/-- Operands of parts in order are taken. -/
theorem Form.takes_of_accepts {form : Form} {parts : List Part} (h : form.accepts parts = true) :
    form.operand.takes (operands parts) = true :=
  (Bool.and_eq_true_iff.mp h).2

/-! ## The arguments of a command -/

/-- A row of letters has no operands. -/
theorem operands_of_letters? {switches : List Switch} {row : Text} {parts : List Part}
    {pending : Option String} (h : letters? switches row = some (parts, pending)) :
    operands parts = [] := by
  induction row generalizing parts pending with
  | nil =>
    obtain ⟨rfl, -⟩ := Prod.mk.inj (Option.some.inj h)
    rfl
  | cons c row ih =>
    rw [letters?] at h
    split at h
    · contradiction
    · split at h
      · split at h
        · obtain ⟨rfl, -⟩ := Prod.mk.inj (Option.some.inj h)
          rfl
        · obtain ⟨rfl, -⟩ := Prod.mk.inj (Option.some.inj h)
          rfl
      · obtain ⟨rfl, -⟩ := Prod.mk.inj (Option.some.inj h)
        rfl
      · obtain ⟨⟨rest, later⟩, hrest, hparts⟩ := Option.map_eq_some_iff.mp h
        obtain ⟨rfl, -⟩ := Prod.mk.inj hparts
        have hnone : operands rest = [] := ih hrest
        exact hnone

/-- A long name has no operands. -/
theorem operands_of_word? {switches : List Switch} {argument : Text} {parts : List Part}
    {pending : Option String} (h : word? switches argument = some (parts, pending)) :
    operands parts = [] := by
  unfold word? at h
  dsimp only at h
  split at h
  · contradiction
  · split at h
    · obtain ⟨rfl, -⟩ := Prod.mk.inj (Option.some.inj h)
      rfl
    · obtain ⟨rfl, -⟩ := Prod.mk.inj (Option.some.inj h)
      rfl
    · contradiction
    · obtain ⟨rfl, -⟩ := Prod.mk.inj (Option.some.inj h)
      rfl
    · obtain ⟨rfl, -⟩ := Prod.mk.inj (Option.some.inj h)
      rfl

/-- An argument is an operand, or it has none. -/
theorem argument?_cases (switches : List Switch) (argument : Text) :
    argument? switches argument = some ([.operand argument], none) ∨
      ∀ parts pending, argument? switches argument = some (parts, pending) →
        operands parts = [] := by
  unfold argument?
  split
  · exact Or.inr fun _ _ => operands_of_word?
  · exact Or.inr fun _ _ => operands_of_letters?
  · exact Or.inl rfl

/-- The arguments of a command without its operands. -/
def switchArguments (switches : List Switch) : List Text → List Text
  | [] => []
  | argument :: rest =>
    if argument = ['-', '-'] then []
    else
      match argument? switches argument, rest with
      | some (_, some _), value :: rest => argument :: value :: switchArguments switches rest
      | some ([.operand _], none), rest => switchArguments switches rest
      | _, rest => argument :: switchArguments switches rest

/-- Behind two hyphens stand operands only. -/
theorem parts?_end (switches : List Switch) (rest : List Text) :
    parts? switches (['-', '-'] :: rest) = some (rest.map .operand) := by
  unfold parts?
  exact if_pos rfl

section Argument

variable {switches : List Switch} {argument : Text} {parts : List Part}
  (hne : argument ≠ ['-', '-'])

include hne

/-- Behind a request nothing is read. -/
theorem parts?_request (h : argument? switches argument = some (parts, none))
    (hrequest : (request? parts).isSome) (rest : List Text) :
    parts? switches (argument :: rest) = some parts := by
  unfold parts?
  rw [if_neg hne, h]
  exact if_pos hrequest

/-- An argument without a request or an option that waits for its value stands for itself. -/
theorem parts?_closed (h : argument? switches argument = some (parts, none))
    (hrequest : ¬ (request? parts).isSome) (rest : List Text) :
    parts? switches (argument :: rest) = (parts? switches rest).map (parts ++ ·) := by
  conv_lhs => unfold parts?
  rw [if_neg hne, h]
  exact if_neg hrequest

/-- An option that waits for its value takes the next argument. -/
theorem parts?_pending {name : String}
    (h : argument? switches argument = some (parts, some name)) (value : Text)
    (rest : List Text) :
    parts? switches (argument :: value :: rest) =
      if looksLikeFlag value then none
      else (parts? switches rest).map (parts ++ .option name value :: ·) := by
  conv_lhs => unfold parts?
  rw [if_neg hne, h]

/-- An argument without an option that waits for its value stays among the switches, unless it is
an operand. -/
theorem switchArguments_closed (h : argument? switches argument = some (parts, none))
    (hoperands : operands parts = []) (rest : List Text) :
    switchArguments switches (argument :: rest) = argument :: switchArguments switches rest := by
  conv_lhs => unfold switchArguments
  rw [if_neg hne, h]
  split
  · rename_i heq
    obtain ⟨-, heq⟩ := Prod.mk.inj (Option.some.inj heq)
    contradiction
  · rename_i heq
    obtain ⟨rfl, -⟩ := Prod.mk.inj (Option.some.inj heq)
    contradiction
  · rfl

/-- An operand does not stay among the switches. -/
theorem switchArguments_operand (h : argument? switches argument = some ([.operand argument], none))
    (rest : List Text) :
    switchArguments switches (argument :: rest) = switchArguments switches rest := by
  conv_lhs => unfold switchArguments
  rw [if_neg hne, h]

/-- An option that waits for its value stays among the switches with it. -/
theorem switchArguments_pending {name : String}
    (h : argument? switches argument = some (parts, some name)) (value : Text)
    (rest : List Text) :
    switchArguments switches (argument :: value :: rest) =
      argument :: value :: switchArguments switches rest := by
  conv_lhs => unfold switchArguments
  rw [if_neg hne, h]

end Argument

/-- With other operands behind two hyphens a command without a request has the same switches. -/
theorem parts?_switchArguments {switches : List Switch} {arguments : List Text} {parts : List Part}
    (h : parts? switches arguments = some parts) (hrequest : request? parts = none)
    (others : List Text) :
    ∃ parts', parts? switches (switchArguments switches arguments ++ ['-', '-'] :: others) =
        some parts' ∧ request? parts' = none ∧ operands parts' = others ∧
      SameSwitches parts' parts := by
  fun_induction parts? switches arguments generalizing parts with
  | case1 =>
    obtain rfl := Option.some.inj h
    exact ⟨_, parts?_end switches others, request?_operands others, operands_operands others,
      .of_operands others []⟩
  | case2 rest =>
    obtain rfl := Option.some.inj h
    have hnone : switchArguments switches (['-', '-'] :: rest) = [] := by
      unfold switchArguments
      exact if_pos rfl
    rw [hnone]
    exact ⟨_, parts?_end switches others, request?_operands others, operands_operands others,
      .of_operands others rest⟩
  | case3 => contradiction
  | case4 argument hne front rest hargument hmade =>
    obtain rfl := Option.some.inj h
    rw [hrequest] at hmade
    contradiction
  | case5 argument hne front rest hargument hmade ih =>
    obtain ⟨back, hback, rfl⟩ := Option.map_eq_some_iff.mp h
    rw [request?_append, Option.or_eq_none_iff] at hrequest
    obtain ⟨parts', hparts, hnorequest, hoperands, hsame⟩ := ih hback hrequest.2
    rcases argument?_cases switches argument with hoperand | hnone
    · -- An operand is left out.
      rw [hargument] at hoperand
      obtain ⟨rfl, -⟩ := Prod.mk.inj (Option.some.inj hoperand)
      rw [switchArguments_operand hne hargument]
      exact ⟨parts', hparts, hnorequest, hoperands, hsame.cons_operand argument⟩
    · have hfront := hnone front none hargument
      rw [switchArguments_closed hne hargument hfront, List.cons_append,
        parts?_closed hne hargument hmade, hparts]
      refine ⟨front ++ parts', rfl, ?_, ?_, hsame.append_left front⟩
      · rw [request?_append, hrequest.1, hnorequest, Option.none_or]
      · rw [operands_append, hfront, hoperands, List.nil_append]
  | case6 => contradiction
  | case7 => contradiction
  | case8 argument hne front name value rest hargument hvalue ih =>
    obtain ⟨back, hback, rfl⟩ := Option.map_eq_some_iff.mp h
    rw [request?_append, Option.or_eq_none_iff] at hrequest
    obtain ⟨parts', hparts, hnorequest, hoperands, hsame⟩ := ih hback hrequest.2
    have hfront : operands front = [] := by
      rcases argument?_cases switches argument with hoperand | hnone
      · rw [hargument] at hoperand
        obtain ⟨-, hpending⟩ := Prod.mk.inj (Option.some.inj hoperand)
        contradiction
      · exact hnone front (some name) hargument
    rw [switchArguments_pending hne hargument, List.cons_append, List.cons_append,
      parts?_pending hne hargument, if_neg hvalue, hparts]
    refine ⟨front ++ .option name value :: parts', rfl, ?_, ?_,
      (hsame.append_left [.option name value]).append_left front⟩
    · rw [request?_append, hrequest.1, Option.none_or]
      exact hnorequest
    · rw [operands_append, hfront, List.nil_append]
      exact hoperands

/-- With other operands that the command takes, the parts pass the same checks. -/
theorem Form.parts?_switchArguments {form : Form} {arguments : List Text} {parts : List Part}
    (h : form.parts? arguments = some parts) (hrequest : request? parts = none) {others : List Text}
    (hothers : form.operand.takes others = true) :
    ∃ parts', form.parts? (switchArguments form.switches arguments ++ ['-', '-'] :: others) =
        some parts' ∧ request? parts' = none ∧ operands parts' = others ∧
      SameSwitches parts' parts := by
  obtain ⟨hread, haccepts⟩ := Option.filter_eq_some_iff.mp h
  obtain ⟨parts', hparts, hnorequest, hoperands, hsame⟩ :=
    CommandLine.parts?_switchArguments hread hrequest others
  have htakes : form.operand.takes (operands parts') = true := hoperands.symm ▸ hothers
  exact ⟨parts', Option.filter_eq_some_iff.mpr ⟨hparts, hsame.accepts haccepts htakes⟩, hnorequest,
    hoperands, hsame⟩

/-! ## The commands -/

/-- The same command on other operands. -/
def Command.onOperands (others : List Text) : Command → Command
  | .key _ reverse => .key others reverse
  | .parse _ json => .parse others json
  | .cluster _ options all json => .cluster (others.headD []) options all json
  | command => command

namespace Task

variable {task : Task} {arguments : List Text} {command : Command} {parts : List Part}

/-- What parts ask a command to do is that command. -/
@[simp] theorem task?_command (task : Task) (parts : List Part) :
    (task.command parts).task? = some task := by
  cases task <;> rfl

/-- Other operands with the same switches ask for the same command on the other operands. -/
theorem command_of_sameSwitches {parts' : List Part} (h : SameSwitches parts' parts)
    (task : Task) : task.command parts' = (task.command parts).onOperands (operands parts') := by
  cases task <;> simp [command, Command.onOperands, h.given_eq, h.valueOf?_eq]

/-- A command that is carried out has operands, and no request is made. -/
theorem exists_of_read? (h : task.read? arguments = some command)
    (hwork : command.task?.isSome) :
    ∃ parts, task.form.parts? arguments = some parts ∧ request? parts = none ∧
      operands parts ≠ [] ∧ command = task.command parts := by
  obtain ⟨parts, hparts, hcommand⟩ := Option.bind_eq_some_iff.mp h
  split at hcommand
  · rename_i request hrequest
    obtain rfl := Option.some.inj hcommand
    cases request <;> contradiction
  · rename_i hrequest
    split at hcommand
    · contradiction
    · rename_i hoperands
      exact ⟨parts, hparts, hrequest, by simpa using hoperands, (Option.some.inj hcommand).symm⟩

/-- With operands and without a request a command is carried out. -/
theorem read?_of_parts (hparts : task.form.parts? arguments = some parts)
    (hrequest : request? parts = none) (hoperands : operands parts ≠ []) :
    task.read? arguments = some (task.command parts) := by
  rw [read?, hparts, Option.bind_some, hrequest]
  exact if_neg (by simpa using hoperands)

/-- A command asked for other operands with the same switches. -/
theorem read?_switchArguments (h : task.read? arguments = some command)
    (hwork : command.task?.isSome) {others : List Text} (hne : others ≠ [])
    (hothers : task.form.operand.takes others = true) :
    task.read? (switchArguments task.form.switches arguments ++ ['-', '-'] :: others) =
      some (command.onOperands others) := by
  obtain ⟨parts, hparts, hrequest, -, rfl⟩ := exists_of_read? h hwork
  obtain ⟨parts', hparts', hnorequest, hoperands, hsame⟩ :=
    Form.parts?_switchArguments hparts hrequest hothers
  rw [read?_of_parts hparts' hnorequest (hoperands ▸ hne), command_of_sameSwitches hsame, hoperands]

end Task

/-! ## Whole command lines -/

/-- A command line with other operands: the switches stay in front, and behind two hyphens stand
the operands. -/
def withOperands (operands : List Text) : List Text → List Text
  | [] => []
  | argument :: rest =>
    if looksLikeFlag argument then
      match argument? programSwitches argument, rest with
      | some (_, some _), level :: rest => argument :: level :: withOperands operands rest
      | _, rest => argument :: withOperands operands rest
    else
      let switches := ((Task.ofName? argument).map (·.form.switches)).getD []
      argument :: (switchArguments switches rest ++ ['-', '-'] :: operands)

section Name

variable {name : Text} (hflag : looksLikeFlag name = false)

include hflag

/-- Behind the name of a command its operands change. -/
theorem withOperands_name {task : Task} (htask : Task.ofName? name = some task)
    (operands rest : List Text) :
    withOperands operands (name :: rest) =
      name :: (switchArguments task.form.switches rest ++ ['-', '-'] :: operands) := by
  unfold withOperands
  rw [if_neg (by simp [hflag]), htask]
  rfl

/-- A command is read by its name, and carried out if the log levels in front are in order. -/
theorem command?_name (hne : name ≠ helpFlag.name.toList) (levels rest : List Text) :
    command? levels (name :: rest) =
      ((Task.ofName? name).bind (·.read? rest)).filter fun command =>
        command.task?.isNone || levelsFit levels := by
  unfold command?
  rw [if_pos (by simp [hflag]), if_neg hne]

end Name

section Front

variable {argument : Text} {parts : List Part} (hflag : looksLikeFlag argument = true)

include hflag

/-- A log level written as one argument stays in front. -/
theorem withOperands_closed (h : argument? programSwitches argument = some (parts, none))
    (operands rest : List Text) :
    withOperands operands (argument :: rest) = argument :: withOperands operands rest := by
  conv_lhs => unfold withOperands
  rw [if_pos hflag, h]

/-- A log level stays in front with the option it is the value of. -/
theorem withOperands_pending {name : String}
    (h : argument? programSwitches argument = some (parts, some name))
    (operands : List Text) (level : Text) (rest : List Text) :
    withOperands operands (argument :: level :: rest) =
      argument :: level :: withOperands operands rest := by
  conv_lhs => unfold withOperands
  rw [if_pos hflag, h]

/-- A log level written as one argument is read, and then what stands behind it. -/
theorem command?_closed {levels : List Text} {name : String} {level : Text}
    (h : argument? programSwitches argument = some ([.option name level], none))
    (hlevels : levelsFit (levels ++ [level]) = true) (rest : List Text) :
    command? levels (argument :: rest) = command? (levels ++ [level]) rest := by
  conv_lhs => unfold command?
  rw [if_neg (by simp [hflag]), h]
  exact if_pos hlevels

/-- A log level is read as the value of its option, and then what stands behind it. -/
theorem command?_pending {levels : List Text} {name : String} {level : Text}
    (h : argument? programSwitches argument = some ([], some name))
    (hlevels : (levelsFit levels && !looksLikeFlag level) = true) (rest : List Text) :
    command? levels (argument :: level :: rest) = command? (levels ++ [level]) rest := by
  conv_lhs => unfold command?
  rw [if_neg (by simp [hflag]), h]
  exact if_pos hlevels

end Front

/-- A command that is carried out is carried out on other operands as well: what stands in front
of its name stays there. -/
theorem command?_withOperands {levels arguments : List Text} {command : Command} {task : Task}
    (h : command? levels arguments = some command) (htask : command.task? = some task)
    {others : List Text} (hne : others ≠ []) (hothers : task.form.operand.takes others = true) :
    command? levels (withOperands others arguments) = some (command.onOperands others) := by
  fun_induction command? levels arguments with
  | case1 => contradiction
  | case2 levels rest hflag =>
    obtain ⟨page, -, rfl⟩ := Option.map_eq_some_iff.mp h
    contradiction
  | case3 levels name rest hflag hname =>
    have hplain : looksLikeFlag name = false := by simpa using hflag
    obtain ⟨hread, hlevels⟩ := Option.filter_eq_some_iff.mp h
    obtain ⟨named, hnamed, hread⟩ := Option.bind_eq_some_iff.mp hread
    have hwork : command.task?.isSome := by simp [htask]
    obtain rfl : named = task := by
      obtain ⟨parts, -, -, -, rfl⟩ := Task.exists_of_read? hread hwork
      simpa using htask
    rw [withOperands_name hplain hnamed, command?_name hplain hname, hnamed, Option.bind_some,
      Task.read?_switchArguments hread hwork hne hothers]
    refine Option.filter_eq_some_iff.mpr ⟨rfl, ?_⟩
    have hfit : levelsFit levels = true := by simpa [htask] using hlevels
    simp [hfit]
  | case4 levels argument rest hflag request hargument hlevels =>
    obtain rfl := Option.some.inj h
    cases request <;> contradiction
  | case5 => contradiction
  | case6 levels argument hflag name level rest hargument hlevels ih =>
    have hfront : looksLikeFlag argument = true := by simpa using hflag
    rw [withOperands_closed hfront hargument, command?_closed hfront hargument hlevels]
    exact ih h
  | case7 => contradiction
  | case8 levels argument hflag name level rest hargument hlevels ih =>
    have hfront : looksLikeFlag argument = true := by simpa using hflag
    rw [withOperands_pending hfront hargument, command?_pending hfront hargument hlevels]
    exact ih h
  | case9 => contradiction
  | case10 => contradiction

/-- A command line that is carried out, with other operands. -/
theorem ofArguments?_withOperands {arguments : List Text} {command : Command} {task : Task}
    (h : Command.ofArguments? arguments = some command) (htask : command.task? = some task)
    {others : List Text} (hne : others ≠ []) (hothers : task.form.operand.takes others = true) :
    Command.ofArguments? (withOperands others arguments) = some (command.onOperands others) :=
  command?_withOperands h htask hne hothers

/-! ## Requests for help -/

/-- Arguments that are all read, and that do not end the flags, are read in front of others. -/
theorem parts?_append {switches : List Switch} {front : List Text} {parts : List Part}
    (h : parts? switches front = some parts) (hrequest : request? parts = none)
    (hopen : ['-', '-'] ∉ front) (rest : List Text) :
    parts? switches (front ++ rest) = (parts? switches rest).map (parts ++ ·) := by
  fun_induction parts? switches front generalizing parts with
  | case1 =>
    obtain rfl := Option.some.inj h
    simp
  | case2 => simp at hopen
  | case3 => contradiction
  | case4 argument hne front behind hargument hmade =>
    obtain rfl := Option.some.inj h
    rw [hrequest] at hmade
    contradiction
  | case5 argument hne front behind hargument hmade ih =>
    obtain ⟨back, hback, rfl⟩ := Option.map_eq_some_iff.mp h
    rw [request?_append, Option.or_eq_none_iff] at hrequest
    rw [List.cons_append, parts?_closed hne hargument hmade,
      ih hback hrequest.2 fun hmem => hopen (List.mem_cons_of_mem argument hmem), Option.map_map]
    simp [Function.comp_def]
  | case6 => contradiction
  | case7 => contradiction
  | case8 argument hne front name value behind hargument hvalue ih =>
    obtain ⟨back, hback, rfl⟩ := Option.map_eq_some_iff.mp h
    rw [request?_append, Option.or_eq_none_iff] at hrequest
    rw [List.cons_append, List.cons_append, parts?_pending hne hargument, if_neg hvalue,
      ih hback hrequest.2 fun hmem => hopen (by simp [hmem]), Option.map_map]
    simp [Function.comp_def]

/-- A request behind arguments that are in order leaves them in order. -/
theorem Form.accepts_concat_request {form : Form} {parts : List Part}
    (h : form.accepts parts = true) (request : Request) :
    form.accepts (parts ++ [.request request]) = true := by
  have hoperands : operands (parts ++ [.request request]) = operands parts := by
    rw [operands_append, show operands [.request request] = [] from rfl, List.append_nil]
  have htakes := Form.takes_of_accepts h
  rw [← hoperands] at htakes
  exact (SameSwitches.concat_request parts request).accepts h htakes

namespace Task

/-- A command is found by its name. -/
theorem ofName?_name (task : Task) : ofName? task.form.name.toList = some task := by
  cases task <;> decide

/-- Every command knows the flag that asks for help. -/
theorem argument?_help (task : Task) :
    argument? task.form.switches "--help".toList = some ([.request .help], none) := by
  cases task <;> decide

/-- A command that is asked for help among arguments that are in order gives it: neither what
stands behind the request nor an operand that is missing matters. -/
theorem read?_help {task : Task} {front : List Text} {parts : List Part}
    (h : task.form.parts? front = some parts) (hrequest : request? parts = none)
    (hopen : ['-', '-'] ∉ front) (rest : List Text) :
    task.read? (front ++ "--help".toList :: rest) = some (.help (.task task)) := by
  obtain ⟨hread, haccepts⟩ := Option.filter_eq_some_iff.mp h
  have hparts : CommandLine.parts? task.form.switches (front ++ "--help".toList :: rest) =
      some (parts ++ [.request .help]) := by
    rw [parts?_append hread hrequest hopen, parts?_request (by decide) task.argument?_help rfl]
    rfl
  have hform : task.form.parts? (front ++ "--help".toList :: rest) =
      some (parts ++ [.request .help]) :=
    Option.filter_eq_some_iff.mpr ⟨hparts, Form.accepts_concat_request haccepts .help⟩
  rw [read?, hform, Option.bind_some, request?_append, hrequest]
  rfl

end Task

/-- Help on a command is given wherever it is asked for among arguments that are in order. -/
theorem ofArguments?_help {task : Task} {front : List Text} {parts : List Part}
    (h : task.form.parts? front = some parts) (hrequest : request? parts = none)
    (hopen : ['-', '-'] ∉ front) (rest : List Text) :
    Command.ofArguments? (task.form.name.toList :: (front ++ "--help".toList :: rest)) =
      some (.help (.task task)) := by
  have hplain : looksLikeFlag task.form.name.toList = false := by
    cases task <;> decide
  have hne : task.form.name.toList ≠ helpFlag.name.toList := by
    cases task <;> decide
  rw [Command.ofArguments?, command?_name hplain hne, task.ofName?_name, Option.bind_some,
    Task.read?_help h hrequest hopen]
  rfl

end CommandLine
end Shelfmark
