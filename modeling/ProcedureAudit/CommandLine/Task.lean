import ProcedureAudit.CommandLine.Argument
import ProcedureAudit.Config.Basic

/-!
# Tasks

A task is what the arguments of the program ask for.  Arguments are read from left to right, and
the first misuse is reported; only arguments that nobody understands are left for the end.
-/

namespace ProcedureAudit.CommandLine

/-- What the program is asked to do. -/
inductive Task where
  | run (config : Text) (overrides : Overrides)
  /-- Print the statements of a file, perhaps as queries. -/
  | scan (file : Text) (procedure : Option Text) (normalize : Bool)
  | procedures (config : Text) (overrides : Overrides)
  | ping (config : Text) (overrides : Overrides)
deriving DecidableEq, Repr

/-- The values given so far. -/
structure Given where
  /-- The configuration file; the empty name stands for none. -/
  config : Text := []
  overrides : Overrides := {}
  file : Option Text := none
  procedure : Option Text := none
  normalize : Bool := false
  /-- The arguments that nobody understands. -/
  unrecognized : List Text := []
deriving DecidableEq, Repr

namespace Given

/-- Put an argument aside. -/
def putAside (written : Text) (given : Given) : Given :=
  { given with unrecognized := given.unrecognized ++ [written] }

/--
Store the value of a switch; a later value replaces an earlier one.  A separator in the place of
the value counts as no value.
-/
def store (switch : Switch) (value : Option Text) (given : Given) : Except Misuse Given :=
  match switch with
  | .help => .ok given
  | .config => .ok { given with config := value.getD [] }
  | .address => .ok { given with overrides.address := value }
  | .root => .ok { given with overrides.root := value }
  | .callerFile => .ok { given with overrides.callerFile := value }
  | .ignoreFile => .ok { given with overrides.ignoreFile := value }
  | .recordCount =>
    match value with
    | none => .ok { given with overrides.recordCount := some none }
    | some value =>
      match Numeral.integer value with
      | .ok count => .ok { given with overrides.recordCount := some (some count) }
      | .error _ => .error (.noNumber switch value)
  | .procedure => .ok { given with procedure := value }
  | .normalize => .ok { given with normalize := true }

/-- Take a file to work on. -/
def takeFile (written : Text) (given : Given) : Given :=
  { given with file := some written }

end Given

/--
Whether a request for help, with what is attached to it, is a request for help after all.  What is
attached to a letter counts as letters, each of which must be a switch itself.
-/
def helpAsked : (lettered : Bool) → (attached : Text) → Except Misuse Unit
  | true, ['h'] => .ok ()
  | true, 'h' :: rest => helpAsked true rest
  | _, value => .error (.valueIgnored .help value)

/-- What becomes of the program when a switch for help is met. -/
def haltForHelp (scope : Scope) (attached : Option Attached) : Halt :=
  match attached with
  | none => .help scope
  | some attached =>
    match helpAsked attached.lettered attached.value with
    | .ok _ => .help scope
    | .error misuse => .misuse scope misuse

namespace Command

/-- Whether a command works on a file and has not got one yet. -/
def wantsFile (command : Command) (given : Given) : Bool :=
  command.takesFile && given.file.isNone

/-- Take a switch that stands alone. -/
def takeAlone
    (command : Command)
    (switch : Switch)
    (attached : Option Attached)
    (given : Given) :
    Except Halt Given :=
  match switch, attached with
  | .help, attached => .error (haltForHelp (.command command) attached)
  | switch, some attached =>
    .error (.misuse (.command command) (.valueIgnored switch attached.value))
  | switch, none => (given.store switch none).mapError (.misuse (.command command))

/-- Take a switch with its value. -/
def takeValue
    (command : Command)
    (switch : Switch)
    (value : Text)
    (given : Given) :
    Except Halt Given :=
  let value := if value = Argument.separatorText then none else some value
  (given.store switch value).mapError (.misuse (.command command))

/--
Read the arguments of a command.  A separator next to the file belongs to it; any other separator
is put aside.
-/
def readArguments (command : Command) : List Argument → Given → Except Halt Given
  | [], given => .ok given
  | .separator :: .operand written :: rest, given =>
    if command.wantsFile given then
      readArguments command rest (given.takeFile written)
    else
      readArguments command rest ((given.putAside Argument.separatorText).putAside written)
  | .separator :: rest, given =>
    readArguments command rest (given.putAside Argument.separatorText)
  | .operand written :: .separator :: rest, given =>
    if command.wantsFile given then
      readArguments command rest (given.takeFile written)
    else
      readArguments command rest ((given.putAside written).putAside Argument.separatorText)
  | .operand written :: rest, given =>
    if command.wantsFile given then
      readArguments command rest (given.takeFile written)
    else
      readArguments command rest (given.putAside written)
  | .unknown written :: rest, given => readArguments command rest (given.putAside written)
  | .named switch (some attached) :: rest, given =>
    let taken :=
      if switch.takesValue then
        command.takeValue switch attached.value given
      else
        command.takeAlone switch (some attached) given
    match taken with
    | .error halt => .error halt
    | .ok given => readArguments command rest given
  | .named switch none :: rest, given =>
    if switch.takesValue then
      match rest with
      | .operand value :: after =>
        match command.takeValue switch value given with
        | .error halt => .error halt
        | .ok given => readArguments command after given
      | _ => .error (.misuse (.command command) (.valueMissing switch))
    else
      match command.takeAlone switch none given with
      | .error halt => .error halt
      | .ok given => readArguments command rest given

/-- The task that a command has with the given values. -/
def task (command : Command) (given : Given) : Except Misuse Task :=
  match command with
  | .run => .ok (.run given.config given.overrides)
  | .procedures => .ok (.procedures given.config given.overrides)
  | .ping => .ok (.ping given.config given.overrides)
  | .scan =>
    match given.file with
    | some file => .ok (.scan file given.procedure given.normalize)
    | none => .error (.missing "file")

/-- Read what a command is asked to do, with the arguments that nobody understands. -/
def read
    (command : Command)
    (unrecognized : List Text)
    (arguments : List Text) :
    Except Halt (Task × List Text) :=
  match Argument.classifyAll command.switches arguments with
  | .error misuse => .error (.misuse (.command command) misuse)
  | .ok arguments =>
    match command.readArguments arguments { unrecognized } with
    | .error halt => .error halt
    | .ok given =>
      match command.task given with
      | .error misuse => .error (.misuse (.command command) misuse)
      | .ok task => .ok (task, given.unrecognized)

end Command

namespace Group

/-- The misuse of a group that ends without a choice. -/
def halt (group : Group) (misuse : Misuse) : Halt :=
  .misuse (.group group) misuse

/--
Read what a group is asked to do.  A group has only the switch for help, so no abbreviation fits
several switches, and arguments can be understood one by one.
-/
def read (group : Group) (unrecognized : List Text) : List Text → Except Halt (Task × List Text)
  | [] => .error (group.halt (.missing group.choiceName))
  | word :: rest =>
    if word = Argument.separatorText then
      if rest.isEmpty then
        .error (group.halt (.missing group.choiceName))
      else
        .error (group.halt (.noChoice group word))
    else
      match Argument.classify [.help] word with
      | .error misuse => .error (group.halt misuse)
      | .ok (.named _ attached) => .error (haltForHelp (.group group) attached)
      | .ok (.unknown written) => read group (unrecognized ++ [written]) rest
      | .ok _ =>
        match group.choices.lookup word with
        | none => .error (group.halt (.noChoice group word))
        | some (.command command) => command.read unrecognized rest
        | some (.group inner) => read inner unrecognized rest

end Group

/-- The task that the arguments of the program ask for. -/
def Task.ofArguments (arguments : List Text) : Except Halt Task :=
  match Group.program.read [] arguments with
  | .error halt => .error halt
  | .ok (task, []) => .ok task
  | .ok (_, written) => .error (.misuse (.group .program) (.unrecognized written))

end ProcedureAudit.CommandLine
