import ProcedureAudit.CommandLine.Grammar
import ProcedureAudit.Text.Quoted

/-!
# Misuse of the command line

What can be wrong with the arguments of the program, in words.  The words about a misuse are those
that users of such programs know.  What is said about the use as a whole, on a request for help and
in front of a word about a misuse, is laid out and wrapped in many lines by whoever prints it; here
it is reduced to a line of its own.
-/

namespace ProcedureAudit.CommandLine

/-- What is wrong with some arguments. -/
inductive Misuse where
  /-- An abbreviation fits several switches. -/
  | ambiguous (written : Text) (spellings : List Text)
  | valueMissing (switch : Switch)
  /-- A switch that stands alone is given a value. -/
  | valueIgnored (switch : Switch) (value : Text)
  | noNumber (switch : Switch) (value : Text)
  | noChoice (group : Group) (word : Text)
  | missing (name : Text)
  | unrecognized (written : List Text)
deriving DecidableEq, Repr

namespace Misuse

/-- A word about one argument. -/
def about (name word : Text) : Text :=
  "argument " ++ name ++ ": " ++ word

/-- A word about a switch. -/
def aboutSwitch (switch : Switch) (word : Text) : Text :=
  about (Text.joinWith ['/'] switch.spellings) word

/-- A misuse in words. -/
def message : Misuse → Text
  | .ambiguous written spellings =>
    "ambiguous option: " ++ written ++ " could match " ++ Text.joinWith [',', ' '] spellings
  | .valueMissing switch => aboutSwitch switch "expected one argument"
  | .valueIgnored switch value =>
    aboutSwitch switch ("ignored explicit argument " ++ Text.quoted value)
  | .noNumber switch value => aboutSwitch switch ("invalid int value: " ++ Text.quoted value)
  | .noChoice group word =>
    about group.choiceName
      ("invalid choice: " ++ Text.quoted word ++ " (choose from " ++
        Text.joinWith [',', ' '] (group.choices.map fun (word, _) => Text.quoted word) ++ ")")
  | .missing name => "the following arguments are required: " ++ name
  | .unrecognized written => "unrecognized arguments: " ++ Text.joinWith [' '] written

end Misuse

/-- Why no task follows from the arguments. -/
inductive Halt where
  /-- The user asks what a scope has to offer. -/
  | help (scope : Scope)
  | misuse (scope : Scope) (misuse : Misuse)
deriving DecidableEq, Repr

namespace Halt

/-- What a scope has to offer, in one line that stands for a full text of help. -/
def usage (scope : Scope) : Text :=
  let switches :=
    scope.switches.map fun switch => ' ' :: '[' :: Text.joinWith ['|'] switch.spellings ++ [']']
  let operand : Text :=
    match scope with
    | .group group =>
      " (" ++ Text.joinWith ['|'] (group.choices.map Prod.fst) ++ ") ..."
    | .command command => if command.takesFile then " file" else ""
  "usage: " ++ scope.title ++ switches.flatten ++ operand

/-- The last line about a misuse, before which the usage is printed. -/
def misuseLine (scope : Scope) (misuse : Misuse) : Text :=
  scope.title ++ ": error: " ++ misuse.message

end Halt

end ProcedureAudit.CommandLine
