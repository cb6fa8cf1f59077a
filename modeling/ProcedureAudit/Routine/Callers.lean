import ProcedureAudit.Text.Basic

/-!
# Calls and skip lists

The procedures of interest can be given by a source file that calls them, and some of them can be
excluded by a list with one name on a line.
-/

namespace ProcedureAudit.Routine

/-- Whether a character may stand in the name after `CALL`. -/
def inCalledName (character : Char) : Bool :=
  !(Text.isBlank character || character = '(')

/--
The name called at the beginning of a text: after `CALL` and spaces, everything up to a blank or
an opening parenthesis, which must follow.  Back-ticks around the name are dropped.
-/
def callAt? (text : Text) : Option Text :=
  match Text.dropOpening? "CALL ".toList text with
  | none => none
  | some rest =>
    let rest := rest.dropWhile (· = ' ')
    let name := rest.takeWhile inCalledName
    match (rest.dropWhile inCalledName).dropWhile Text.isBlank with
    | '(' :: _ => if name.isEmpty then none else some (Text.dropAround (· = '\x60') name)
    | _ => none

/-- The names called anywhere in a text, with repetitions. -/
def calls : Text → List Text
  | [] => []
  | character :: rest => (callAt? (character :: rest)).toList ++ calls rest

/-- Add a name at the end, unless it is empty or present. -/
def addName (names : List Text) (name : Text) : List Text :=
  if name.isEmpty || name ∈ names then names else names ++ [name]

/-- The names called in a text, each once, in the order of their first call. -/
def calledNames (source : Text) : List Text :=
  (calls source).foldl addName []

/-- The names in a skip list, one on a line; the order has no meaning. -/
def skippedNames (list : Text) : List Text :=
  ((Text.splitOn '\n' list).map Text.trim).foldl addName []

end ProcedureAudit.Routine
