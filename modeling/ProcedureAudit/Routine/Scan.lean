import ProcedureAudit.Routine.Line

/-!
# Statements of a procedure body

The scanner walks over the lines of a source text and is at every line either outside all
procedure bodies, inside a body, or inside a statement of a body.  A body opens at the
declaration of a wanted procedure and closes at the next `END;`, which also cuts off a statement
that is still open.  A statement runs from its `SELECT` through the first line with a semicolon.
-/

namespace ProcedureAudit.Routine

/-- Where the scanner is. -/
inductive Place where
  | outside
  | body
  /-- Inside a statement, of which the lines so far are joined with single spaces. -/
  | statement (opened : Text)
deriving DecidableEq, Repr

/-- Whether a procedure is wanted, when one name or every name is asked for. -/
def isWanted (wanted : Option Text) (name : Text) : Bool :=
  match wanted with
  | none => true
  | some key => Text.lower name = key

/-- Whether a line opens the body of a wanted procedure. -/
def opensBody (wanted : Option Text) (line : Text) : Bool :=
  match declaredName? line with
  | some name => isWanted wanted name
  | none => false

/-- The statements found on the remaining lines, each line without its comment. -/
def scanLines (wanted : Option Text) : Place → List Text → List Text
  | .outside, [] => []
  | .body, [] => []
  | .statement opened, [] => [opened]
  | .outside, line :: rest =>
    if opensBody wanted line then
      scanLines wanted .body rest
    else
      scanLines wanted .outside rest
  | .body, line :: rest =>
    if endsBody line then
      scanLines wanted .outside rest
    else if opensSelect line then
      if endsStatement line then
        Text.trim line :: scanLines wanted .body rest
      else
        scanLines wanted (.statement (Text.trim line)) rest
    else
      scanLines wanted .body rest
  | .statement opened, line :: rest =>
    if endsBody line then
      opened :: scanLines wanted .outside rest
    else
      let extended := opened ++ ' ' :: Text.trim line
      if endsStatement line then
        extended :: scanLines wanted .body rest
      else
        scanLines wanted (.statement extended) rest

/-- The key under which a procedure is asked for; an empty name asks for every procedure. -/
def wantedKey (procedure : Option Text) : Option Text :=
  match procedure with
  | none => none
  | some [] => none
  | some name => some (Text.lower name)

/-- The lines of a source text without their comments. -/
def codeLines (source : Text) : List Text :=
  (sourceLines source).map stripComment

/-- The `SELECT` statements of one procedure, or of every procedure, in source order. -/
def scanSelects (source : Text) (procedure : Option Text) : List Text :=
  scanLines (wantedKey procedure) .outside (codeLines source)

end ProcedureAudit.Routine
