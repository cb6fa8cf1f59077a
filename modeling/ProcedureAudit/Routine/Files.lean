import ProcedureAudit.Files.Workspace
import ProcedureAudit.Routine.Callers
import ProcedureAudit.Routine.Scan
import ProcedureAudit.Query.Parentheses

/-!
# Routine files

What the library reads from single files: the statements of a source file, the procedures that a
caller file calls, and the procedures that a skip list names.
-/

namespace ProcedureAudit.Routine

/-- The statements of a procedure in a file, with their parentheses repaired. -/
def selectsOfFile
    (workspace : Workspace)
    (file : FilePath)
    (procedure : Option Text) :
    Except ReadProblem (List Text) :=
  match workspace.readText file with
  | .error problem => .error problem
  | .ok source => .ok ((scanSelects source procedure).map Query.balanceParentheses)

/-- The procedures that a caller file calls. -/
def calledNamesOfFile (workspace : Workspace) (file : FilePath) : Except ReadProblem (List Text) :=
  match workspace.readText file with
  | .error problem => .error problem
  | .ok source => .ok (calledNames source)

/-- Why there is no skip list. -/
inductive SkipListProblem where
  /-- The file at the path, as it was given, cannot be opened. -/
  | unusable (file : Text) (problem : ReadProblem)
  /-- The file can be opened, but it cannot be read. -/
  | unreadable (problem : ReadProblem)
deriving DecidableEq, Repr

/-- A problem in words. -/
def SkipListProblem.message : SkipListProblem → Text
  | .unusable file problem =>
    "Failed to read ignore file " ++ file ++ ": " ++ problem.message
  | .unreadable problem => problem.message

/-- The procedures that a skip list names. -/
def skippedNamesOfFile (workspace : Workspace) (file : Text) : Except SkipListProblem (List Text) :=
  match workspace.readText (FilePath.parse file) with
  | .error problem =>
    if problem.isAboutPath then
      .error (.unusable file problem)
    else
      .error (.unreadable problem)
  | .ok list => .ok (skippedNames list)

end ProcedureAudit.Routine
