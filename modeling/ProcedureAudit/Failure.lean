import ProcedureAudit.Config.Load
import ProcedureAudit.Config.LogFormat
import ProcedureAudit.Fixture.Seeding
import ProcedureAudit.Routine.Catalog
import ProcedureAudit.Routine.Files

/-!
# Failures

A task of the program can fail in each of its stages.  A failure says which stage it was and what
the problem there is.
-/

namespace ProcedureAudit

/-- Why a task could not be carried out. -/
inductive Failure where
  | config (problem : ConfigProblem)
  /-- No log can be set up with the format. -/
  | logFormat (format : Text)
  /-- The configuration cannot be written to the log. -/
  | unwritable
  /-- The deployment is one in production. -/
  | production
  | skipList (problem : Routine.SkipListProblem)
  | catalog (problem : CatalogProblem)
  /-- A source file or the caller file cannot be read. -/
  | reading (problem : ReadProblem)
  | session (problem : SessionProblem)
  | seeding (problem : Fixture.SeedingProblem)

namespace Failure

/-- A failure in words. -/
def message : Failure → Text
  | .config problem => problem.message
  | .logFormat format => LogFormat.refusalMessage format
  | .unwritable => Numeral.unwritableMessage
  | .production => Configuration.productionMessage
  | .skipList problem => problem.message
  | .catalog problem => problem.message
  | .reading problem => problem.message
  | .session problem => problem.message
  | .seeding problem => problem.message

/-- The fault of the server or of the system below it that a failure passes on as it is. -/
def fault? : Failure → Option Fault
  | .session (.fault cause) => some cause
  | .seeding (.stopped cause) => some cause
  | _ => none

/-- Whether the user wanted the program to stop. -/
def isInterrupt (failure : Failure) : Bool :=
  failure.fault?.any fun fault => fault.category = .interrupt

/-- The demand on the program that ends the task without a word about it, if there is one. -/
def demand? (failure : Failure) : Option Fault :=
  failure.fault?.filter fun fault => fault.category = .control

end Failure

end ProcedureAudit
