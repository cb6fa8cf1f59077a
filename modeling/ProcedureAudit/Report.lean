import ProcedureAudit.Plan

/-!
# The report of an audit

A report collects the warnings about plans and the queries that the planner refused.  Its printed
form shows the refusals on one channel and the warnings with a summary on the other; the number
of entries is the status with which the program ends.
-/

namespace ProcedureAudit

/-- A smell in the plan of a query. -/
structure Warning where
  label : Text
  procedure : Text
  query : Text
deriving DecidableEq, Repr

/-- A query that the planner refused to explain. -/
structure Refusal where
  reason : Text
  procedure : Text
  query : Text
deriving DecidableEq, Repr

/-- Warnings and refusals of a whole run, in the order in which they were found. -/
structure Report where
  warnings : List Warning := []
  refusals : List Refusal := []
deriving DecidableEq, Repr

/-- What a program writes: to its output and to its error channel. -/
structure Printed where
  out : Text := []
  err : Text := []
deriving DecidableEq, Repr

/-- A warning as it is printed. -/
def Warning.format (warning : Warning) : Text :=
  "Warning: " ++ warning.label ++ " in " ++ warning.procedure ++ "!\nEXPLAIN " ++
    warning.query ++ "\n\n"

/-- A refusal as it is printed. -/
def Refusal.format (refusal : Refusal) : Text :=
  refusal.reason ++ " in " ++ refusal.procedure ++ "!\n" ++ refusal.query ++ "\n\n"

namespace Report

/-- The number of entries, which is also the status of the program. -/
def status (report : Report) : Nat :=
  report.warnings.length + report.refusals.length

/-- The last line of the printed form. -/
def summary (report : Report) : Text :=
  "Found " ++ Text.ofNat report.warnings.length ++ " warnings and failed to explain " ++
    Text.ofNat report.refusals.length ++ " queries."

/-- The printed form: refusals on the error channel, warnings and the summary on the output. -/
def print (report : Report) : Printed where
  out := report.warnings.flatMap Warning.format ++ report.summary ++ ['\n']
  err := report.refusals.flatMap Refusal.format

end Report

end ProcedureAudit
