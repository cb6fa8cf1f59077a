import ProcedureAudit.Query.Normal
import ProcedureAudit.Report
import ProcedureAudit.Routine.Catalog
import ProcedureAudit.Routine.Files

/-!
# The audit

An audit collects the statements of the procedures of interest and has each of them explained,
one after another.  A refused query is noted in the report and does not stop the audit; a planner
that breaks down does.

Nothing is assumed about the planner but that it answers, and that it may be in another state
after each answer.
-/

namespace ProcedureAudit

/-- A statement with the procedure and the file that it was taken from. -/
structure CollectedSelect where
  procedure : Text
  file : FilePath
  select : Text
deriving DecidableEq, Repr

/-- The answer of a planner to one query. -/
inductive PlanAnswer (Breakdown : Type) where
  | rows (plan : List Row)
  | refused (reason : Text)
  | broken (cause : Breakdown)

namespace Audit

/-! ## Collecting -/

/-- The statements of one procedure: none unless exactly one file declares it. -/
def selectsOf
    (workspace : Workspace)
    (catalog : Catalog)
    (procedure : Text) :
    Except ReadProblem (List CollectedSelect) :=
  match catalog.lookup procedure with
  | .unknown => .ok []
  | .ambiguous _ => .ok []
  | .found file =>
    match Routine.selectsOfFile workspace file (some procedure) with
    | .error problem => .error problem
    | .ok selects => .ok (selects.map fun select => { procedure, file, select })

/-- The statements of the given procedures, in order, without the skipped procedures. -/
def collect
    (workspace : Workspace)
    (catalog : Catalog)
    (skipped : List Text) :
    List Text → Except ReadProblem (List CollectedSelect)
  | [] => .ok []
  | procedure :: procedures =>
    if procedure ∈ skipped then
      collect workspace catalog skipped procedures
    else
      match selectsOf workspace catalog procedure with
      | .error problem => .error problem
      | .ok selects => (collect workspace catalog skipped procedures).map (selects ++ ·)

/-! ## Explaining -/

/-- Note the warnings about the plan of a query. -/
def noteRows (procedure query : Text) (plan : List Row) (report : Report) : Report :=
  { report with
    warnings := report.warnings ++
      (Plan.smells plan).map fun smell => { label := smell.label, procedure, query } }

/-- Note that a query was refused. -/
def noteRefusal (procedure query reason : Text) (report : Report) : Report :=
  { report with refusals := report.refusals ++ [{ reason, procedure, query }] }

/--
Have all statements explained, in order.  The planner is given as a function from a query and its
state to its answer and its next state.
-/
def explain
    {State Breakdown : Type}
    (planner : Text → State → PlanAnswer Breakdown × State)
    (registry : Registry) :
    List CollectedSelect → Report → State → Except Breakdown Report × State
  | [], report, state => (.ok report, state)
  | collected :: rest, report, state =>
    let query := Query.normalizeSelect collected.select registry
    match planner query state with
    | (.rows plan, state) =>
      explain planner registry rest (noteRows collected.procedure query plan report) state
    | (.refused reason, state) =>
      explain planner registry rest (noteRefusal collected.procedure query reason report) state
    | (.broken cause, state) => (.error cause, state)

end Audit

end ProcedureAudit
