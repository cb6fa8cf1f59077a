import ProcedureAudit.Audit
import ProcedureAudit.Audit.Survey

/-!
# Complete audits

A complete audit checks that the deployment is not in production, reads the skip list, surveys
the source tree, connects to the server, seeds fixture records, and has the statements of the
procedures of interest explained.  The connection is closed in the end, whatever happens.
-/

namespace ProcedureAudit

/-- What the program works with. -/
structure Surroundings where
  workspace : Workspace
  environment : Environment
  server : Server
  /-- Where the values of fixture records come from. -/
  sources : Fixture.Sources

/-- What an audit leaves behind. -/
structure AuditRun where
  /-- The source files left out because they could not be read. -/
  leftOut : List SkippedFile := []
  outcome : Except Failure Report
  session : Session := {}

namespace Audit

/-- Carry out a fixture statement in a session. -/
def performIn
    (server : Server)
    (statement : Fixture.Statement)
    (session : Session) :
    Except SessionProblem Unit × Session :=
  let (outcome, session) := session.execute server statement.request
  (outcome.map fun _ => (), session)

/-- Have a query explained in a session. -/
def explainIn
    (server : Server)
    (query : Text)
    (session : Session) :
    PlanAnswer SessionProblem × Session :=
  match session.explain server query with
  | (.ok plan, session) => (.rows plan, session)
  | (.error (.refused reason), session) => (.refused reason, session)
  | (.error problem, session) => (.broken problem, session)

/-- Have the statements of the procedures of interest explained. -/
def explainSurvey
    (workspace : Workspace)
    (server : Server)
    (survey : Survey)
    (skipped : List Text)
    (registry : Registry)
    (session : Session) :
    Except Failure Report × Session :=
  match collect workspace survey.catalog skipped survey.names with
  | .error problem => (.error (.reading problem), session)
  | .ok selects =>
    let (outcome, session) := explain (explainIn server) registry selects {} session
    (outcome.mapError Failure.session, session)

/-- Seed fixture records, and then have the statements explained. -/
def seedAndExplain
    (surroundings : Surroundings)
    (configuration : Configuration)
    (survey : Survey)
    (skipped : List Text)
    (session : Session) :
    Except Failure Report × Session :=
  let seeding :=
    Fixture.seed (performIn surroundings.server) surroundings.sources configuration.recordCount
      (Registry.withFixedArguments configuration.knownArguments) session
  match seeding.outcome with
  | .error problem => (.error (.seeding problem), seeding.state)
  | .ok _ =>
    explainSurvey surroundings.workspace surroundings.server survey skipped seeding.registry
      seeding.state

/-- Carry out a complete audit. -/
def run (surroundings : Surroundings) (configuration : Configuration) : AuditRun :=
  if configuration.isProduction surroundings.environment then
    { outcome := .error .production }
  else
    match Routine.skippedNamesOfFile surroundings.workspace configuration.ignoreFile with
    | .error problem => { outcome := .error (.skipList problem) }
    | .ok skipped =>
      let surveyed := Survey.run surroundings.workspace configuration
      match surveyed.outcome with
      | .error failure => { leftOut := surveyed.leftOut, outcome := .error failure }
      | .ok survey =>
        let (outcome, session) :=
          Session.within surroundings.server configuration.address Failure.session
            (seedAndExplain surroundings configuration survey skipped) {}
        { leftOut := surveyed.leftOut, outcome, session }

end Audit

end ProcedureAudit
