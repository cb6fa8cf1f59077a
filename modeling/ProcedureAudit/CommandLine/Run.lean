import ProcedureAudit.Audit.Run
import ProcedureAudit.CommandLine.Task
import ProcedureAudit.Config.Override

/-!
# Running the program

The program carries out the task that its arguments ask for.  What it leaves behind is a status,
what it prints, and a record of its dealings with the world: the files that it could not read, how
it set up its log, and its session with the server.  A task that fails prints nothing but one
message; only a demand on the program that is no error is passed on to whoever started it.
-/

namespace ProcedureAudit.CommandLine

/-- What the program leaves behind. -/
structure Conclusion where
  /-- The status that the program hands over, which is of no account if a demand is passed on. -/
  status : Nat := 0
  printed : Printed := {}
  /-- The source files left out because they could not be read. -/
  leftOut : List SkippedFile := []
  /-- The level and the format of the log, if it was set up. -/
  log : Option (LogLevel × Text) := none
  session : Session := {}
  /-- The demand that the program passes on instead of ending by itself. -/
  passedOn : Option Fault := none

namespace Conclusion

/-- What the log says about files left out, unless it is set up for errors only. -/
def notices (conclusion : Conclusion) : List Text :=
  match conclusion.log with
  | some (.error, _) => []
  | _ => conclusion.leftOut.map SkippedFile.message

/-- The conclusion of a run that prints some lines. -/
def ofLines (lines : List Text) : Conclusion where
  printed := { out := lines.flatMap (· ++ ['\n']) }

/-- The conclusion of a failed run. -/
def ofFailure (failure : Failure) : Conclusion :=
  if failure.isInterrupt then
    { status := 130, printed := { err := "\nInterrupted by user\n" } }
  else
    match failure.demand? with
    | some demand => { status := 1, passedOn := some demand }
    | none => { status := 1, printed := { err := "Error: " ++ failure.message ++ ['\n'] } }

/-- The conclusion of a run that succeeded or failed. -/
def ofOutcome {α : Type} (conclude : α → Conclusion) (outcome : Except Failure α) : Conclusion :=
  match outcome with
  | .ok result => conclude result
  | .error failure => ofFailure failure

/-- The conclusion of a run that has nothing to do. -/
def ofHalt : Halt → Conclusion
  | .help scope => { printed := { out := Halt.usage scope ++ ['\n'] } }
  | .misuse scope misuse =>
    { status := 2, printed := { err := Halt.misuseLine scope misuse ++ ['\n'] } }

/--
Set up the log and write the configuration to it, and then conclude as given.  If the format is
refused, there is no log.
-/
def logging (configuration : Configuration) (conclusion : Conclusion) : Conclusion :=
  if LogFormat.isUsable configuration.format then
    { if configuration.isWritable then conclusion else ofFailure .unwritable with
      log := some (configuration.level, configuration.format) }
  else
    ofFailure (.logFormat configuration.format)

end Conclusion

/-! ## Configurations -/

/-- The configuration of a run, with the values of the command line in it. -/
def configure
    (surroundings : Surroundings)
    (config : Text)
    (overrides : Overrides) :
    Except Failure Configuration :=
  match Configuration.load surroundings.workspace surroundings.environment config with
  | .error problem => .error (.config problem)
  | .ok configuration =>
    (configuration.override overrides).mapError fun flaws =>
      .config (.flawed Configuration.modelName flaws)

/-! ## Commands -/

/-- Audit the procedures of interest, and print the report. -/
def runAudit (surroundings : Surroundings) (configuration : Configuration) : Conclusion :=
  let audit := Audit.run surroundings configuration
  let conclusion :=
    Conclusion.ofOutcome
      (fun report => { status := report.status, printed := report.print }) audit.outcome
  { conclusion with leftOut := audit.leftOut, session := audit.session }

/-- The statements of a file, repaired, and as queries if so wanted. -/
def previewLines
    (workspace : Workspace)
    (file : Text)
    (procedure : Option Text)
    (normalize : Bool) :
    Except ReadProblem (List Text) :=
  (Routine.selectsOfFile workspace (FilePath.parse file) procedure).map fun selects =>
    if normalize then
      selects.map fun select => Query.normalizeSelect select (Registry.withFixedArguments [])
    else
      selects

/-- Print the statements of a file. -/
def scanFile
    (workspace : Workspace)
    (file : Text)
    (procedure : Option Text)
    (normalize : Bool) :
    Conclusion :=
  match previewLines workspace file procedure normalize with
  | .error problem => Conclusion.ofFailure (.reading problem)
  | .ok [] => { printed := { err := "No SELECT statements found in " ++ file ++ ['\n'] } }
  | .ok lines => Conclusion.ofLines lines

/-- A procedure with its file, or with the word for having none or several. -/
def procedureLine (catalog : Catalog) (name : Text) : Text :=
  match catalog.lookup name with
  | .found file => name ++ '\t' :: file.render
  | answer => name ++ '\t' :: answer.status

/-- Print the procedures of interest. -/
def listProcedures (workspace : Workspace) (configuration : Configuration) : Conclusion :=
  let surveyed := Survey.run workspace configuration
  let conclusion :=
    Conclusion.ofOutcome
      (fun survey => Conclusion.ofLines (survey.names.map (procedureLine survey.catalog)))
      surveyed.outcome
  { conclusion with leftOut := surveyed.leftOut }

/-- Ask the server for its version. -/
def versionIn (server : Server) (session : Session) : Except Failure Value × Session :=
  let (outcome, session) := session.version server
  (outcome.mapError Failure.session, session)

/-- Connect to the server, and print its version. -/
def pingDatabase (server : Server) (configuration : Configuration) : Conclusion :=
  let (outcome, session) :=
    Session.within server configuration.address Failure.session (versionIn server) {}
  let conclusion :=
    Conclusion.ofOutcome
      (fun version => Conclusion.ofLines
        ["✓ Database connection successful".toList, "  MySQL: ".toList ++ version.display])
      outcome
  { conclusion with session }

/-- Carry out a task. -/
def Task.perform (surroundings : Surroundings) : Task → Conclusion
  | .run config overrides =>
    Conclusion.ofOutcome
      (fun configuration => (runAudit surroundings configuration).logging configuration)
      (configure surroundings config overrides)
  | .scan file procedure normalize => scanFile surroundings.workspace file procedure normalize
  | .procedures config overrides =>
    Conclusion.ofOutcome
      (fun configuration =>
        (listProcedures surroundings.workspace configuration).logging configuration)
      (configure surroundings config overrides)
  | .ping config overrides =>
    Conclusion.ofOutcome (pingDatabase surroundings.server)
      (configure surroundings config overrides)

/-- Run the program with some arguments. -/
def run (surroundings : Surroundings) (arguments : List Text) : Conclusion :=
  match Task.ofArguments arguments with
  | .error halt => Conclusion.ofHalt halt
  | .ok task => task.perform surroundings

end ProcedureAudit.CommandLine
