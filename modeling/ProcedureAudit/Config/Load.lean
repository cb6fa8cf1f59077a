import ProcedureAudit.Config.Schema
import ProcedureAudit.Files.Workspace

/-!
# Loading configurations

A configuration comes from a file if one is named, and from the environment otherwise.
-/

namespace ProcedureAudit

/-- Why there is no configuration. -/
inductive ConfigProblem where
  | fileMissing (file : FilePath)
  | fileUnusable (problem : ReadProblem)
  | notYaml (problem : Yaml.Problem)
  | fileEmpty (file : FilePath)
  | fileFlawed (file : FilePath) (flaws : List Config.Flaw)
  /-- The environment does not give a number of records. -/
  | count (problem : Numeral.Problem)
  /-- A part of the configuration does not hold what it should. -/
  | flawed (model : Text) (flaws : List Config.Flaw)
deriving DecidableEq, Repr

/-- A problem in words. -/
def ConfigProblem.message : ConfigProblem → Text
  | .fileMissing file => "Config file not found: " ++ file.render
  | .fileUnusable problem => problem.message
  | .notYaml problem => problem.message
  | .fileEmpty file => "Empty configuration file: " ++ file.render
  | .fileFlawed file flaws =>
    "Invalid configuration in " ++ file.render ++ ": " ++
      Config.flawsMessage Configuration.modelName flaws
  | .count problem => problem.message
  | .flawed model flaws => Config.flawsMessage model flaws

namespace Configuration

/-- The number of octets of a configuration file that are decoded at once. -/
def chunkSize : Nat :=
  8192

/-- Read a configuration file. -/
def ofFile (workspace : Workspace) (file : FilePath) : Except ConfigProblem Configuration :=
  match workspace.find? file with
  | .error problem => .error (.fileUnusable (.path problem file))
  | .ok none => .error (.fileMissing file)
  | .ok (some _) =>
    match workspace.read file with
    | .error problem => .error (.fileUnusable problem)
    | .ok octets =>
      match Utf8.decodeInChunks chunkSize octets with
      | .error fault => .error (.fileUnusable (.encoding fault))
      | .ok text =>
        match Yaml.Document.ofText (Text.unifyLineEnds text) with
        | .error problem => .error (.notYaml problem)
        | .ok document =>
          let datum := document.datum Config.depth
          if datum.isNothing then
            .error (.fileEmpty file)
          else
            (Config.checkConfiguration datum).mapError (.fileFlawed file)

/-- The configuration that settings describe; the first flawed part is reported. -/
def ofSettings (settings : Settings) : Except ConfigProblem Configuration :=
  match Config.checkAddress ["dsn".toList] settings.databaseUrl with
  | .error flaws => .error (.flawed "DatabaseConfig" flaws)
  | .ok address =>
    match Config.checkCount ["record_count".toList] settings.recordCount with
    | .error flaws => .error (.flawed "SeedingConfig" flaws)
    | .ok recordCount =>
      match Config.checkLevel ["level".toList] settings.logLevel with
      | .error flaws => .error (.flawed "LoggingConfig" flaws)
      | .ok level =>
        .ok
          { environment := settings.environment
            address
            root := settings.sourceRoot
            callerFile := if settings.callerFile.isEmpty then none else some settings.callerFile
            ignoreFile := settings.ignoreFile
            patterns :=
              if settings.sourcePatterns.isEmpty then
                [Settings.defaultPattern.toList]
              else
                settings.sourcePatterns
            recordCount
            level }

/-- Load a configuration from a file, or from the environment if no file is named. -/
def load
    (workspace : Workspace)
    (environment : Environment)
    (file : Text) :
    Except ConfigProblem Configuration :=
  if file.isEmpty then
    match Settings.read environment with
    | .error problem => .error (.count problem)
    | .ok settings => ofSettings settings
  else
    ofFile workspace (FilePath.parse file)

end Configuration

end ProcedureAudit
