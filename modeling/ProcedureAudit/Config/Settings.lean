import ProcedureAudit.Number.Numeral

/-!
# Settings from the environment

Without a configuration file a run is set up by variables of the environment.  Each variable has a
default, which stands in only if the variable is not set at all.
-/

namespace ProcedureAudit

/-- The variables of an environment that are set. -/
abbrev Environment := List (Text × Text)

/-- The value of a variable, or a default. -/
def Environment.getD (environment : Environment) (name fallback : String) : Text :=
  (environment.lookup name.toList).getD fallback.toList

/-- What the environment says about a run. -/
structure Settings where
  databaseUrl : Text
  sourceRoot : Text
  callerFile : Text
  ignoreFile : Text
  sourcePatterns : List Text
  recordCount : Int
  logLevel : Text
  environment : Text
deriving DecidableEq, Repr

namespace Settings

/-- The address of the database if none is given. -/
def defaultAddress : String :=
  "mysql://root@localhost:3306/fxa"

/-- The skip list if none is given. -/
def defaultIgnoreFile : String :=
  ".explain-ignore"

/-- The pattern of source files if none is given. -/
def defaultPattern : String :=
  "*.sql"

/-- The log level if none is given. -/
def defaultLevel : String :=
  "WARNING"

/-- The name of the deployment, as the environment gives it. -/
def deployment (environment : Environment) : Text :=
  environment.getD "NODE_ENV" ""

/-- The patterns of a list that is separated by commas. -/
def splitPatterns (list : Text) : List Text :=
  ((Text.splitOn ',' list).map Text.trim).filter (!·.isEmpty)

/-- Read the settings; the number of records is the only one that can be wrong by itself. -/
def read (environment : Environment) : Except Numeral.Problem Settings :=
  match Numeral.integer (environment.getD "RECORD_COUNT" "100") with
  | .error problem => .error problem
  | .ok recordCount =>
    .ok
      { databaseUrl := environment.getD "DATABASE_URL" defaultAddress
        sourceRoot := environment.getD "SOURCE_ROOT" "."
        callerFile := environment.getD "CALLER_FILE" ""
        ignoreFile := environment.getD "IGNORE_FILE" defaultIgnoreFile
        sourcePatterns := splitPatterns (environment.getD "SOURCE_PATTERNS" defaultPattern)
        recordCount
        logLevel := environment.getD "LOG_LEVEL" defaultLevel
        environment := deployment environment }

end Settings

end ProcedureAudit
