import ProcedureAudit.Failure

/-!
# Surveys

A survey of a source tree consists of its catalog and of the procedures of interest: those that a
caller file calls, or all procedures of the catalog if there is no caller file.
-/

namespace ProcedureAudit

/-- A catalog with the procedures of interest. -/
structure Survey where
  catalog : Catalog
  names : List Text
deriving DecidableEq, Repr

/-- What an attempt to survey a source tree leads to. -/
structure SurveyRun where
  /-- The source files left out because they could not be read. -/
  leftOut : List SkippedFile := []
  outcome : Except Failure Survey

namespace Survey

/-- The procedures of interest. -/
def namesOfInterest
    (workspace : Workspace)
    (configuration : Configuration)
    (catalog : Catalog) :
    Except ReadProblem (List Text) :=
  match configuration.callerFile with
  | none => .ok catalog.names
  | some [] => .ok catalog.names
  | some file => Routine.calledNamesOfFile workspace (FilePath.parse file)

/-- The survey of a catalog. -/
def ofCatalog
    (workspace : Workspace)
    (configuration : Configuration)
    (catalog : Catalog) :
    Except Failure Survey :=
  match namesOfInterest workspace configuration catalog with
  | .error problem => .error (.reading problem)
  | .ok names => .ok { catalog, names }

/-- Survey the source tree of a configuration. -/
def run (workspace : Workspace) (configuration : Configuration) : SurveyRun :=
  let build :=
    Catalog.build workspace configuration.root configuration.patterns Catalog.defaultIgnoreFile
  { leftOut := build.skipped
    outcome :=
      match build.outcome with
      | .error problem => .error (.catalog problem)
      | .ok catalog => ofCatalog workspace configuration catalog }

end Survey

end ProcedureAudit
