import ProcedureAudit.Files.IgnoreRules
import ProcedureAudit.Files.Wildcard
import ProcedureAudit.Files.Workspace
import ProcedureAudit.Routine.Line

/-!
# The catalog of procedures

A catalog says for each procedure which files declare it.  It is built from the visible files
below a directory whose paths match one of several wildcards, and it answers with exactly one
file, with several, or with none.
-/

namespace ProcedureAudit

/-- The files that declare one procedure. -/
structure Declaration where
  /-- The name in lower case. -/
  key : Text
  /-- The declaring files, in the order in which they were added. -/
  files : List FilePath
deriving DecidableEq, Repr

/-- The declarations, and beside them the declared names as they were first spelled. -/
structure Catalog where
  /-- The declarations in the order in which their keys were first met. -/
  declarations : List Declaration := []
  /-- The first spelling of each name, in the order in which the names were first met. -/
  spellings : List Text := []
deriving DecidableEq, Repr

/-- The answer for a name. -/
inductive Lookup where
  | unknown
  | found (file : FilePath)
  | ambiguous (files : List FilePath)
deriving DecidableEq, Repr

namespace Lookup

/-- The word for an answer. -/
def status : Lookup → Text
  | .unknown => "not found"
  | .found _ => "found"
  | .ambiguous _ => "ambiguous"

/-- The one file that declares the name. -/
def file? : Lookup → Option FilePath
  | .found file => some file
  | _ => none

/-- The files that declare the name. -/
def candidates : Lookup → List FilePath
  | .unknown => []
  | .found file => [file]
  | .ambiguous files => files

end Lookup

/-- A file that could not be read and was left out. -/
structure SkippedFile where
  file : FilePath
  problem : ReadProblem
deriving DecidableEq, Repr

/-- The warning about a file that was left out. -/
def SkippedFile.message (skipped : SkippedFile) : Text :=
  "Skipping unreadable source file " ++ skipped.file.render ++ ": " ++ skipped.problem.message

/-- Why no catalog could be built. -/
inductive CatalogProblem where
  | rootMissing (root : FilePath)
  | rootNotDirectory (root : FilePath)
  /-- The path of the root cannot be followed at all. -/
  | rootUnusable (root : FilePath) (problem : PathProblem)
  | zeroInRoot
  | ignoreFileUnusable (problem : ReadProblem)
  | ignoreRule (invalid : InvalidRule)
  | emptyPattern
  /-- A source file with a path that cannot be used at all. -/
  | sourceUnusable (problem : ReadProblem)
deriving DecidableEq, Repr

/-- A problem in words. -/
def CatalogProblem.message : CatalogProblem → Text
  | .rootMissing root => "Source root not found: " ++ root.render
  | .rootNotDirectory root => "Source root is not a directory: " ++ root.render
  | .rootUnusable root problem => problem.message root.render
  | .zeroInRoot => "lstat: embedded null character in path"
  | .ignoreFileUnusable problem => problem.message
  | .ignoreRule invalid => invalid.message
  | .emptyPattern => "empty pattern"
  | .sourceUnusable problem => problem.message

/-- What an attempt to build a catalog leads to. -/
structure CatalogBuild where
  /-- The files left out, in the order in which they were met. -/
  skipped : List SkippedFile := []
  outcome : Except CatalogProblem Catalog

namespace Catalog

/-- The catalog without declarations. -/
def empty : Catalog :=
  {}

/-! ## Adding files -/

/-- The names that the lines of a source text declare, with repetitions. -/
def declaredNames (source : Text) : List Text :=
  (Routine.sourceLines source).filterMap Routine.declaredName?

/-- Add a file to the declaration of a key, or a declaration at the end. -/
def declareIn (file : FilePath) (key : Text) : List Declaration → List Declaration
  | [] => [{ key, files := [file] }]
  | declaration :: declarations =>
    if declaration.key = key then
      let files :=
        if file ∈ declaration.files then declaration.files else declaration.files ++ [file]
      { declaration with files } :: declarations
    else
      declaration :: declareIn file key declarations

/-- The keys of the declarations, in the order in which they were first met. -/
def keys (catalog : Catalog) : List Text :=
  catalog.declarations.map Declaration.key

/-- Record that a file declares a name; a name is written down if its key is new. -/
def declare (file : FilePath) (catalog : Catalog) (name : Text) : Catalog :=
  let key := Text.lower name
  { declarations := declareIn file key catalog.declarations
    spellings :=
      if key ∈ catalog.keys then catalog.spellings else catalog.spellings ++ [name] }

/-- Record all names that a source text declares. -/
def declareAll (file : FilePath) (source : Text) (catalog : Catalog) : Catalog :=
  (declaredNames source).foldl (declare file) catalog

/--
Record what a file declares.  A file that cannot be read is left out, but a path that cannot be
used at all is a problem.
-/
def addFile
    (workspace : Workspace)
    (file : FilePath)
    (catalog : Catalog) :
    Except ReadProblem (Catalog × Option SkippedFile) :=
  match workspace.readText file with
  | .ok source => .ok (catalog.declareAll file source, none)
  | .error .zeroInPath => .error .zeroInPath
  | .error problem => .ok (catalog, some { file, problem })

/-! ## Building -/

/-- Whether one of the wildcards matches a path; an empty wildcard that is reached is a problem. -/
def selects (patterns : List Wildcard) (file : FilePath) : Except CatalogProblem Bool :=
  match patterns with
  | [] => .ok false
  | pattern :: patterns =>
    if pattern.isEmpty then
      .error .emptyPattern
    else if pattern.accepts file then
      .ok true
    else
      selects patterns file

/-- Add those files that one of the wildcards matches. -/
def addFiles
    (workspace : Workspace)
    (patterns : List Wildcard)
    (catalog : Catalog) :
    List FilePath → CatalogBuild
  | [] => { outcome := .ok catalog }
  | file :: files =>
    match selects patterns file with
    | .error problem => { outcome := .error problem }
    | .ok false => addFiles workspace patterns catalog files
    | .ok true =>
      match addFile workspace file catalog with
      | .error problem => { outcome := .error (.sourceUnusable problem) }
      | .ok (extended, skipped) =>
        let build := addFiles workspace patterns extended files
        { build with skipped := skipped.toList ++ build.skipped }

/-- The rules of the ignore file of a directory; a file that is not there holds no rules. -/
def ignoreRules
    (workspace : Workspace)
    (file : FilePath) :
    Except CatalogProblem IgnoreRules :=
  match workspace.find? file with
  | .error problem => .error (.ignoreFileUnusable (.path problem file))
  | .ok none => .ok []
  | .ok (some _) =>
    match workspace.readText file with
    | .error problem => .error (.ignoreFileUnusable problem)
    | .ok text =>
      match IgnoreRules.parse text with
      | .error invalid => .error (.ignoreRule invalid)
      | .ok rules => .ok rules

/-- The visible files below a directory, as paths. -/
def visibleFiles (rules : IgnoreRules) (root : FilePath) (node : Node) : List FilePath :=
  (node.visibleFiles rules.ignores []).map fun steps => { root with steps := root.steps ++ steps }

/-- The name of the ignore file of a source tree. -/
def defaultIgnoreFile : Text :=
  ".gitignore"

/--
Build the catalog of the files below `root` that match one of the patterns.  The ignore file is
looked up in the root.
-/
def build
    (workspace : Workspace)
    (root : Text)
    (patterns : List Text)
    (ignoreFile : Text) :
    CatalogBuild :=
  let path := FilePath.parse root
  let root := workspace.resolve path
  if Workspace.hasZero path then
    { outcome := .error .zeroInRoot }
  else
    match workspace.find? root with
    | .error problem => { outcome := .error (.rootUnusable root problem) }
    | .ok none => { outcome := .error (.rootMissing root) }
    | .ok (some node) =>
      if !node.isDirectory then
        { outcome := .error (.rootNotDirectory root) }
      else
        match ignoreRules workspace (root.join (FilePath.parse ignoreFile)) with
        | .error problem => { outcome := .error problem }
        | .ok rules =>
          addFiles workspace (patterns.map Wildcard.parse) empty (visibleFiles rules root node)

/-! ## Questions -/

/-- The declared names, each as first spelled. -/
def names (catalog : Catalog) : List Text :=
  catalog.spellings

/-- The files that declare a name in any letter case. -/
def filesOf (catalog : Catalog) (name : Text) : List FilePath :=
  match catalog.declarations.find? fun declaration => declaration.key = Text.lower name with
  | some declaration => declaration.files
  | none => []

/-- The answer for a name in any letter case. -/
def lookup (catalog : Catalog) (name : Text) : Lookup :=
  match catalog.filesOf name with
  | [] => .unknown
  | [file] => .found file
  | files => .ambiguous files

end Catalog

end ProcedureAudit
