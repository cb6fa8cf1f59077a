import ProcedureAudit.Text.Basic

/-!
# Paths of files

A path is a list of steps together with the place where it starts: the current directory, or the
top of the file system.  Empty steps and steps to the place itself are dropped when a path is
read; a step to the parent directory is kept, because only the file system can say where it leads.
-/

namespace ProcedureAudit

/-- Where a path starts.  Two slashes at the beginning are kept apart from one. -/
inductive PathStart where
  | current
  | top
  | doubledTop
deriving DecidableEq, Repr

/-- A start and the steps from there. -/
structure FilePath where
  start : PathStart
  steps : List Text
deriving DecidableEq, Repr

/-- The slashes that a start is written with. -/
def PathStart.render : PathStart → Text
  | .current => []
  | .top => ['/']
  | .doubledTop => ['/', '/']

namespace FilePath

/-- The step to the parent directory. -/
def parentStep : Text :=
  ['.', '.']

/-- The start that a text announces. -/
def startOf : Text → PathStart
  | '/' :: '/' :: '/' :: _ => .top
  | '/' :: '/' :: _ => .doubledTop
  | '/' :: _ => .top
  | _ => .current

/-- The steps between the slashes of a text, without empty ones and those to the place itself. -/
def stepsOf (text : Text) : List Text :=
  (Text.splitOn '/' text).filter fun step => !(step = [] || step = ['.'])

/-- Read a path. -/
def parse (text : Text) : FilePath where
  start := startOf text
  steps := stepsOf text

/-- Write a path; the current directory is a dot. -/
def render (path : FilePath) : Text :=
  if path.start = .current ∧ path.steps = [] then
    ['.']
  else
    path.start.render ++ Text.joinWith ['/'] path.steps

/-- The path that starts at the top and takes the given steps. -/
def absolute (steps : List Text) : FilePath where
  start := .top
  steps := steps

/-- The second path as seen from the first one. -/
def join (base path : FilePath) : FilePath :=
  if path.start = .current then
    { base with steps := base.steps ++ path.steps }
  else
    path

/-- Carry out the steps to parent directories, given the steps already taken in reverse. -/
def settleFrom (taken : List Text) : List Text → List Text
  | [] => taken.reverse
  | step :: steps =>
    if step = parentStep then
      settleFrom taken.tail steps
    else
      settleFrom (step :: taken) steps

/-- Carry out the steps to parent directories. -/
def settle (steps : List Text) : List Text :=
  settleFrom [] steps

end FilePath

end ProcedureAudit
