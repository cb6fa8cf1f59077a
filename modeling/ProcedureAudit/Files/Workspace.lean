import ProcedureAudit.Files.Path
import ProcedureAudit.Files.Tree
import ProcedureAudit.Text.Lines
import ProcedureAudit.Text.Utf8

/-!
# The workspace

A workspace is a file tree with a current directory.  Following a path through it can fail in a
few ways, each with its number and words.  Files are read as UTF-8 with plain line feeds.
-/

namespace ProcedureAudit

/-- Why a path leads to no file. -/
inductive PathProblem where
  | missing
  | notDirectory
  | isDirectory
  | nameTooLong
deriving DecidableEq, Repr

namespace PathProblem

/-- The number of a problem. -/
def number : PathProblem → Nat
  | .missing => 2
  | .notDirectory => 20
  | .isDirectory => 21
  | .nameTooLong => 36

/-- The words for a problem. -/
def words : PathProblem → Text
  | .missing => "No such file or directory"
  | .notDirectory => "Not a directory"
  | .isDirectory => "Is a directory"
  | .nameTooLong => "File name too long"

/-- A problem with the path at which it arose. -/
def message (problem : PathProblem) (path : Text) : Text :=
  "[Errno " ++ Text.ofNat problem.number ++ "] " ++ problem.words ++ ": " ++ Text.quoted path

end PathProblem

/-- Why a file could not be read as text. -/
inductive ReadProblem where
  | path (problem : PathProblem) (place : FilePath)
  /-- The path holds the character zero, which ends every path. -/
  | zeroInPath
  | encoding (fault : Utf8.Malformed)
deriving DecidableEq, Repr

/-- A problem in words. -/
def ReadProblem.message : ReadProblem → Text
  | .path problem place => problem.message place.render
  | .zeroInPath => "embedded null byte"
  | .encoding fault => fault.message

/-- Whether the problem lies in the file system and not in the content of the file. -/
def ReadProblem.isAboutPath : ReadProblem → Bool
  | .path _ _ => true
  | .zeroInPath => false
  | .encoding _ => false

/-- A file tree and the steps from its top to the current directory. -/
structure Workspace where
  top : Node
  current : List Text

namespace Workspace

/-- The greatest number of octets in the name of an entry. -/
def nameLimit : Nat :=
  255

/-- The greatest number of octets in a path. -/
def pathLimit : Nat :=
  4095

/-- The node that the steps lead to from `here`, which lies below the nodes of the trail. -/
def follow : (trail : List Node) → (here : Node) → List Text → Except PathProblem Node
  | _, here, [] => .ok here
  | _, .file _, _ :: _ => .error .notDirectory
  | trail, .directory entries, step :: steps =>
    if step = FilePath.parentStep then
      match trail with
      | [] => follow [] (.directory entries) steps
      | parent :: trail => follow trail parent steps
    else if nameLimit < Utf8.encodedLength step then
      .error .nameTooLong
    else
      match entries.lookup step with
      | none => .error .missing
      | some node => follow (.directory entries :: trail) node steps

/-- The steps from the top of the tree that a path stands for. -/
def stepsFromTop (workspace : Workspace) (path : FilePath) : List Text :=
  if path.start = .current then workspace.current ++ path.steps else path.steps

/-- The node that a path leads to. -/
def find (workspace : Workspace) (path : FilePath) : Except PathProblem Node :=
  if pathLimit < Utf8.encodedLength path.render then
    .error .nameTooLong
  else
    follow [] workspace.top (workspace.stepsFromTop path)

/-- Whether the character zero occurs in a path. -/
def hasZero (path : FilePath) : Bool :=
  path.steps.any fun step => '\x00' ∈ step

/-- The octets of the file that a path leads to. -/
def read (workspace : Workspace) (path : FilePath) : Except ReadProblem (List UInt8) :=
  if hasZero path then
    .error .zeroInPath
  else
    match workspace.find path with
    | .error problem => .error (.path problem path)
    | .ok (.directory _) => .error (.path .isDirectory path)
    | .ok (.file octets) => .ok octets

/-- The text of the file that a path leads to, with plain line feeds. -/
def readText (workspace : Workspace) (path : FilePath) : Except ReadProblem Text :=
  match workspace.read path with
  | .error problem => .error problem
  | .ok octets =>
    match Utf8.decode octets with
    | .error fault => .error (.encoding fault)
    | .ok text => .ok (Text.unifyLineEnds text)

/--
The node that a path leads to, if there is one.  Only names that are too long are reported as a
problem.
-/
def find? (workspace : Workspace) (path : FilePath) : Except PathProblem (Option Node) :=
  if hasZero path then
    .ok none
  else
    match workspace.find path with
    | .ok node => .ok (some node)
    | .error .nameTooLong => .error .nameTooLong
    | .error _ => .ok none

/-- The same place as a path from the top, without steps to parent directories. -/
def resolve (workspace : Workspace) (path : FilePath) : FilePath :=
  .absolute (FilePath.settle (workspace.stepsFromTop path))

end Workspace

end ProcedureAudit
