import ProcedureAudit.Text.Basic

/-!
# File trees

A node of the file system is a file with its octets or a directory with named entries.  Besides
writing into a tree and following steps through it, this module lists the visible files: those
below a directory for which no step is hidden by a leading dot and no path on the way is ignored.

The names and paths in a tree are taken to be within the limits of the file system, which only paths
that were written by somebody may exceed.  So the walk meets no path that is too long, and what it
lists can be read as far as limits go.
-/

namespace ProcedureAudit

/-- A file or a directory. -/
inductive Node where
  | file (octets : List UInt8)
  | directory (entries : List (Text × Node))

namespace Node

/-- The directory without entries. -/
def emptyDirectory : Node :=
  .directory []

/-- The entries of a directory; a file has none. -/
def entries : Node → List (Text × Node)
  | .file _ => []
  | .directory entries => entries

/-- Whether the node is a directory. -/
def isDirectory : Node → Bool
  | .file _ => false
  | .directory _ => true

/-- Replace the entry of a name, or add one at the end. -/
def setEntry (name : Text) (node : Node) : List (Text × Node) → List (Text × Node)
  | [] => [(name, node)]
  | (other, present) :: entries =>
    if other = name then
      (name, node) :: entries
    else
      (other, present) :: setEntry name node entries

/-- Place a node at the end of the given steps, making directories on the way. -/
def place (content : Node) : List Text → Node → Node
  | [], _ => content
  | step :: steps, node =>
    let below := (node.entries.lookup step).getD emptyDirectory
    .directory (setEntry step (place content steps below) node.entries)

/-- Make sure that a directory stands at the end of the given steps. -/
def ensureDirectory (steps : List Text) (node : Node) : Node :=
  match steps with
  | [] => if node.isDirectory then node else emptyDirectory
  | step :: steps =>
    let below := (node.entries.lookup step).getD emptyDirectory
    .directory (setEntry step (ensureDirectory steps below) node.entries)

/-! ## The visible files -/

/-- Whether an entry is hidden by its name. -/
def isHidden (name : Text) : Bool :=
  name.head? = some '.'

/-- Put a named result in front of the first one whose name does not precede its own. -/
def insertByName {α : Type} (item : Text × α) : List (Text × α) → List (Text × α)
  | [] => [item]
  | other :: items =>
    if Text.precedesOrEquals item.1 other.1 then
      item :: other :: items
    else
      other :: insertByName item items

/-- Order named results by their names. -/
def orderByName {α : Type} (items : List (Text × α)) : List (Text × α) :=
  items.foldr insertByName []

mutual

/--
The steps to the visible files at or below a node that itself stands at `place`.  No limit is set to
the length of a path here, other than by `Workspace.find`: the tree is taken to be within it.
-/
def visibleFiles (ignored : List Text → Bool) (place : List Text) : Node → List (List Text)
  | .file _ => [place]
  | .directory entries => (orderByName (visibleEntries ignored place entries)).flatMap Prod.snd

/-- The steps to the visible files of each entry of a directory, with the name of the entry. -/
def visibleEntries
    (ignored : List Text → Bool)
    (place : List Text) :
    List (Text × Node) → List (Text × List (List Text))
  | [] => []
  | (name, node) :: entries =>
    let below :=
      if isHidden name || ignored (place ++ [name]) then
        []
      else
        visibleFiles ignored (place ++ [name]) node
    (name, below) :: visibleEntries ignored place entries

end

end Node

end ProcedureAudit
