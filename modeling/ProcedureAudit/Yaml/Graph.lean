import ProcedureAudit.Yaml.Schema

/-!
# Graphs of nodes

A document is a graph: a node that has been given a name may occur in several places, and even
inside itself.  Collections refer to their members by number.

Before a mapping is understood, it is flattened: in the place of a merge key, the entries of other
mappings are put in front of its own.  Those mappings are flattened first, and stay so.
-/

namespace ProcedureAudit.Yaml

/-- The number of a node. -/
abbrev NodeId := Nat

/-- What a node contains. -/
inductive Content where
  | scalar (text : CodeText)
  | sequence (items : List NodeId)
  | mapping (entries : List (NodeId × NodeId))
deriving Repr

/-- A node. -/
structure Node where
  kind : Kind
  content : Content
deriving Repr

/-- The node that stands where nothing is written. -/
def Node.absent : Node where
  kind := .null
  content := .scalar []

/-- The nodes of a document, each in the place of its number. -/
abbrev Graph := Array Node

namespace Graph

/-- The node with a number. -/
def node (graph : Graph) (id : NodeId) : Node :=
  (graph[id]?).getD .absent

/-- The kind of a node. -/
def kind (graph : Graph) (id : NodeId) : Kind :=
  (graph.node id).kind

/-- The content of a node. -/
def content (graph : Graph) (id : NodeId) : Content :=
  (graph.node id).content

/-- The entries of a mapping; other nodes have none. -/
def entries (graph : Graph) (id : NodeId) : List (NodeId × NodeId) :=
  match graph.content id with
  | .mapping entries => entries
  | _ => []

/-- Replace the content of a node. -/
def setContent (graph : Graph) (id : NodeId) (content : Content) : Graph :=
  graph.modify id fun node => { node with content }

/-- Replace the entries of a mapping. -/
def setEntries (graph : Graph) (id : NodeId) (entries : List (NodeId × NodeId)) : Graph :=
  graph.setContent id (.mapping entries)

/-! ## Merging -/

/-- How many entries of a mapping are merges. -/
def mergesOf (graph : Graph) (node : Node) : Nat :=
  match node.content with
  | .mapping entries => entries.countP fun (key, _) => graph.kind key = .merge
  | _ => 0

/-- How many merges the whole graph has. -/
def merges (graph : Graph) : Nat :=
  graph.foldl (fun count node => count + graph.mergesOf node) 0

/-- The value of the first merge of some entries, and the entries without it. -/
def takeMerge? (graph : Graph) :
    List (NodeId × NodeId) → Option (NodeId × List (NodeId × NodeId))
  | [] => none
  | (key, value) :: entries =>
    if graph.kind key = .merge then
      some (value, entries)
    else
      (takeMerge? graph entries).map fun (merged, entries) => (merged, (key, value) :: entries)

/-- Once entries are understood, a key for the value of a mapping as a whole is a plain text. -/
def settleKeys (graph : Graph) (entries : List (NodeId × NodeId)) : Graph :=
  entries.foldl
    (fun graph (key, _) =>
      if graph.kind key = .defaultValue then
        graph.modify key fun node => { node with kind := .text }
      else
        graph)
    graph

/-- Flatten mappings one after the other, and collect the entries of each. -/
def flattenAll
    (flatten : Graph → NodeId → Option Graph)
    (graph : Graph) :
    List NodeId → Option (Graph × List (List (NodeId × NodeId)))
  | [] => some (graph, [])
  | id :: ids =>
    match graph.content id with
    | .mapping _ =>
      match flatten graph id with
      | none => none
      | some graph =>
        (flattenAll flatten graph ids).map fun (after, rest) => (after, graph.entries id :: rest)
    | _ => none

/--
Flatten a mapping, given the entries that are to be put in front.  Of several mappings under one
merge key the first one comes last, so that its entries win.  Every unit of fuel takes a merge out
of the graph.
-/
def flattenFrom :
    (fuel : Nat) → Graph → NodeId → (merged : List (NodeId × NodeId)) → Option Graph
  | fuel, graph, id, merged =>
    match fuel, graph.takeMerge? (graph.entries id) with
    | _, none =>
      let entries := merged ++ graph.entries id
      some ((graph.settleKeys entries).setEntries id entries)
    | 0, some _ => none
    | fuel + 1, some (value, entries) =>
      let graph := graph.setEntries id entries
      match graph.content value with
      | .scalar _ => none
      | .mapping _ =>
        match flattenFrom fuel graph value [] with
        | none => none
        | some graph => flattenFrom fuel graph id (merged ++ graph.entries value)
      | .sequence items =>
        match flattenAll (fun graph id => flattenFrom fuel graph id []) graph items with
        | none => none
        | some (graph, parts) => flattenFrom fuel graph id (merged ++ parts.reverse.flatten)

/-- The graph with a mapping flattened, if what stands under its merge keys can stand there. -/
def flatten? (graph : Graph) (id : NodeId) : Option Graph :=
  let fuel := if (graph.takeMerge? (graph.entries id)).isSome then graph.merges else 0
  flattenFrom fuel graph id []

end Graph

end ProcedureAudit.Yaml
