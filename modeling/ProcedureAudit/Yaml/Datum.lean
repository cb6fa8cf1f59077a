import ProcedureAudit.Yaml.Atom
import ProcedureAudit.Yaml.Node

/-!
# The data of a YAML text

Data are what nodes stand for: atoms, sequences, and mappings in which no key occurs twice.  A
text can hold more than one problem.  Its data are made level by level, the members of one
collection after those of another, and the first problem that arises in this order is reported.

Collections can contain themselves, so that they are kept in a store and refer to one another by
number.  Whoever looks at the data says how many levels of them are wanted.
-/

namespace ProcedureAudit.Yaml

/-- What a node stands for, seen for some levels. -/
inductive Datum where
  | atom (content : Atom)
  | sequence (items : List Datum)
  | mapping (entries : List (Datum × Datum))

/-- Whether a datum counts as nothing: absent, false, zero or empty. -/
def Datum.isNothing : Datum → Bool
  | .atom content => content.isNothing
  | .sequence items => items.isEmpty
  | .mapping entries => entries.isEmpty

/-- A member of a collection: an atom, or another collection. -/
inductive Member where
  | atom (content : Atom)
  | collection (node : NodeId)
deriving DecidableEq, Repr

/-- A collection with its members. -/
inductive Collection where
  | sequence (items : List Member)
  | pairs (items : List (Member × Member))
  | mapping (entries : List (Atom × Member))
  | set (members : List Atom)
deriving Repr

namespace Collection

/-- Store an entry; a key that is present keeps its place and gets the new value. -/
def store (key : Atom) (value : Member) : List (Atom × Member) → List (Atom × Member)
  | [] => [(key, value)]
  | (other, present) :: entries =>
    if other.isSameKey key then
      (other, value) :: entries
    else
      (other, present) :: store key value entries

/-- Store several entries, in order. -/
def storeAll (entries : List (Atom × Member)) : List (Atom × Member) :=
  entries.foldl (fun entries (key, value) => store key value entries) []

end Collection

/-! ## Making data -/

/-- The state of making data. -/
structure Making where
  graph : Graph
  /-- What has been made of each node so far. -/
  made : Array (Option Member) := Array.replicate graph.size none
  /-- The collections whose members are still to be made, the latest one first. -/
  pending : List NodeId := []
  /-- The collections that are complete, each in the place of its node. -/
  collections : Array (Option Collection) := Array.replicate graph.size none

/-- What comes of a step of making data. -/
abbrev Made (α : Type) := Except Problem (α × Making)

namespace Making

/-- Fuel that exceeds the number of different nodes. -/
def fuel (making : Making) : Nat :=
  making.graph.size + 1

/-- Note what has been made of a node. -/
def note (node : NodeId) (member : Member) (making : Making) : Making :=
  { making with made := making.made.setIfInBounds node (some member) }

/-- Note the members of a collection. -/
def complete (node : NodeId) (collection : Collection) (making : Making) : Making :=
  { making with collections := making.collections.setIfInBounds node (some collection) }

/-- The text of a scalar, or of the value that a mapping has as a whole. -/
def scalarText (graph : Graph) : (fuel : Nat) → NodeId → Except Problem CodeText
  | 0, _ => .error .endless
  | fuel + 1, node =>
    match graph.content node with
    | .scalar text => .ok text
    | .sequence _ => .error .malformed
    | .mapping entries =>
      match entries.find? fun (key, _) => graph.kind key = .defaultValue with
      | some (_, value) => scalarText graph fuel value
      | none => .error .malformed

/-- The atom that a node stands for whose kind is not that of a collection. -/
def atomOf (graph : Graph) (node : NodeId) : Except Problem Atom :=
  let kind := graph.kind node
  if kind = .unknown || kind = .merge || kind = .defaultValue then
    .error .malformed
  else
    match scalarText graph (graph.size + 1) node with
    | .error problem => .error problem
    | .ok text =>
      match kind, graph.content node with
      | .moment, .mapping _ => .error .mappedMoment
      | kind, _ => Atom.ofScalar node kind text

/-- Make what a node stands for, leaving the members of a collection for later. -/
def make (node : NodeId) (making : Making) : Made Member :=
  match (making.made[node]?).join with
  | some member => .ok (member, making)
  | none =>
    if (making.graph.kind node).isCollection then
      .ok (.collection node,
        { making.note node (.collection node) with pending := node :: making.pending })
    else
      (atomOf making.graph node).map fun content =>
        (.atom content, making.note node (.atom content))

/-- Make all items of a sequence. -/
def makeItems : List NodeId → Making → Made (List Member)
  | [], making => .ok ([], making)
  | node :: nodes, making =>
    match making.make node with
    | .error problem => .error problem
    | .ok (item, making) =>
      (makeItems nodes making).map fun (items, making) => (item :: items, making)

/-- Make pairs, each of which is written as a mapping with one entry. -/
def makePairs : List NodeId → Making → Made (List (Member × Member))
  | [], making => .ok ([], making)
  | node :: nodes, making =>
    match making.graph.content node with
    | .mapping [(key, value)] =>
      match making.make key with
      | .error problem => .error problem
      | .ok (key, making) =>
        match making.make value with
        | .error problem => .error problem
        | .ok (value, making) =>
          (makePairs nodes making).map fun (pairs, making) => ((key, value) :: pairs, making)
    | _ => .error .malformed

/-- Make the entries of a mapping; no collection can be a key. -/
def makeEntries : List (NodeId × NodeId) → Making → Made (List (Atom × Member))
  | [], making => .ok ([], making)
  | (key, value) :: entries, making =>
    match making.make key with
    | .error problem => .error problem
    | .ok (.collection _, _) => .error .malformed
    | .ok (.atom key, making) =>
      match making.make value with
      | .error problem => .error problem
      | .ok (value, making) =>
        (makeEntries entries making).map fun (entries, making) => ((key, value) :: entries, making)

/-- Make the different entries of a mapping, which is flattened first. -/
def makeMapping (node : NodeId) (making : Making) : Made (List (Atom × Member)) :=
  match making.graph.content node with
  | .mapping _ =>
    match making.graph.flatten? node with
    | none => .error .malformed
    | some graph =>
      (makeEntries (graph.entries node) { making with graph }).map
        fun (entries, making) => (Collection.storeAll entries, making)
  | _ => .error .malformed

/-- Make the members of a collection. -/
def makeCollection (node : NodeId) (making : Making) : Made Collection :=
  match making.graph.kind node with
  | .mapping => (making.makeMapping node).map fun (entries, making) => (.mapping entries, making)
  | .set =>
    (making.makeMapping node).map fun (entries, making) => (.set (entries.map Prod.fst), making)
  | kind =>
    match making.graph.content node with
    | .sequence items =>
      if kind = .sequence then
        (makeItems items making).map fun (items, making) => (.sequence items, making)
      else
        (makePairs items making).map fun (pairs, making) => (.pairs pairs, making)
    | _ => .error .malformed

/-- Make the members of several collections. -/
def makeCollections : List NodeId → Making → Except Problem Making
  | [], making => .ok making
  | node :: nodes, making =>
    match making.makeCollection node with
    | .error problem => .error problem
    | .ok (collection, making) =>
      makeCollections nodes (making.complete node collection)

/-- Make the members of all collections, level by level. -/
def makeLevels : (fuel : Nat) → Making → Except Problem Making
  | 0, making => .ok making
  | fuel + 1, making =>
    if making.pending.isEmpty then
      .ok making
    else
      match makeCollections making.pending.reverse { making with pending := [] } with
      | .error problem => .error problem
      | .ok making => makeLevels fuel making

end Making

/-! ## Documents -/

/-- The data of a text. -/
structure Document where
  root : Member
  /-- The collections, each in the place of its node. -/
  collections : Array (Option Collection)

namespace Document

/-- Make the data of a graph. -/
def ofGraph (graph : DocumentGraph) : Except Problem Document :=
  let making : Making := { graph := graph.graph }
  match making.make graph.root with
  | .error problem => .error problem
  | .ok (root, making) =>
    (making.makeLevels making.fuel).map fun making => { root, collections := making.collections }

/-- The data of a text. -/
def ofText (text : Text) : Except Problem Document :=
  match tokensOf text with
  | .error problem => .error problem
  | .ok tokens =>
    match DocumentGraph.ofTokens tokens with
    | .error problem => .error problem
    | .ok graph => ofGraph graph

/-- The members of a collection. -/
def collection? (document : Document) (node : NodeId) : Option Collection :=
  (document.collections[node]?).join

/-- A member, seen for some levels; below them collections look empty. -/
def view (document : Document) : (depth : Nat) → Member → Datum
  | _, .atom content => .atom content
  | 0, .collection node =>
    match document.collection? node with
    | some (.mapping _) => .mapping []
    | _ => .sequence []
  | depth + 1, .collection node =>
    match document.collection? node with
    | some (.sequence items) => .sequence (items.map (document.view depth))
    | some (.pairs items) =>
      .sequence (items.map fun (key, value) =>
        .sequence [document.view depth key, document.view depth value])
    | some (.mapping entries) =>
      .mapping (entries.map fun (key, value) => (.atom key, document.view depth value))
    | some (.set members) => .sequence (members.map .atom)
    | none => .sequence []

/-- The data of a document, seen for some levels. -/
def datum (document : Document) (depth : Nat) : Datum :=
  document.view depth document.root

end Document

end ProcedureAudit.Yaml
