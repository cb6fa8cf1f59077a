import ProcedureAudit.Yaml.Graph
import ProcedureAudit.Yaml.Token

/-!
# Reading nodes

The tokens of a text make up one document, whose nodes are read into a graph.  A collection has
its number before its members are read, so that an alias inside it can refer to it.

The readers take fuel, of which they use less than six units for every token.
-/

namespace ProcedureAudit.Yaml

/-- What is left to read, what has been read, and the nodes that have names so far. -/
structure Reading where
  tokens : List Token
  graph : Graph := #[]
  anchors : List (Text × NodeId) := []

namespace Reading

/-- Give a name to a node. -/
def define (name : Option Text) (node : NodeId) (reading : Reading) : Reading :=
  match name with
  | some name => { reading with anchors := (name, node) :: reading.anchors }
  | none => reading

/-- Whether a name is taken. -/
def knows (reading : Reading) (name : Text) : Bool :=
  reading.anchors.any fun (other, _) => other = name

/-- Pass the first token. -/
def advance (reading : Reading) : Reading :=
  { reading with tokens := reading.tokens.tail }

/-- Whether the next token is one of several. -/
def sees (reading : Reading) (tokens : List Token) : Bool :=
  reading.tokens.head?.any (· ∈ tokens)

/-- Add a node. -/
def add (node : Node) (reading : Reading) : NodeId × Reading :=
  (reading.graph.size, { reading with graph := reading.graph.push node })

/-- Add the node that stands where nothing is written. -/
def addAbsent (reading : Reading) : NodeId × Reading :=
  reading.add .absent

/-- Say what a node contains. -/
def fill (node : NodeId) (content : Content) (reading : Reading) : Reading :=
  { reading with graph := reading.graph.setContent node content }

/-- The problem of a text that does not go on as it should. -/
def refuse {α : Type} (reading : Reading) : Except Problem α :=
  match reading.tokens with
  | .fault problem :: _ => .error problem
  | _ => .error .malformed

end Reading

/-- What handles abbreviate. -/
abbrev Handles := List (Text × Text)

/-- The handles that need no declaration. -/
def standardHandles : Handles :=
  [("!".toList, "!".toList), ("!!".toList, Kind.standardNamespace.toList)]

/-- What is written in front of the content of a node. -/
structure Properties where
  anchor : Option Text := none
  tag : Option Text := none

/-- The tag that a name stands for. -/
def TagName.expand? (handles : Handles) (name : TagName) : Option Text :=
  match name.handle with
  | none => some name.suffix
  | some handle => (handles.lookup handle).map (· ++ name.suffix)

/-- Read a tag, whose handle must have been declared. -/
def readTag (handles : Handles) (name : TagName) (reading : Reading) :
    Except Problem (Text × Reading) :=
  match name.expand? handles with
  | some tag => .ok (tag, reading)
  | none => .error .malformed

/-- Go on, unless no further token can be read. -/
def Reading.unlessFault (reading : Reading) : Except Problem Reading :=
  match reading.tokens with
  | .fault problem :: _ => .error problem
  | _ => .ok reading

/--
Read an anchor and a tag, in any order.  After the first of them the next token is looked at
before the handle of the tag, and after both of them it is not.
-/
def readProperties (handles : Handles) (reading : Reading) :
    Except Problem (Properties × Reading) :=
  let tagged (anchor : Option Text) (name : TagName) (reading : Reading) :
      Except Problem (Properties × Reading) :=
    (readTag handles name reading).map fun (tag, reading) => ({ anchor, tag := some tag }, reading)
  match reading.tokens with
  | .anchor anchor :: .tag name :: rest =>
    tagged (some anchor) name { reading with tokens := rest }
  | .tag name :: .anchor anchor :: rest =>
    tagged (some anchor) name { reading with tokens := rest }
  | .anchor anchor :: rest => .ok ({ anchor := some anchor }, { reading with tokens := rest })
  | .tag name :: rest =>
    match Reading.unlessFault { reading with tokens := rest } with
    | .error problem => .error problem
    | .ok reading => tagged none name reading
  | _ => .ok ({}, reading)

/-- The tag that leaves the kind to the form of the content. -/
def plainTag : Text :=
  ['!']

/-- The kind of a scalar with a tag. -/
def scalarKind (tag : Option Text) (plain : Bool) (text : CodeText) : Kind :=
  match tag with
  | none => if plain then Kind.ofPlain text else .text
  | some tag => if tag = plainTag then Kind.ofPlain text else Kind.ofTag tag

/-- The kind of a collection with a tag. -/
def collectionKind (tag : Option Text) (usual : Kind) : Kind :=
  match tag with
  | none => usual
  | some tag => if tag = plainTag then usual else Kind.ofTag tag

/-- What a reader of something yields: that, and what is left to read. -/
abbrev Read (α : Type) := Except Problem (α × Reading)

namespace Read

/-- Go on with what has been read. -/
def andThen {α β : Type} (read : Read α) (next : α → Reading → Read β) : Read β :=
  match read with
  | .ok (result, after) => next result after
  | .error problem => .error problem

/-- Change what has been read. -/
def mapResult {α β : Type} (change : α → β) (read : Read α) : Read β :=
  read.andThen fun result after => .ok (change result, after)

end Read

/-- Read a node that consists of properties only. -/
def readAbsent (properties : Properties) (reading : Reading) : Read NodeId :=
  if properties.anchor.isSome || properties.tag.isSome then
    let (node, after) :=
      reading.add { kind := scalarKind properties.tag true [], content := .scalar [] }
    .ok (node, after.define properties.anchor node)
  else
    reading.refuse

mutual

/--
Read a node.  `block` says whether a block collection may begin here, and `indentless` whether a
block sequence may that is not indented.
-/
def readNode (handles : Handles) :
    (fuel : Nat) → (block indentless : Bool) → Reading → Read NodeId
  | 0, _, _, _ => .error .malformed
  | fuel + 1, block, indentless, reading =>
    match reading.tokens with
    | .alias name :: _ =>
      match reading.anchors.lookup name with
      | some node => .ok (node, reading.advance)
      | none => .error .malformed
    | _ =>
      Read.andThen (readProperties handles reading) fun properties reading =>
        match reading.unlessFault with
        | .error problem => .error problem
        | .ok reading =>
          if properties.anchor.any reading.knows then
            .error .malformed
          else
            readContent handles fuel block indentless properties reading

/-- Read the content of a node with given properties. -/
def readContent (handles : Handles) :
    (fuel : Nat) → (block indentless : Bool) → Properties → Reading → Read NodeId
  | 0, _, _, _, _ => .error .malformed
  | fuel + 1, block, indentless, properties, reading =>
    let collection
        (usual : Kind) (empty : Content) (read : Reading → Read Content) (reading : Reading) :
        Read NodeId :=
      let (node, inside) :=
        reading.add { kind := collectionKind properties.tag usual, content := empty }
      (read (inside.define properties.anchor node)).andThen fun content after =>
        .ok (node, after.fill node content)
    let sequence (read : Reading → Read (List NodeId)) : Reading → Read NodeId :=
      collection .sequence (.sequence []) fun reading => (read reading).mapResult .sequence
    let mapping (read : Reading → Read (List (NodeId × NodeId))) : Reading → Read NodeId :=
      collection .mapping (.mapping []) fun reading => (read reading).mapResult .mapping
    match reading.tokens with
    | .scalar plain text :: _ =>
      let (node, after) :=
        reading.advance.add
          { kind := scalarKind properties.tag plain text, content := .scalar text }
      .ok (node, after.define properties.anchor node)
    | .flowSequenceStart :: _ =>
      sequence (readFlowItems handles fuel true) reading.advance
    | .flowMappingStart :: _ =>
      mapping (readFlowEntries handles fuel true) reading.advance
    | token :: _ =>
      if token = .blockEntry && indentless then
        sequence (readBlockItems handles fuel true) reading
      else if token = .blockSequenceStart && block then
        sequence (readBlockItems handles fuel false) reading.advance
      else if token = .blockMappingStart && block then
        mapping (readBlockEntries handles fuel) reading.advance
      else
        readAbsent properties reading
    | [] => readAbsent properties reading

/-- Read a node, unless one of the given tokens shows that none is written. -/
def readOptional (handles : Handles) :
    (fuel : Nat) → (block indentless : Bool) → (stops : List Token) → Reading → Read NodeId
  | 0, _, _, _, _ => .error .malformed
  | fuel + 1, block, indentless, stops, reading =>
    if reading.sees stops then
      .ok reading.addAbsent
    else
      readNode handles fuel block indentless reading

/-- Read the items of a block sequence, with or without an end of its own. -/
def readBlockItems (handles : Handles) :
    (fuel : Nat) → (indentless : Bool) → Reading → Read (List NodeId)
  | 0, _, _ => .error .malformed
  | fuel + 1, indentless, reading =>
    if reading.sees [.blockEntry] then
      let stops : List Token :=
        if indentless then [.blockEntry, .key, .value, .blockEnd] else [.blockEntry, .blockEnd]
      (readOptional handles fuel true false stops reading.advance).andThen fun item after =>
        (readBlockItems handles fuel indentless after).mapResult (item :: ·)
    else if indentless then
      .ok ([], reading)
    else if reading.sees [.blockEnd] then
      .ok ([], reading.advance)
    else
      reading.refuse

/-- Read the entries of a block mapping up to its end. -/
def readBlockEntries (handles : Handles) :
    (fuel : Nat) → Reading → Read (List (NodeId × NodeId))
  | 0, _ => .error .malformed
  | fuel + 1, reading =>
    if reading.sees [.key] then
      (readOptional handles fuel true true [.key, .value, .blockEnd] reading.advance).andThen
        fun key after =>
          (readValue handles fuel true [.key, .value, .blockEnd] after).andThen
            fun value after =>
              (readBlockEntries handles fuel after).mapResult ((key, value) :: ·)
    else if reading.sees [.blockEnd] then
      .ok ([], reading.advance)
    else
      reading.refuse

/-- Read the value of an entry, which may be missing altogether. -/
def readValue (handles : Handles) :
    (fuel : Nat) → (block : Bool) → (stops : List Token) → Reading → Read NodeId
  | 0, _, _, _ => .error .malformed
  | fuel + 1, block, stops, reading =>
    if reading.sees [.value] then
      readOptional handles fuel block block stops reading.advance
    else
      .ok reading.addAbsent

/-- Read the items of a flow sequence up to its end; an item may be a single entry. -/
def readFlowItems (handles : Handles) :
    (fuel : Nat) → (first : Bool) → Reading → Read (List NodeId)
  | 0, _, _ => .error .malformed
  | fuel + 1, first, reading =>
    if reading.sees [.flowSequenceEnd] then
      .ok ([], reading.advance)
    else if !first && !reading.sees [.flowEntry] then
      reading.refuse
    else
      let reading := if first then reading else reading.advance
      if reading.sees [.flowSequenceEnd] then
        .ok ([], reading.advance)
      else
        (readFlowItem handles fuel reading).andThen fun item after =>
          (readFlowItems handles fuel false after).mapResult (item :: ·)

/-- Read one item of a flow sequence; a single entry is a mapping of its own. -/
def readFlowItem (handles : Handles) :
    (fuel : Nat) → Reading → Read NodeId
  | 0, _ => .error .malformed
  | fuel + 1, reading =>
    if reading.sees [.key] then
      let (node, inside) := reading.advance.add { kind := .mapping, content := .mapping [] }
      (readOptional handles fuel false false [.value, .flowEntry, .flowSequenceEnd]
          inside).andThen fun key after =>
        (readValue handles fuel false [.flowEntry, .flowSequenceEnd] after).andThen
          fun value after => .ok (node, after.fill node (.mapping [(key, value)]))
    else
      readNode handles fuel false false reading

/-- Read the entries of a flow mapping up to its end. -/
def readFlowEntries (handles : Handles) :
    (fuel : Nat) → (first : Bool) → Reading → Read (List (NodeId × NodeId))
  | 0, _, _ => .error .malformed
  | fuel + 1, first, reading =>
    if reading.sees [.flowMappingEnd] then
      .ok ([], reading.advance)
    else if !first && !reading.sees [.flowEntry] then
      reading.refuse
    else
      let reading := if first then reading else reading.advance
      if reading.sees [.flowMappingEnd] then
        .ok ([], reading.advance)
      else
        (readFlowEntry handles fuel reading).andThen fun entry after =>
          (readFlowEntries handles fuel false after).mapResult (entry :: ·)

/-- Read one entry of a flow mapping; what is not marked as a key has no value. -/
def readFlowEntry (handles : Handles) :
    (fuel : Nat) → Reading → Read (NodeId × NodeId)
  | 0, _ => .error .malformed
  | fuel + 1, reading =>
    if reading.sees [.key] then
      (readOptional handles fuel false false [.value, .flowEntry, .flowMappingEnd]
          reading.advance).andThen fun key after =>
        (readValue handles fuel false [.flowEntry, .flowMappingEnd] after).mapResult
          fun value => (key, value)
    else
      (readNode handles fuel false false reading).andThen fun key after =>
        let (value, after) := after.addAbsent
        .ok ((key, value), after)

end

/-! ## Documents -/

/-- What the directives of a document declare. -/
structure Prologue where
  versioned : Bool := false
  handles : Handles := []

/-- Take a directive into account: one version, and each handle once. -/
def Prologue.add? (prologue : Prologue) : Directive → Option Prologue
  | .version major =>
    if prologue.versioned || major ≠ 1 then none else some { prologue with versioned := true }
  | .tag handle suffix =>
    if (prologue.handles.lookup handle).isSome then
      none
    else
      some { prologue with handles := (handle, suffix) :: prologue.handles }
  | .other => some prologue

/-- Read the directives of a document and the mark of its beginning. -/
def readPrologue (prologue : Prologue) : List Token → Except Problem (Handles × List Token)
  | .directive directive :: rest =>
    match prologue.add? directive with
    | some prologue => readPrologue prologue rest
    | none => .error .malformed
  | .documentStart :: rest => .ok (prologue.handles ++ standardHandles, rest)
  | .fault problem :: _ => .error problem
  | _ => .error .malformed

/-- Whether a token belongs to the frame of documents. -/
def framesDocument : Token → Bool
  | .directive _ => true
  | .documentStart => true
  | .documentEnd => true
  | _ => false

/-- The nodes of a document, and the number of the one that holds the others. -/
structure DocumentGraph where
  graph : Graph
  root : NodeId

/-- Read the node of a document, after which no other document may begin. -/
def readDocument (handles : Handles) (tokens : List Token) : Except Problem DocumentGraph :=
  let reading : Reading := { tokens }
  let read : Read NodeId :=
    if tokens.head?.all framesDocument then
      .ok reading.addAbsent
    else
      readNode handles (6 * tokens.length + 8) true false reading
  match read with
  | .error problem => .error problem
  | .ok (root, after) =>
    match after.tokens.dropWhile (· = .documentEnd) with
    | [] => .ok { graph := after.graph, root }
    | rest =>
      match readPrologue {} rest with
      | .ok _ => .error .malformed
      | .error problem => .error problem

/-- The nodes of a document in tokens; where no document is, there is the absent node. -/
def DocumentGraph.ofTokens (tokens : List Token) : Except Problem DocumentGraph :=
  match tokens with
  | [] => .ok { graph := #[.absent], root := 0 }
  | token :: _ =>
    if token = .documentEnd then
      .error .malformed
    else if framesDocument token then
      match readPrologue {} tokens with
      | .ok (handles, rest) => readDocument handles rest
      | .error problem => .error problem
    else
      readDocument standardHandles tokens

end ProcedureAudit.Yaml
