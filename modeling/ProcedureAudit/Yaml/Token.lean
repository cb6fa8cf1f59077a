import ProcedureAudit.Yaml.BlockScalar
import ProcedureAudit.Yaml.PlainScalar
import ProcedureAudit.Yaml.QuotedScalar
import ProcedureAudit.Yaml.Tag

/-!
# Tokens of YAML

A text becomes a list of tokens in which the structure given by indentation is explicit: tokens
mark where block collections begin and end.  The one difficulty is that a key shows itself only by
the colon after it.  Every lexeme that could be a key is therefore remembered by its place, one for
each flow collection that is open and one for the blocks, and tokens are put in front of it when
the colon comes.
-/

namespace ProcedureAudit.Yaml

/-- A token. -/
inductive Token where
  | directive (directive : Directive)
  | documentStart
  | documentEnd
  | blockSequenceStart
  | blockMappingStart
  | blockEnd
  | flowSequenceStart
  | flowSequenceEnd
  | flowMappingStart
  | flowMappingEnd
  | blockEntry
  | flowEntry
  | key
  | value
  | alias (name : Text)
  | anchor (name : Text)
  | tag (name : TagName)
  | scalar (plain : Bool) (text : CodeText)
  /-- The place from which on no token can be read, although nothing is malformed. -/
  | fault (problem : Problem)
deriving DecidableEq, Repr

/-- A lexeme that could be a key. -/
structure KeyPlace where
  /-- How many tokens stand before it. -/
  tokensBefore : Nat
  /-- Whether it stands where only a key can stand. -/
  required : Bool
  index : Nat
  line : Nat
  column : Nat
deriving DecidableEq, Repr

/-- How far a colon may be away from the beginning of its key. -/
def keyLengthLimit : Nat :=
  1024

/-- The state of reading tokens. -/
structure Layout where
  cursor : Cursor
  /-- The tokens so far, the latest one first. -/
  tokens : List Token := []
  /-- How many flow collections are open. -/
  flowLevel : Nat := 0
  /-- The possible key of each level, that of the innermost flow collection first. -/
  keys : List (Option KeyPlace) := [none]
  /-- One more than the column of the innermost block, or zero outside all blocks. -/
  depth : Nat := 0
  /-- The depths of the blocks around it. -/
  outerDepths : List Nat := []
  keyAllowed : Bool := true

namespace Layout

/-- Whether a flow collection is open. -/
def inFlow (layout : Layout) : Bool :=
  0 < layout.flowLevel

/-- Add a token. -/
def push (token : Token) (layout : Layout) : Layout :=
  { layout with tokens := token :: layout.tokens }

/-- Pass characters. -/
def passing (count : Nat) (layout : Layout) : Layout :=
  { layout with cursor := layout.cursor.skip count }

/-- Say whether a key may follow. -/
def allowKey (allowed : Bool) (layout : Layout) : Layout :=
  { layout with keyAllowed := allowed }

/-- Close the blocks that are deeper than a column. -/
def closeBlocks (layout : Layout) (limit : Nat) : Layout :=
  if layout.inFlow then
    layout
  else
    let rec close (tokens : List Token) (depth : Nat) : List Nat → List Token × Nat × List Nat
      | [] =>
        if limit < depth then (.blockEnd :: tokens, 0, []) else (tokens, depth, [])
      | outer :: depths =>
        if limit < depth then
          close (.blockEnd :: tokens) outer depths
        else
          (tokens, depth, outer :: depths)
    let (tokens, depth, outerDepths) := close layout.tokens layout.depth layout.outerDepths
    { layout with tokens, depth, outerDepths }

/-- Whether a block at a column would be a new one. -/
def isDeeper (layout : Layout) (column : Nat) : Bool :=
  layout.depth ≤ column

/-- Open a block at a column. -/
def openBlock (column : Nat) (layout : Layout) : Layout :=
  { layout with depth := column + 1, outerDepths := layout.depth :: layout.outerDepths }

/-- Open a block at the cursor, unless it is open already. -/
def enterBlock (start : Token) (layout : Layout) : Layout :=
  if layout.isDeeper layout.cursor.column then
    (layout.openBlock layout.cursor.column).push start
  else
    layout

/-! ## Possible keys -/

/-- The possible key of the innermost level. -/
def possibleKey (layout : Layout) : Option KeyPlace :=
  layout.keys.head?.join

/-- Replace the possible key of the innermost level. -/
def setPossibleKey (place : Option KeyPlace) (layout : Layout) : Layout :=
  { layout with keys := place :: layout.keys.tail }

/-- Give up the possible key of the innermost level, which must not be required. -/
def dropKey (layout : Layout) : Except Problem Layout :=
  if layout.possibleKey.any KeyPlace.required then
    .error .malformed
  else
    .ok (layout.setPossibleKey none)

/-- Remember the cursor as the place of a possible key, if a key may stand there. -/
def saveKey (layout : Layout) : Except Problem Layout :=
  if layout.keyAllowed then
    match layout.dropKey with
    | .error problem => .error problem
    | .ok layout =>
      .ok (layout.setPossibleKey (some
        { tokensBefore := layout.tokens.length
          required := !layout.inFlow && layout.depth = layout.cursor.column + 1
          index := layout.cursor.index
          line := layout.cursor.line
          column := layout.cursor.column }))
  else
    .ok layout

/-- Whether a colon at the cursor would come too late for a key. -/
def isStale (cursor : Cursor) (place : KeyPlace) : Bool :=
  place.line ≠ cursor.line || keyLengthLimit < cursor.index - place.index

/-- Give up the possible keys for which a colon would come too late. -/
def dropStaleKeys (layout : Layout) : Except Problem Layout :=
  if layout.keys.any fun place =>
      place.any fun place => isStale layout.cursor place && place.required then
    .error .malformed
  else
    .ok { layout with
      keys := layout.keys.map fun place => place.filter fun place => !isStale layout.cursor place }

/-! ## Reading tokens -/

/-- Pass blanks, comments and line breaks up to the next token. -/
def passGap : (fuel : Nat) → Layout → Layout
  | 0, layout => layout
  | fuel + 1, layout =>
    let cursor := layout.cursor.passSpaces.passComment
    if cursor.sees isBreak then
      passGap fuel
        { layout with
          cursor := cursor.advance
          keyAllowed := layout.keyAllowed || !layout.inFlow }
    else
      { layout with cursor }

/-- Pass a byte order mark at the beginning of the text. -/
def passByteOrderMark (layout : Layout) : Layout :=
  if layout.cursor.index = 0 && layout.cursor.sees (· = byteOrderMark) then
    layout.passing 1
  else
    layout

/-- Leave all blocks and give up the possible key, as documents and directives ask for. -/
def leaveBlocks (layout : Layout) : Except Problem Layout :=
  (layout.closeBlocks 0).dropKey.map (allowKey false)

/-- Begin a flow collection. -/
def openFlow (start : Token) (layout : Layout) : Except Problem Layout :=
  layout.saveKey.map fun layout =>
    { (layout.push start).passing 1 with
      flowLevel := layout.flowLevel + 1
      keys := none :: layout.keys
      keyAllowed := true }

/-- End a flow collection. -/
def closeFlow (stop : Token) (layout : Layout) : Except Problem Layout :=
  if layout.inFlow then
    layout.dropKey.map fun layout =>
      { (layout.push stop).passing 1 with
        flowLevel := layout.flowLevel - 1
        keys := layout.keys.tail
        keyAllowed := false }
  else
    .error .malformed

/-- Read the comma of a flow collection. -/
def flowEntry (layout : Layout) : Except Problem Layout :=
  layout.dropKey.map fun layout => ((layout.push .flowEntry).passing 1).allowKey true

/-- Read the dash of a block sequence. -/
def blockEntry (layout : Layout) : Except Problem Layout :=
  if layout.inFlow || !layout.keyAllowed then
    .error .malformed
  else
    (layout.enterBlock .blockSequenceStart).dropKey.map fun layout =>
      ((layout.push .blockEntry).passing 1).allowKey true

/-- Read a question mark before a key. -/
def explicitKey (layout : Layout) : Except Problem Layout :=
  if layout.inFlow then
    layout.dropKey.map fun layout => ((layout.push .key).passing 1).allowKey false
  else if layout.keyAllowed then
    (layout.enterBlock .blockMappingStart).dropKey.map fun layout =>
      ((layout.push .key).passing 1).allowKey true
  else
    .error .malformed

/-- Put a token in front of a possible key. -/
def insertBefore (place : KeyPlace) (token : Token) (layout : Layout) : Layout :=
  { layout with
    tokens := layout.tokens.insertIdx (layout.tokens.length - place.tokensBefore) token }

/-- Read the colon after a key. -/
def value (layout : Layout) : Except Problem Layout :=
  match layout.possibleKey with
  | some place =>
    let layout := (layout.setPossibleKey none).insertBefore place .key
    let layout :=
      if !layout.inFlow && layout.isDeeper place.column then
        (layout.openBlock place.column).insertBefore place .blockMappingStart
      else
        layout
    .ok (((layout.push .value).passing 1).allowKey false)
  | none =>
    if layout.inFlow then
      layout.dropKey.map fun layout => ((layout.push .value).passing 1).allowKey false
    else if layout.keyAllowed then
      (layout.enterBlock .blockMappingStart).dropKey.map fun layout =>
        ((layout.push .value).passing 1).allowKey true
    else
      .error .malformed

/-- Read a lexeme that could be a key. -/
def lexeme
    (read : Cursor → Except Problem (Token × Cursor))
    (layout : Layout) :
    Except Problem Layout :=
  match layout.saveKey with
  | .error problem => .error problem
  | .ok layout =>
    (read layout.cursor).map fun (token, cursor) =>
      { layout.push token with cursor, keyAllowed := false }

/-- Read a plain scalar. -/
def plainScalar (layout : Layout) : Except Problem Layout :=
  layout.saveKey.map fun layout =>
    let scalar := layout.cursor.plainScalar layout.inFlow layout.depth
    { layout.push (.scalar true (CodeText.ofText scalar.content)) with
      cursor := scalar.after
      keyAllowed := scalar.broken }

/-- Read a block scalar. -/
def blockScalar (folded : Bool) (layout : Layout) : Except Problem Layout :=
  match layout.dropKey with
  | .error problem => .error problem
  | .ok layout =>
    (Cursor.orMalformed (layout.cursor.blockScalar folded layout.depth)).map
      fun (content, cursor) =>
      { layout.push (.scalar false (CodeText.ofText content)) with cursor, keyAllowed := true }

/-- Whether what follows the next character ends a lexeme. -/
def standsAlone (cursor : Cursor) : Bool :=
  cursor.advance.endsOr isSeparator

/-- The characters with which no plain scalar begins, unless they are part of a word. -/
def isIndicator (character : Char) : Bool :=
  character ∈
    [ '-', '?', ':', ',', '[', ']', '\x7B', '\x7D', '#', '&', '*', '!', '|', '>', '\x27', '\x22',
      '%', '@', '\x60' ]

/-- Whether a plain scalar begins with a character. -/
def beginsPlain (layout : Layout) (character : Char) : Bool :=
  !(isSeparator character || isIndicator character) ||
    (!standsAlone layout.cursor &&
      (character = '-' || (!layout.inFlow && (character = '?' || character = ':'))))

/-- Read the token that begins with a character, which is the next one. -/
def readToken (layout : Layout) (character : Char) : Except Problem Layout :=
  let cursor := layout.cursor
  if character = '%' && cursor.column = 0 then
    match layout.leaveBlocks with
    | .error problem => .error problem
    | .ok layout =>
      cursor.directive.map fun (directive, cursor) =>
        { layout.push (.directive directive) with cursor }
  else if cursor.column = 0 && cursor.seesMarker '-' then
    layout.leaveBlocks.map fun layout => (layout.push .documentStart).passing 3
  else if cursor.column = 0 && cursor.seesMarker '.' then
    layout.leaveBlocks.map fun layout => (layout.push .documentEnd).passing 3
  else if character = '[' then
    layout.openFlow .flowSequenceStart
  else if character = '\x7B' then
    layout.openFlow .flowMappingStart
  else if character = ']' then
    layout.closeFlow .flowSequenceEnd
  else if character = '\x7D' then
    layout.closeFlow .flowMappingEnd
  else if character = ',' then
    layout.flowEntry
  else if character = '-' && standsAlone cursor then
    layout.blockEntry
  else if character = '?' && (layout.inFlow || standsAlone cursor) then
    layout.explicitKey
  else if character = ':' && (layout.inFlow || standsAlone cursor) then
    layout.value
  else if character = '*' then
    layout.lexeme fun cursor =>
      (Cursor.orMalformed cursor.anchorName).map fun (name, after) => (.alias name, after)
  else if character = '&' then
    layout.lexeme fun cursor =>
      (Cursor.orMalformed cursor.anchorName).map fun (name, after) => (.anchor name, after)
  else if character = '!' then
    layout.lexeme fun cursor =>
      (Cursor.orMalformed cursor.tag).map fun (name, after) => (.tag name, after)
  else if (character = '|' || character = '>') && !layout.inFlow then
    layout.blockScalar (character = '>')
  else if character = '\x27' || character = '\x22' then
    layout.lexeme fun cursor =>
      (cursor.quotedScalar (character = '\x22')).map fun (text, after) =>
        (.scalar false text, after)
  else if layout.beginsPlain character then
    layout.plainScalar
  else
    .error .malformed

/-- How many tokens are settled: nothing can be put in front of them by what follows the cursor. -/
def settled (layout : Layout) : Nat :=
  layout.keys.foldl
    (fun count place =>
      match place with
      | some place =>
        if isStale layout.cursor place then count else min count place.tokensBefore
      | none => count)
    layout.tokens.length

/--
All tokens up to a problem, in order.  A text whose reader meets the problem has been read as far
as its settled tokens go; a malformed text has no tokens.
-/
def stopAt (layout : Layout) : Problem → Except Problem (List Token)
  | .malformed => .error .malformed
  | problem => .ok (layout.tokens.reverse.take layout.settled ++ [.fault problem])

/-- Read all tokens up to the end of the text. -/
def readTokens : (fuel : Nat) → Layout → Except Problem (List Token)
  | 0, _ => .error .malformed
  | fuel + 1, before =>
    let layout := passGap before.cursor.fuel before.passByteOrderMark
    match layout.dropStaleKeys with
    | .error problem => .error problem
    | .ok layout =>
      let layout := layout.closeBlocks (layout.cursor.column + 1)
      match layout.cursor.peek? with
      | none => layout.leaveBlocks.map fun layout => layout.tokens.reverse
      | some character =>
        match readToken layout character with
        | .error problem => before.stopAt problem
        | .ok layout => readTokens fuel layout

end Layout

/-- The tokens of a text. -/
def tokensOf (text : Text) : Except Problem (List Token) :=
  if text.all isAllowed then
    let cursor : Cursor := { rest := text }
    Layout.readTokens (cursor.fuel + 1) { cursor }
  else
    .error .malformed

end ProcedureAudit.Yaml
