import ProcedureAudit.Yaml.Scalar

/-!
# Plain scalars

A plain scalar consists of words with gaps between them.  It ends before a comment, before a colon
that is followed by a blank, and, outside flow collections, before a line that is not indented
enough.
-/

namespace ProcedureAudit.Yaml

namespace Cursor

/-- The characters that structure a flow collection. -/
def isFlowMark (character : Char) : Bool :=
  character = ',' || character = '[' || character = ']' || character = '\x7B' ||
    character = '\x7D'

/-- Whether a word of a plain scalar ends before a character; `rest` follows that character. -/
def endsWord (flow : Bool) (character : Char) (rest : Text) : Bool :=
  isSeparator character ||
    (character = ':' &&
      rest.head?.all fun next => isSeparator next || (flow && isFlowMark next)) ||
    (flow && (isFlowMark character || character = '?'))

/-- The word of a plain scalar at the beginning of a text. -/
def plainWord (flow : Bool) : Text → Text
  | [] => []
  | character :: rest =>
    if endsWord flow character rest then [] else character :: plainWord flow rest

/-- What stands between two words of a plain scalar. -/
structure PlainGap where
  content : Text
  /-- Whether a line break is part of it. -/
  broken : Bool
  after : Cursor

/-- The content of further line breaks and the spaces after them; nothing at a document marker. -/
def plainBreaks : (fuel : Nat) → Cursor → Option Text × Cursor
  | 0, cursor => (none, cursor)
  | fuel + 1, cursor =>
    let cursor := cursor.passSpaces
    if cursor.sees isBreak then
      let (content, cursor) := cursor.passBreak
      if cursor.seesDocumentMarker then
        (none, cursor)
      else
        let (breaks, cursor) := plainBreaks fuel cursor
        (breaks.map (content ++ ·), cursor)
    else
      (some [], cursor)

/-- Read what stands between two words of a plain scalar. -/
def plainGap (cursor : Cursor) : PlainGap :=
  let blanks := cursor.run (· = ' ')
  let cursor := cursor.passSpaces
  if cursor.sees isBreak then
    let (lineBreak, cursor) := cursor.passBreak
    if cursor.seesDocumentMarker then
      { content := [], broken := true, after := cursor }
    else
      match plainBreaks cursor.fuel cursor with
      | (none, cursor) => { content := [], broken := true, after := cursor }
      | (some breaks, cursor) =>
        { content := foldedBreaks lineBreak breaks, broken := true, after := cursor }
  else
    { content := blanks, broken := false, after := cursor }

/-- A plain scalar: its text, whether it ends after a line break, and the cursor after it. -/
structure PlainScalar where
  content : Text
  broken : Bool
  after : Cursor

/--
Read the rest of a plain scalar after the text so far and the gap after that.  Outside flow
collections its lines must be indented by `indent` columns.
-/
def plainFrom
    (flow : Bool)
    (indent : Nat) :
    (fuel : Nat) → (content gap : Text) → (broken : Bool) → Cursor → PlainScalar
  | 0, content, _, broken, cursor => { content, broken, after := cursor }
  | fuel + 1, content, gap, broken, cursor =>
    let word := plainWord flow cursor.rest
    if cursor.sees (· = '#') || word.isEmpty then
      { content, broken, after := cursor }
    else
      let content := content ++ gap ++ word
      let next := plainGap (cursor.skip word.length)
      if next.content.isEmpty || next.after.sees (· = '#') ||
          (!flow && next.after.column < indent) then
        { content, broken := next.broken, after := next.after }
      else
        plainFrom flow indent fuel content next.content next.broken next.after

/-- Read a plain scalar. -/
def plainScalar (flow : Bool) (indent : Nat) (cursor : Cursor) : PlainScalar :=
  plainFrom flow indent cursor.fuel [] [] false cursor

end Cursor

end ProcedureAudit.Yaml
