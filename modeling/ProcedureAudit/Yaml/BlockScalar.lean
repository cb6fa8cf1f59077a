import ProcedureAudit.Yaml.Scalar

/-!
# Block scalars

A block scalar consists of whole lines with a common indentation.  Its line breaks are kept or
folded, and indicators say what becomes of those at the end.
-/

namespace ProcedureAudit.Yaml

namespace Cursor

/-- What becomes of the line breaks at the end of a block scalar. -/
inductive Chomping where
  | strip
  | clip
  | keep
deriving DecidableEq, Repr

/-- The chomping that a sign stands for. -/
def chomping? (character : Char) : Option Chomping :=
  if character = '+' then some .keep else if character = '-' then some .strip else none

/-- Read the indicators of a block scalar: chomping and an indentation, in any order. -/
def blockIndicators (cursor : Cursor) : Option (Chomping × Option Nat × Cursor) :=
  let sign? (cursor : Cursor) : Option Chomping := cursor.peek?.bind chomping?
  let digit? (cursor : Cursor) : Option Nat :=
    cursor.peek?.bind fun character =>
      if Text.isAsciiDigit character then some (character.toNat - 48) else none
  let (chomping, indentation, cursor) :=
    match sign? cursor, digit? cursor with
    | some chomping, _ =>
      match digit? cursor.advance with
      | some indentation => (chomping, some indentation, cursor.skip 2)
      | none => (chomping, none, cursor.advance)
    | none, some indentation =>
      match sign? cursor.advance with
      | some chomping => (chomping, some indentation, cursor.skip 2)
      | none => (.clip, some indentation, cursor.advance)
    | none, none => (.clip, none, cursor)
  if indentation = some 0 then
    none
  else if cursor.endsOr fun character => character = ' ' || isBreak character then
    some (chomping, indentation, cursor)
  else
    none

/-- The line breaks before the first line of a block scalar, and the deepest indentation of them. -/
def blockOpening : (fuel : Nat) → (deepest : Nat) → Cursor → Text × Nat × Cursor
  | 0, deepest, cursor => ([], deepest, cursor)
  | fuel + 1, deepest, cursor =>
    let cursor := cursor.passSpaces
    let deepest := max deepest cursor.column
    if cursor.sees isBreak then
      let (content, cursor) := cursor.passBreak
      let (breaks, deepest, cursor) := blockOpening fuel deepest cursor
      (content ++ breaks, deepest, cursor)
    else
      ([], deepest, cursor)

/-- The line breaks here, with the indentation of the lines passed. -/
def blockBreaks (indent : Nat) : (fuel : Nat) → Cursor → Text × Cursor
  | 0, cursor => ([], cursor)
  | fuel + 1, cursor =>
    let cursor := cursor.passIndent indent
    if cursor.sees isBreak then
      let (content, cursor) := cursor.passBreak
      let (breaks, cursor) := blockBreaks indent fuel cursor
      (content ++ breaks, cursor)
    else
      ([], cursor)

/-- Whether a line of a block scalar begins here. -/
def beginsBlockLine (indent : Nat) (cursor : Cursor) : Bool :=
  cursor.column = indent && !cursor.rest.isEmpty

/-- Whether the next character is a blank. -/
def seesBlank (cursor : Cursor) : Bool :=
  cursor.sees fun character => character = ' ' || character = '\t'

/--
The content of the break between two lines of a block scalar.  In a folded scalar a single break
becomes a space, unless one of the lines begins with a blank.
-/
def betweenBlockLines (folded blank nextBlank : Bool) (lineBreak breaks : Text) : Text :=
  if folded && lineBreak = ['\n'] && !blank && !nextBlank then
    if breaks.isEmpty then [' '] else []
  else
    lineBreak

/-- Read the lines of a block scalar, which begin with line breaks that belong to it. -/
def blockLines
    (folded : Bool)
    (chomping : Chomping)
    (indent : Nat) :
    (fuel : Nat) → (breaks : Text) → Cursor → Text × Cursor
  | 0, _, cursor => ([], cursor)
  | fuel + 1, breaks, cursor =>
    let line := cursor.run (!isBreak ·)
    let (lineBreak, after) := cursor.passLine.passBreak
    let (next, after) := blockBreaks indent after.fuel after
    if beginsBlockLine indent after then
      let between := betweenBlockLines folded cursor.seesBlank after.seesBlank lineBreak next
      let (content, after) := blockLines folded chomping indent fuel next after
      (breaks ++ line ++ between ++ content, after)
    else
      let tail :=
        match chomping with
        | .strip => []
        | .clip => lineBreak
        | .keep => lineBreak ++ next
      (breaks ++ line ++ tail, after)

/-- Read a block scalar; `depth` columns belong to the blocks around it. -/
def blockScalar (folded : Bool) (depth : Nat) (cursor : Cursor) : Option (Text × Cursor) :=
  match blockIndicators cursor.advance with
  | none => none
  | some (chomping, indentation, cursor) =>
    match cursor.passIgnoredLine with
    | none => none
    | some cursor =>
      let least := max depth 1
      let (indent, breaks, cursor) :=
        match indentation with
        | some indentation =>
          let indent := least + indentation - 1
          let (breaks, cursor) := blockBreaks indent cursor.fuel cursor
          (indent, breaks, cursor)
        | none =>
          let (breaks, deepest, cursor) := blockOpening cursor.fuel 0 cursor
          (max least deepest, breaks, cursor)
      if beginsBlockLine indent cursor then
        some (blockLines folded chomping indent cursor.fuel breaks cursor)
      else
        some (if chomping = .keep then breaks else [], cursor)

end Cursor

end ProcedureAudit.Yaml
