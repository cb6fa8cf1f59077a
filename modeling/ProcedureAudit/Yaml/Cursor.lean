import ProcedureAudit.Text.LetterCase

/-!
# Places in a YAML text

A cursor is the rest of a text together with the place where it begins.  The byte order mark has
no width, wherever it stands.
-/

namespace ProcedureAudit.Yaml

/-- Whether a character may occur in a YAML text. -/
def isAllowed (character : Char) : Bool :=
  let code := character.toNat
  code == 0x09 || code == 0x0A || code == 0x0D || (0x20 ≤ code && code ≤ 0x7E) || code == 0x85 ||
    (0xA0 ≤ code && code ≤ 0xFFFD) || 0x10000 ≤ code

/-- The mark that may stand at the beginning of a text. -/
def byteOrderMark : Char :=
  '\uFEFF'

/-- Whether a character breaks a line. -/
def isBreak (character : Char) : Bool :=
  character = '\n' || character = '\r' || character = '\u0085' || character = '\u2028' ||
    character = '\u2029'

/-- Whether a character separates lexemes. -/
def isSeparator (character : Char) : Bool :=
  character = ' ' || character = '\t' || isBreak character

/-- What a line break contributes to the content of a scalar. -/
def breakContent (character : Char) : Char :=
  if character = '\u2028' || character = '\u2029' then character else '\n'

/-- A place in a text, with what follows it. -/
structure Cursor where
  rest : Text
  index : Nat := 0
  line : Nat := 0
  column : Nat := 0
deriving DecidableEq, Repr

namespace Cursor

/-- The next character. -/
def peek? (cursor : Cursor) : Option Char :=
  cursor.rest.head?

/-- Whether the next character passes a test; at the end there is none. -/
def sees (cursor : Cursor) (test : Char → Bool) : Bool :=
  cursor.peek?.any test

/-- Whether the end is reached, or the next character passes a test. -/
def endsOr (cursor : Cursor) (test : Char → Bool) : Bool :=
  cursor.peek?.all test

/-- Pass one character. -/
def advance (cursor : Cursor) : Cursor :=
  match cursor.rest with
  | [] => cursor
  | character :: rest =>
    if isBreak character then
      { rest, index := cursor.index + 1, line := cursor.line + 1, column := 0 }
    else
      { cursor with
        rest
        index := cursor.index + 1
        column := if character = byteOrderMark then cursor.column else cursor.column + 1 }

/-- Pass several characters. -/
def skip : Nat → Cursor → Cursor
  | 0, cursor => cursor
  | count + 1, cursor => skip count cursor.advance

/-- The characters ahead for as long as they pass a test. -/
def run (cursor : Cursor) (test : Char → Bool) : Text :=
  cursor.rest.takeWhile test

/-- Pass characters for as long as they pass a test. -/
def pass (cursor : Cursor) (test : Char → Bool) : Cursor :=
  cursor.skip (cursor.run test).length

/-- Pass spaces. -/
def passSpaces (cursor : Cursor) : Cursor :=
  cursor.pass (· = ' ')

/-- Pass spaces for as long as the column is below a limit. -/
def passIndent (limit : Nat) (cursor : Cursor) : Cursor :=
  cursor.skip (min (limit - cursor.column) (cursor.run (· = ' ')).length)

/-- Pass the rest of the line. -/
def passLine (cursor : Cursor) : Cursor :=
  cursor.pass (!isBreak ·)

/-- Pass a comment, if one begins here. -/
def passComment (cursor : Cursor) : Cursor :=
  if cursor.sees (· = '#') then cursor.passLine else cursor

/-- Pass a line break, if there is one, and say what it contributes. -/
def passBreak (cursor : Cursor) : Text × Cursor :=
  match cursor.peek? with
  | some character =>
    if isBreak character then ([breakContent character], cursor.advance) else ([], cursor)
  | none => ([], cursor)

/-- Whether three given characters stand here, with nothing but a separator after them. -/
def seesMarker (cursor : Cursor) (marker : Char) : Bool :=
  match cursor.rest with
  | first :: second :: third :: rest =>
    first = marker && second = marker && third = marker && rest.head?.all isSeparator
  | _ => false

/-- Whether a document begins or ends here, provided that a line does. -/
def seesDocumentMarker (cursor : Cursor) : Bool :=
  cursor.seesMarker '-' || cursor.seesMarker '.'

/-- The rest of a line with nothing but spaces and a comment, up to its break or to the end. -/
def passIgnoredLine (cursor : Cursor) : Option Cursor :=
  let cursor := cursor.passSpaces.passComment
  if cursor.endsOr isBreak then some cursor.passBreak.2 else none

end Cursor

end ProcedureAudit.Yaml
