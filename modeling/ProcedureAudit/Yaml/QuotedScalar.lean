import ProcedureAudit.Yaml.Scalar

/-!
# Quoted scalars

Between single quotes every character stands for itself, but for a doubled quote.  Between double
quotes a backslash begins an escape.  In both, blanks around line breaks are dropped and a single
line break is folded into a space.
-/

namespace ProcedureAudit.Yaml

namespace Cursor

/--
The content of the line breaks here, with the blanks around them dropped.  No document may begin
or end at the beginning of a line.
-/
def quotedBreaks : (fuel : Nat) → Cursor → Except Problem (Text × Cursor)
  | 0, _ => .error .malformed
  | fuel + 1, cursor =>
    if cursor.seesDocumentMarker then
      .error .malformed
    else
      let cursor := cursor.pass fun character => character = ' ' || character = '\t'
      if cursor.sees isBreak then
        let (content, cursor) := cursor.passBreak
        (quotedBreaks fuel cursor).map fun (breaks, cursor) => (content ++ breaks, cursor)
      else
        .ok ([], cursor)

/-- The content of the blanks and line breaks between two words of a quoted scalar. -/
def quotedBlanks (cursor : Cursor) : Except Problem (Text × Cursor) :=
  let isBlank (character : Char) : Bool := character = ' ' || character = '\t'
  let blanks := cursor.run isBlank
  let cursor := cursor.pass isBlank
  if cursor.rest.isEmpty then
    .error .malformed
  else if cursor.sees isBreak then
    let (lineBreak, cursor) := cursor.passBreak
    (quotedBreaks cursor.fuel cursor).map fun (breaks, cursor) =>
      (foldedBreaks lineBreak breaks, cursor)
  else
    .ok (blanks, cursor)

/-- Read a scalar between single quotes; two quotes in a row stand for one. -/
def singleQuotedFrom : (fuel : Nat) → Cursor → Except Problem (Text × Cursor)
  | 0, _ => .error .malformed
  | fuel + 1, cursor =>
    match cursor.rest with
    | [] => .error .malformed
    | '\x27' :: '\x27' :: _ =>
      (singleQuotedFrom fuel (cursor.skip 2)).map fun (content, after) => ('\x27' :: content, after)
    | '\x27' :: _ => .ok ([], cursor.advance)
    | character :: _ =>
      if isSeparator character then
        match quotedBlanks cursor with
        | .error problem => .error problem
        | .ok (blanks, cursor) =>
          (singleQuotedFrom fuel cursor).map fun (content, after) => (blanks ++ content, after)
      else
        (singleQuotedFrom fuel cursor.advance).map fun (content, after) =>
          (character :: content, after)

/-- The characters that one letter after a backslash stands for. -/
def escapes : List (Char × Char) :=
  [ ('0', '\x00'), ('a', '\x07'), ('b', '\x08'), ('t', '\t'), ('\t', '\t'), ('n', '\n'),
    ('v', '\x0B'), ('f', '\x0C'), ('r', '\r'), ('e', '\x1B'), (' ', ' '), ('\x22', '\x22'),
    ('\\', '\\'), ('/', '/'), ('N', '\u0085'), ('_', '\u00A0'), ('L', '\u2028'),
    ('P', '\u2029') ]

/-- How many hexadecimal digits follow a letter after a backslash. -/
def codeEscapes : List (Char × Nat) :=
  [('x', 2), ('u', 4), ('U', 8)]

/-- The code point with a code. -/
def codePoint (code : Nat) : Except Problem CodePoint :=
  if 0x80000000 ≤ code then
    .error .hugeCharacter
  else if 0x110000 ≤ code then
    .error .noCharacter
  else if 0xD800 ≤ code ∧ code < 0xE000 then
    .ok (.half code)
  else
    .ok (.character (Char.ofNat code))

/-- Read an escape after its backslash. -/
def escape (cursor : Cursor) : Except Problem (CodeText × Cursor) :=
  match cursor.peek? with
  | none => .error .malformed
  | some letter =>
    match escapes.lookup letter, codeEscapes.lookup letter with
    | some character, _ => .ok ([.character character], cursor.advance)
    | none, some count =>
      let digits := cursor.advance.rest.take count
      match Text.natOfDigits? 16 digits with
      | none => .error .malformed
      | some code =>
        if digits.length < count then
          .error .malformed
        else
          (codePoint code).map fun point => ([point], cursor.skip (count + 1))
    | none, none =>
      if isBreak letter then
        let cursor := cursor.advance
        (quotedBreaks cursor.fuel cursor).map fun (breaks, after) => (CodeText.ofText breaks, after)
      else
        .error .malformed

/-- Read a scalar between double quotes, in which a backslash begins an escape. -/
def doubleQuotedFrom : (fuel : Nat) → Cursor → Except Problem (CodeText × Cursor)
  | 0, _ => .error .malformed
  | fuel + 1, cursor =>
    match cursor.rest with
    | [] => .error .malformed
    | '\x22' :: _ => .ok ([], cursor.advance)
    | '\\' :: _ =>
      match escape cursor.advance with
      | .error problem => .error problem
      | .ok (front, cursor) =>
        (doubleQuotedFrom fuel cursor).map fun (content, after) => (front ++ content, after)
    | character :: _ =>
      if isSeparator character then
        match quotedBlanks cursor with
        | .error problem => .error problem
        | .ok (blanks, cursor) =>
          (doubleQuotedFrom fuel cursor).map fun (content, after) =>
            (CodeText.ofText blanks ++ content, after)
      else
        (doubleQuotedFrom fuel cursor.advance).map fun (content, after) =>
          (.character character :: content, after)

/-- Read a quoted scalar. -/
def quotedScalar (double : Bool) (cursor : Cursor) : Except Problem (CodeText × Cursor) :=
  if double then
    doubleQuotedFrom cursor.fuel cursor.advance
  else
    (singleQuotedFrom cursor.fuel cursor.advance).map fun (content, after) =>
      (CodeText.ofText content, after)

end Cursor

end ProcedureAudit.Yaml
