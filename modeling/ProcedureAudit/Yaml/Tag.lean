import ProcedureAudit.Text.Utf8
import ProcedureAudit.Yaml.Scalar

/-!
# Anchors, tags and directives

An anchor names a node, a tag says how a node is to be understood, and a directive at the head of
a document declares what its tags abbreviate.
-/

namespace ProcedureAudit.Yaml

/-- A tag: the handle of its namespace, if there is one, and the rest. -/
structure TagName where
  handle : Option Text
  suffix : Text
deriving DecidableEq, Repr

/-- A directive. -/
inductive Directive where
  /-- The version of the language, of which only the first number counts. -/
  | version (major : Nat)
  | tag (handle suffix : Text)
  | other
deriving DecidableEq, Repr

namespace Cursor

/-- Whether a character may stand in a name. -/
def inName (character : Char) : Bool :=
  Text.isLetter character || Text.isAsciiDigit character || character = '-' || character = '_'

/-- Whether a character may follow the name of an anchor. -/
def endsAnchor (character : Char) : Bool :=
  isSeparator character || character ∈ ['?', ':', ',', ']', '\x7D', '%', '@', '\x60']

/-- Read the name of an anchor or of an alias. -/
def anchorName (cursor : Cursor) : Option (Text × Cursor) :=
  let cursor := cursor.advance
  let name := cursor.run inName
  let cursor := cursor.pass inName
  if name.isEmpty || !cursor.endsOr endsAnchor then none else some (name, cursor)

/-- Whether a character ends a tag or a directive. -/
def endsPart (character : Char) : Bool :=
  character = ' ' || isBreak character

/-- Whether a character may stand in the rest of a tag. -/
def inTag (character : Char) : Bool :=
  inName character ||
    character ∈
      [ ';', '/', '?', ':', '@', '&', '=', '+', '$', ',', '.', '!', '~', '*', '\x27', '(', ')',
        '[', ']', '%' ]

/-- The octets at the beginning of a text that are written with percent signs. -/
def percentRun : Text → Option (List UInt8 × Nat)
  | '%' :: high :: low :: rest =>
    match Text.natOfDigits? 16 [high, low], percentRun rest with
    | some octet, some (octets, count) => some (UInt8.ofNat octet :: octets, count + 3)
    | _, _ => none
  | '%' :: _ => none
  | _ => some ([], 0)

/-- Read the rest of a tag. -/
def tagRest : (fuel : Nat) → Cursor → Option (Text × Cursor)
  | 0, _ => none
  | fuel + 1, cursor =>
    match cursor.rest with
    | [] => some ([], cursor)
    | character :: _ =>
      if character = '%' then
        match percentRun cursor.rest with
        | none => none
        | some (octets, count) =>
          match Utf8.decode octets with
          | .error _ => none
          | .ok content =>
            (tagRest fuel (cursor.skip count)).map fun (rest, after) => (content ++ rest, after)
      else if inTag character then
        (tagRest fuel cursor.advance).map fun (rest, after) => (character :: rest, after)
      else
        some ([], cursor)

/-- Read the rest of a tag, of which there must be something. -/
def tagSuffix (cursor : Cursor) : Option (Text × Cursor) :=
  match tagRest cursor.fuel cursor with
  | some (suffix, after) => if after.index = cursor.index then none else some (suffix, after)
  | none => none

/-- Read a handle: an exclamation mark, or a name between two of them. -/
def tagHandle (cursor : Cursor) : Option (Text × Cursor) :=
  if !cursor.sees (· = '!') then
    none
  else
    let next := cursor.advance
    if next.sees (· = ' ') then
      some (['!'], next)
    else
      let name := next.run inName
      let after := next.pass inName
      if after.sees (· = '!') then
        some ('!' :: name ++ ['!'], after.advance)
      else
        none

/-- Read a tag. -/
def tag (cursor : Cursor) : Option (TagName × Cursor) :=
  let next := cursor.advance
  let named :=
    if next.sees (· = '<') then
      match tagSuffix next.advance with
      | none => none
      | some (suffix, after) =>
        if after.sees (· = '>') then
          some ({ handle := none, suffix : TagName }, after.advance)
        else
          none
    else if next.endsOr isSeparator then
      some ({ handle := none, suffix := ['!'] : TagName }, next)
    else
      let handled :=
        if '!' ∈ next.run (!endsPart ·) then tagHandle cursor else some (['!'], next)
      match handled with
      | none => none
      | some (handle, after) =>
        (tagSuffix after).map fun (suffix, after) =>
          ({ handle := some handle, suffix : TagName }, after)
  match named with
  | none => none
  | some (name, after) => if after.endsOr endsPart then some (name, after) else none

/-- A reader that can only say that a text is malformed. -/
def orMalformed {α : Type} (outcome : Option α) : Except Problem α :=
  match outcome with
  | some result => .ok result
  | none => .error .malformed

/-- Read one number of a version. -/
def versionNumber (cursor : Cursor) : Except Problem (Nat × Cursor) :=
  let digits := cursor.run Text.isAsciiDigit
  if digits.isEmpty then
    .error .malformed
  else if Numeral.digitLimit < digits.length then
    .error (.tooManyDigits digits.length)
  else
    .ok (Text.natOfDigits digits, cursor.pass Text.isAsciiDigit)

/-- Read a version. -/
def versionDirective (cursor : Cursor) : Except Problem (Directive × Cursor) :=
  match versionNumber cursor.passSpaces with
  | .error problem => .error problem
  | .ok (major, cursor) =>
    if cursor.sees (· = '.') then
      match versionNumber cursor.advance with
      | .error problem => .error problem
      | .ok (_, cursor) =>
        if cursor.endsOr endsPart then .ok (.version major, cursor) else .error .malformed
    else
      .error .malformed

/-- Read the declaration of a handle. -/
def tagDirective (cursor : Cursor) : Option (Directive × Cursor) :=
  match tagHandle cursor.passSpaces with
  | none => none
  | some (handle, cursor) =>
    if cursor.sees (· = ' ') then
      match tagSuffix cursor.passSpaces with
      | none => none
      | some (suffix, cursor) =>
        if cursor.endsOr endsPart then some (.tag handle suffix, cursor) else none
    else
      none

/-- Read a directive with the rest of its line. -/
def directive (cursor : Cursor) : Except Problem (Directive × Cursor) :=
  let cursor := cursor.advance
  let name := cursor.run inName
  let cursor := cursor.pass inName
  if name.isEmpty || !cursor.endsOr endsPart then
    .error .malformed
  else
    let read : Except Problem (Directive × Cursor) :=
      if name = "YAML".toList then
        versionDirective cursor
      else if name = "TAG".toList then
        orMalformed (tagDirective cursor)
      else
        .ok (.other, cursor.passLine)
    match read with
    | .error problem => .error problem
    | .ok (directive, cursor) =>
      (orMalformed cursor.passIgnoredLine).map fun cursor => (directive, cursor)

end Cursor

end ProcedureAudit.Yaml
