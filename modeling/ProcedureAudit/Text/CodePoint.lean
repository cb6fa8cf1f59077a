import ProcedureAudit.Text.LetterCase
import ProcedureAudit.Text.Utf8

/-!
# Texts with halves of characters

A character beyond the first plane can be written as a pair of halves, each of which has a code of
its own.  A text that is written by codes may hold such halves, in pairs or on their own.  Until
it is printed, a pair counts as two code points and not as the character that it stands for.
-/

namespace ProcedureAudit

/-- A character, or half of a pair that stands for a character. -/
inductive CodePoint where
  | character (character : Char)
  | half (code : Nat)
deriving DecidableEq, Repr

/-- A text in code points. -/
abbrev CodeText := List CodePoint

namespace CodeText

/-- The code points of a text. -/
def ofText (text : Text) : CodeText :=
  text.map .character

/-- The text itself, if it consists of characters. -/
def text? : CodeText → Option Text
  | [] => some []
  | .character character :: rest => (text? rest).map (character :: ·)
  | .half _ :: _ => none

/-- Whether a code is that of the first half of a pair. -/
def isFirstHalf (code : Nat) : Bool :=
  0xD800 ≤ code && code < 0xDC00

/-- The character that two halves stand for. -/
def paired (first second : Nat) : Char :=
  Char.ofNat (0x10000 + (first - 0xD800) * 0x400 + (second - 0xDC00))

/--
The text in which pairs have become characters, and a half on its own the replacement character.  No
`Text` can hold a half, so what is done with texts beyond this point leaves halves out of account.
-/
def joined : CodeText → Text
  | [] => []
  | .character character :: rest => character :: joined rest
  | [.half _] => [Utf8.replacement]
  | .half first :: .half second :: rest =>
    if isFirstHalf first && !isFirstHalf second then
      paired first second :: joined rest
    else
      Utf8.replacement :: joined (.half second :: rest)
  | .half _ :: .character character :: rest => Utf8.replacement :: character :: joined rest

/-- How many octets a half takes, none of which is part of a character. -/
def octetsOfHalf : Nat :=
  3

/-- The text in which a replacement character stands for every octet of a half. -/
def replaced (text : CodeText) : Text :=
  text.flatMap fun point =>
    match point with
    | .character character => [character]
    | .half _ => List.replicate octetsOfHalf Utf8.replacement

/--
Change the texts between halves, each by itself; `run` is the one at hand, last character first.
-/
def mapRuns (change : Text → Text) (run : Text) : CodeText → CodeText
  | [] => ofText (change run.reverse)
  | .character character :: rest => mapRuns change (character :: run) rest
  | .half code :: rest => ofText (change run.reverse) ++ .half code :: mapRuns change [] rest

/-- The lower-case form of a text; a half has no case. -/
def lower (text : CodeText) : CodeText :=
  mapRuns Text.lower [] text

/-- The quoted form of a text; a half is written by its code. -/
def quoted (text : CodeText) : Text :=
  let quote :=
    if .character '\x27' ∈ text ∧ .character '\x22' ∉ text then '\x22' else '\x27'
  let written (point : CodePoint) : Text :=
    match point with
    | .character character => Text.quotedCharacter quote character
    | .half code => Text.codeEscape code
  quote :: text.flatMap written ++ [quote]

theorem text?_ofText (text : Text) : text? (ofText text) = some text := by
  induction text with
  | nil => rfl
  | cons character rest ih =>
    show (text? (ofText rest)).map (character :: ·) = _
    rw [ih]
    rfl

theorem joined_ofText (text : Text) : joined (ofText text) = text := by
  induction text with
  | nil => rfl
  | cons character rest ih => exact congrArg (character :: ·) ih

end CodeText

end ProcedureAudit
