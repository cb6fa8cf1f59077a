import ProcedureAudit.Text.Digits
import ProcedureAudit.Text.LetterCase
import ProcedureAudit.Text.WordTable

/-!
# Formats of the log

The format of the log is a text with fields, which are filled in for each message.  A field is a
percent sign, a name in parentheses, possibly flags, a width and a precision, and a sign for how the
content is shown.  A log with a format without any field is not set up; only the empty format is
fine, since it stands for the usual one.
-/

namespace ProcedureAudit.LogFormat

/-- Whether a character is one of the flags in front of the width of a field. -/
def isFlag (character : Char) : Bool :=
  character ∈ ['#', '0', '+', ' ', '-']

/-- Whether a character is a decimal digit of any script. -/
def isDigit (character : Char) : Bool :=
  (Text.digitValue? character).isSome

/-- The signs for how a field is shown. -/
def conversions : List Char :=
  ['d', 'i', 'o', 'u', 'x', 'e', 'f', 'g', 'c', 'r', 's', 'a', '%']

/-- Whether a character says how a field is shown; a letter does so in either case. -/
def isConversion (character : Char) : Bool :=
  Text.foldLetter character ∈ conversions

/-- What follows the width at the beginning of a text: a star or digits, or nothing at all. -/
def dropWidth : Text → Text
  | '*' :: rest => rest
  | text => text.dropWhile isDigit

/--
What follows the precision at the beginning of a text.  There is none unless there is a point, and
after a point there is a star or at least one digit.
-/
def dropPrecision? : Text → Option Text
  | '.' :: '*' :: rest => some rest
  | '.' :: rest => if rest.head?.any isDigit then some (rest.dropWhile isDigit) else none
  | text => some text

/-- Whether a text begins with what follows the name in a field. -/
def endsField (text : Text) : Bool :=
  match dropPrecision? (dropWidth (text.dropWhile isFlag)) with
  | some (character :: _) => isConversion character
  | _ => false

/-- Whether a text begins with a field. -/
def beginsField : Text → Bool
  | '%' :: '(' :: named =>
    match named.dropWhile Text.isWordCharacter with
    | ')' :: rest => named.head?.any Text.isWordCharacter && endsField rest
    | _ => false
  | _ => false

/-- Whether there is a field somewhere in a text. -/
def hasField : Text → Bool
  | [] => false
  | character :: rest => beginsField (character :: rest) || hasField rest

/-- Whether a log with the format can be set up. -/
def isUsable (format : Text) : Bool :=
  format.isEmpty || hasField format

/-- The word about a format with which no log can be set up. -/
def refusalMessage (format : Text) : Text :=
  "Invalid format '" ++ format ++ "' for '%' style"

end ProcedureAudit.LogFormat
