import ProcedureAudit.Text.Basic
import ProcedureAudit.Text.Printable

/-!
# Quoted forms in messages

A text that a message quotes stands between single quotes, or between double quotes if it holds
a single quote and no double quote.  The backslash, the quote in use and the usual controls have
two-character escapes; other characters without a visible form are written by their code.
-/

namespace ProcedureAudit.Text

/-- A hexadecimal digit in small letters. -/
def hexDigit (value : Nat) : Char :=
  if value < 10 then Char.ofNat (48 + value) else Char.ofNat (87 + value)

/-- The last `width` hexadecimal digits of a number. -/
def hexDigits : (width number : Nat) → Text
  | 0, _ => []
  | width + 1, number => hexDigits width (number / 16) ++ [hexDigit (number % 16)]

/-- The escape that names a character by its code. -/
def codeEscape (code : Nat) : Text :=
  if code < 0x100 then
    "\\x".toList ++ hexDigits 2 code
  else if code < 0x10000 then
    "\\u".toList ++ hexDigits 4 code
  else
    "\\U".toList ++ hexDigits 8 code

/-- One character as it stands between two quotes. -/
def quotedCharacter (quote character : Char) : Text :=
  if character = quote || character = '\\' then
    ['\\', character]
  else if character = '\n' then
    "\\n"
  else if character = '\t' then
    "\\t"
  else if character = '\r' then
    "\\r"
  else if isPrintable character then
    [character]
  else
    codeEscape character.toNat

/-- The quote under which the text needs the fewest escapes. -/
def preferredQuote (text : Text) : Char :=
  if '\x27' ∈ text ∧ '\x22' ∉ text then '\x22' else '\x27'

/-- The quoted form of a text. -/
def quoted (text : Text) : Text :=
  let quote := preferredQuote text
  quote :: text.flatMap (quotedCharacter quote) ++ [quote]

end ProcedureAudit.Text
