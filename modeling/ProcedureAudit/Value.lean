import ProcedureAudit.Number.Shortest
import ProcedureAudit.Text.Quoted

/-!
# Values

The values that registries hold, statements carry and plan rows contain, and the two ways in
which messages show them: plainly, or quoted.  Whole numbers are written with all their digits;
where a number can be too long to be written, that is checked before.
-/

namespace ProcedureAudit

/-- A value of a registry, of a statement parameter, or of a column. -/
inductive Value where
  | null
  | boolean (truth : Bool)
  | integer (number : Int)
  | real (number : Binary64)
  | text (content : Text)
  | bytes (content : List UInt8)
deriving DecidableEq, Repr

namespace Value

/-- Octets as pairs of hexadecimal digits. -/
def hexText (octets : List UInt8) : Text :=
  octets.flatMap fun octet => Text.hexDigits 2 octet.toNat

/-- One octet as it stands between two quotes. -/
def quotedOctet (quote : Char) (octet : UInt8) : Text :=
  let character := Char.ofNat octet.toNat
  if octet.toNat < 0x7F then
    Text.quotedCharacter quote character
  else
    "\\x".toList ++ Text.hexDigits 2 octet.toNat

/-- Octets in a message. -/
def quotedBytes (octets : List UInt8) : Text :=
  let quote := Text.preferredQuote (octets.map fun octet => Char.ofNat octet.toNat)
  'b' :: quote :: octets.flatMap (quotedOctet quote) ++ [quote]

/-- A value inside a larger one: texts are quoted. -/
def quoted : Value → Text
  | .null => "None"
  | .boolean truth => if truth then "True".toList else "False".toList
  | .integer number => Text.ofInt number
  | .real number => number.render
  | .text content => Text.quoted content
  | .bytes content => quotedBytes content

/-- A value on its own: texts are shown as they are. -/
def display : Value → Text
  | .text content => content
  | value => value.quoted

end Value

end ProcedureAudit
