import ProcedureAudit.Number.Binary64
import ProcedureAudit.Text.LetterCase
import ProcedureAudit.Text.Quoted

/-!
# Numbers as people write them

A number may be written with digits of any script, with a sign, with single underscores between
digits, and with blanks around it.  This module reads whole numbers and doubles written like that
and says what is wrong with the texts it refuses.
-/

namespace ProcedureAudit.Numeral

/-- The blanks that may surround a number once other scripts have been replaced. -/
def isPadding (character : Char) : Bool :=
  character = ' ' || ('\t' ≤ character && character ≤ '\r')

/-- Blanks and digits outside ASCII are replaced by their ASCII counterparts, all else by `?`. -/
def toAscii (character : Char) : Char :=
  if character.toNat < 127 then
    character
  else if Text.isBlank character then
    ' '
  else
    match Text.digitValue? character with
    | some value => Char.ofNat ('0'.toNat + value)
    | none => '?'

/-- The text in ASCII, without the blanks around it. -/
def plain (text : Text) : Text :=
  Text.dropAround isPadding (text.map toAscii)

/-- The sign in front of a number, and what follows it. -/
def splitSign : Text → Bool × Text
  | '-' :: rest => (true, rest)
  | '+' :: rest => (false, rest)
  | text => (false, text)

/-- Whether every underscore stands between two digits. -/
def separatorsFit (isDigit : Char → Bool) (before : Char) : Text → Bool
  | [] => before ≠ '_'
  | character :: rest =>
    (if character = '_' then isDigit before else before ≠ '_' || isDigit character) &&
      separatorsFit isDigit character rest

/-- The text without its underscores. -/
def dropSeparators (text : Text) : Text :=
  text.filter (· ≠ '_')

/-- The greatest number of digits that a whole number may have. -/
def digitLimit : Nat :=
  4300

/-- Why a text is no whole number. -/
inductive Problem where
  | malformed (text : Text)
  | tooLong (count : Nat)
deriving DecidableEq, Repr

/-- The words for a quoted text that is no whole number; it is cut after two hundred characters. -/
def malformedMessage (base : Nat) (quoted : Text) : Text :=
  "invalid literal for int() with base " ++ Text.ofNat base ++ ": " ++ quoted.take 200

/-- A problem in words. -/
def Problem.message : Problem → Text
  | .malformed text => malformedMessage 10 (Text.quoted text)
  | .tooLong count =>
    "Exceeds the limit (4300 digits) for integer string conversion: value has " ++
      Text.ofNat count ++ " digits; use sys.set_int_max_str_digits() to increase the limit"

/-- Whether a whole number has no more digits than can be written. -/
def isWritable (number : Int) : Bool :=
  number.natAbs < Nat.pow 10 digitLimit

/-- The words for a whole number that cannot be written. -/
def unwritableMessage : Text :=
  "Exceeds the limit (4300 digits) for integer string conversion; use " ++
    "sys.set_int_max_str_digits() to increase the limit"

/-- The number with its sign. -/
def signed (negative : Bool) (number : Nat) : Int :=
  if negative then -(number : Int) else number

/-- The whole number that a text denotes. -/
def integer (text : Text) : Except Problem Int :=
  let (negative, body) := splitSign (plain text)
  let digits := body.takeWhile fun character =>
    Text.isAsciiDigit character || character = '_'
  let bare := dropSeparators digits
  if bare.isEmpty || !separatorsFit Text.isAsciiDigit '_' digits then
    .error (.malformed text)
  else if digitLimit < bare.length then
    .error (.tooLong bare.length)
  else if digits.length < body.length then
    .error (.malformed text)
  else
    .ok (signed negative (Text.natOfDigits bare))

/-! ## Other bases -/

/-- The letter that, after a zero, marks the digits of a base. -/
def baseMark? (base : Nat) : Option Char :=
  [(2, 'b'), (8, 'o'), (16, 'x')].lookup base

/-- The digits of a base without the mark, after which an underscore may stand. -/
def dropBaseMark (base : Nat) (digits : Text) : Text :=
  match digits with
  | '0' :: mark :: rest =>
    if baseMark? base = some (Text.foldLetter mark) && mark.toNat < 127 then
      if rest.head? = some '_' then rest.tail else rest
    else
      digits
  | _ => digits

/--
The whole number that a text denotes in a base that is a power of two, if it denotes one.  Its
length is not limited.
-/
def integerInBase? (base : Nat) (text : Text) : Option Int :=
  let (negative, body) := splitSign (plain text)
  let digits := dropBaseMark base body
  let isDigit (character : Char) : Bool := (Text.natOfDigits? base [character]).isSome
  if digits.isEmpty || !separatorsFit isDigit '_' digits then
    none
  else
    (Text.natOfDigits? base (dropSeparators digits)).map (signed negative)

/-! ## Doubles -/

/-- The exponent of a double, if the text is one; the empty text is the exponent zero. -/
def exponent? : Text → Option Int
  | [] => some 0
  | mark :: rest =>
    if mark = 'e' || mark = 'E' then
      let (negative, digits) := splitSign rest
      if !digits.isEmpty && digits.all Text.isAsciiDigit then
        let value : Int := Text.natOfDigits digits
        some (if negative then -value else value)
      else
        none
    else
      none

/-- A double in plain decimal notation, without sign and separators. -/
def unsignedDecimal? (negative : Bool) (text : Text) : Option Binary64 :=
  let whole := text.takeWhile Text.isAsciiDigit
  let rest := text.dropWhile Text.isAsciiDigit
  let (fraction, rest) :=
    match rest with
    | '.' :: rest => (rest.takeWhile Text.isAsciiDigit, rest.dropWhile Text.isAsciiDigit)
    | _ => ([], rest)
  if whole.isEmpty && fraction.isEmpty then
    none
  else
    (exponent? rest).map fun exponent =>
      Binary64.ofDecimal negative (Text.natOfDigits (whole ++ fraction))
        (exponent - fraction.length)

/-- The double that a text denotes; infinity and the absence of a number have names. -/
def double? (text : Text) : Option Binary64 :=
  let body := plain text
  if !separatorsFit Text.isAsciiDigit ' ' body then
    none
  else
    let (negative, body) := splitSign (dropSeparators body)
    let name := body.map fun character =>
      if Text.isCapital character then Text.foldLetter character else character
    if name = "inf".toList || name = "infinity".toList then
      some (.infinite negative)
    else if name = "nan".toList then
      some .nan
    else
      unsignedDecimal? negative body

end ProcedureAudit.Numeral
