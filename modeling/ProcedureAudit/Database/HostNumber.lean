import ProcedureAudit.Text.Digits
import ProcedureAudit.Text.LetterCase

/-!
# Numeric hosts

A host may be given by its number, in version four as four decimal octets, or in version six as
eight groups of hexadecimal digits.  In version six one run of zero groups may be left out, the
last two groups may be written as a number of version four, and a zone may follow.
-/

namespace ProcedureAudit.HostNumber

/-- Whether a text is a decimal octet without superfluous zeros. -/
def isOctet (text : Text) : Bool :=
  !text.isEmpty && text.length ≤ 3 && text.all Text.isAsciiDigit &&
    (text.length = 1 || text.head? != some '0') && Text.natOfDigits text ≤ 255

/-- Whether a text is a number of version four. -/
def isVersionFour (text : Text) : Bool :=
  let octets := Text.splitOn '.' text
  octets.length = 4 && octets.all isOctet

/-- Whether a character is a hexadecimal digit. -/
def isHexDigit (character : Char) : Bool :=
  (Text.hexDigitValue? character).isSome

/-- Whether a text is a group of version six. -/
def isGroup (text : Text) : Bool :=
  !text.isEmpty && text.length ≤ 4 && text.all isHexDigit

/-- Replace a number of version four at the end by two groups. -/
def expandLast : List Text → Option (List Text)
  | [] => some []
  | [last] =>
    if '.' ∈ last then
      if isVersionFour last then some [['0'], ['0']] else none
    else
      some [last]
  | group :: groups => (expandLast groups).map (group :: ·)

/-- How many groups stand on one side of the gap; an empty side is written as one empty part. -/
def sideLength? (parts : List Text) : Option Nat :=
  if parts = [[]] then
    some 0
  else if parts.all isGroup then
    some parts.length
  else
    none

/-- Whether the parts between colons make up a number of version six. -/
def areGroups (parts : List Text) : Bool :=
  let inner := parts.tail.dropLast
  let before := inner.takeWhile fun part => !part.isEmpty
  match inner.dropWhile fun part => !part.isEmpty with
  | [] => parts.length = 8 && parts.all isGroup
  | _ :: after =>
    let last := parts.drop (parts.length - 1)
    match sideLength? (parts.take 1 ++ before), sideLength? (after ++ last) with
    | some front, some back => front + back ≤ 7
    | _, _ => false

/-- Whether a text is a number of version six, with or without a zone. -/
def isVersionSix (text : Text) : Bool :=
  let number := text.takeWhile (· ≠ '%')
  let zoneFits :=
    match text.dropWhile (· ≠ '%') with
    | [] => true
    | _ :: zone => !zone.isEmpty && !('%' ∈ zone)
  let parts := Text.splitOn ':' number
  zoneFits && 3 ≤ parts.length &&
    match expandLast parts with
    | some parts => areGroups parts
    | none => false

/-- Whether a text announces a number of a future version, in the form that is set aside for it. -/
def isVersionFuture (text : Text) : Bool :=
  match text with
  | 'v' :: rest =>
    let version := rest.takeWhile isHexDigit
    match rest.dropWhile isHexDigit with
    | '.' :: number => !version.isEmpty && !number.isEmpty
    | _ => false
  | _ => false

end ProcedureAudit.HostNumber
