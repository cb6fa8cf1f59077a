import ProcedureAudit.Text.LetterCase
import ProcedureAudit.Text.Digits

/-!
# Octets in base 64

Four characters stand for three octets; the last of them may be padding.  Characters outside the
alphabet are passed over, and what follows the padding does not count.
-/

namespace ProcedureAudit.Text

/-- The six bits that a character of the alphabet stands for. -/
def sixBits? (character : Char) : Option Nat :=
  if isCapital character then
    some (character.toNat - 65)
  else if isSmall character then
    some (character.toNat - 71)
  else if isAsciiDigit character then
    some (character.toNat + 4)
  else if character = '+' then
    some 62
  else if character = '/' then
    some 63
  else
    none

/--
Decode from a place inside a group of four on: `taken` characters of the group have been read,
`pending` are the bits of the last one that are not used up, and `padding` counts the padding
characters in a row.
-/
def octetsOfBase64From (taken pending padding : Nat) : Text → Option (List UInt8)
  | [] => if taken = 0 then some [] else none
  | character :: rest =>
    if character = '=' then
      if 2 ≤ taken && 4 ≤ taken + padding + 1 then
        some []
      else
        octetsOfBase64From taken pending (if 2 ≤ taken then padding + 1 else padding) rest
    else
      match sixBits? character with
      | none => octetsOfBase64From taken pending padding rest
      | some bits =>
        match taken with
        | 0 => octetsOfBase64From 1 bits 0 rest
        | 1 =>
          (octetsOfBase64From 2 (bits % 16) 0 rest).map
            (UInt8.ofNat (pending * 4 + bits / 16) :: ·)
        | 2 =>
          (octetsOfBase64From 3 (bits % 4) 0 rest).map
            (UInt8.ofNat (pending * 16 + bits / 4) :: ·)
        | _ =>
          (octetsOfBase64From 0 0 0 rest).map (UInt8.ofNat (pending * 64 + bits) :: ·)

/-- The octets that a text in base 64 stands for, unless its last group is incomplete. -/
def octetsOfBase64? (text : Text) : Option (List UInt8) :=
  octetsOfBase64From 0 0 0 text

end ProcedureAudit.Text
