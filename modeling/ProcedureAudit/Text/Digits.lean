import ProcedureAudit.Text.Basic

/-!
# Digits

Each script with decimal digits has ten of them in a row, so a table of the zeros of Unicode 14
determines the value of every digit.  Numbers in other bases are written in ASCII.
-/

namespace ProcedureAudit.Text

/-- The code points of the digits zero, in increasing order. -/
def zeroCodes : List Nat :=
  [
    0x30, 0x660, 0x6f0, 0x7c0, 0x966, 0x9e6, 0xa66, 0xae6, 0xb66, 0xbe6, 0xc66, 0xce6, 0xd66,
    0xde6, 0xe50, 0xed0, 0xf20, 0x1040, 0x1090, 0x17e0, 0x1810, 0x1946, 0x19d0, 0x1a80, 0x1a90,
    0x1b50, 0x1bb0, 0x1c40, 0x1c50, 0xa620, 0xa8d0, 0xa900, 0xa9d0, 0xa9f0, 0xaa50, 0xabf0,
    0xff10, 0x104a0, 0x10d30, 0x11066, 0x110f0, 0x11136, 0x111d0, 0x112f0, 0x11450, 0x114d0,
    0x11650, 0x116c0, 0x11730, 0x118e0, 0x11950, 0x11c50, 0x11d50, 0x11da0, 0x16a60, 0x16ac0,
    0x16b50, 0x1d7ce, 0x1d7d8, 0x1d7e2, 0x1d7ec, 0x1d7f6, 0x1e140, 0x1e2f0, 0x1e950, 0x1fbf0
  ]

/-- The value of a decimal digit of any script. -/
def digitValue? (character : Char) : Option Nat :=
  (zeroCodes.find? fun first => first ≤ character.toNat && character.toNat < first + 10).map
    fun first => character.toNat - first

/-- Whether the character is one of the ten ASCII digits. -/
def isAsciiDigit (character : Char) : Bool :=
  '0' ≤ character && character ≤ '9'

/-- The number written by ASCII digits, most significant first. -/
def natOfDigits (digits : Text) : Nat :=
  digits.foldl (fun number digit => number * 10 + (digit.toNat - '0'.toNat)) 0

/-- The value of a hexadecimal digit. -/
def hexDigitValue? (character : Char) : Option Nat :=
  if isAsciiDigit character then
    some (character.toNat - 48)
  else if 'a' ≤ character && character ≤ 'f' then
    some (character.toNat - 87)
  else if 'A' ≤ character && character ≤ 'F' then
    some (character.toNat - 55)
  else
    none

/-- Add a digit to a number in a base; there is none if the digit is not one of the base. -/
def addDigit? (base : Nat) (number : Option Nat) (digit : Char) : Option Nat :=
  match number, hexDigitValue? digit with
  | some number, some value => if value < base then some (number * base + value) else none
  | _, _ => none

/-- The number written by digits of a base up to sixteen, most significant first. -/
def natOfDigits? (base : Nat) (digits : Text) : Option Nat :=
  digits.foldl (addDigit? base) (some 0)

end ProcedureAudit.Text
