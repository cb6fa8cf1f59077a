/-!
# Text as a sequence of characters

The whole library works on `Text`, a list of characters, so that every scanner is a recursion
on its input.  This module supplies the vocabulary shared by all of them: blanks and trimming,
splitting at a character, recognising a given beginning, and searching for a part.

Blanks are the white space of the Unicode standard together with the four information
separators `U+001C` to `U+001F`.
-/

namespace ProcedureAudit

/-- A text is the list of its characters. -/
abbrev Text := List Char

instance : Coe String Text := ⟨String.toList⟩

instance : LawfulBEq Text := inferInstance

namespace Text

/-- White space, the four information separators included. -/
def isBlank (character : Char) : Bool :=
  let code := character.toNat
  (0x09 ≤ code && code ≤ 0x0D) || (0x1C ≤ code && code ≤ 0x20) || code == 0x85 ||
    code == 0xA0 || code == 0x1680 || (0x2000 ≤ code && code ≤ 0x200A) || code == 0x2028 ||
    code == 0x2029 || code == 0x202F || code == 0x205F || code == 0x3000

/-- Drop characters from the end for as long as they satisfy `drops`. -/
def dropEndWhile (drops : Char → Bool) (text : Text) : Text :=
  (text.reverse.dropWhile drops).reverse

/-- Drop characters from both ends for as long as they satisfy `drops`. -/
def dropAround (drops : Char → Bool) (text : Text) : Text :=
  dropEndWhile drops (text.dropWhile drops)

/-- Remove the blanks at both ends. -/
def trim (text : Text) : Text :=
  dropAround isBlank text

/-- Remove the blanks at the end. -/
def trimEnd (text : Text) : Text :=
  dropEndWhile isBlank text

/-- The parts between the occurrences of `mark`; there is always at least one part. -/
def splitOn (mark : Char) : Text → List Text
  | [] => [[]]
  | character :: rest =>
    if character = mark then
      [] :: splitOn mark rest
    else
      match splitOn mark rest with
      | [] => [[character]]
      | part :: parts => (character :: part) :: parts

/-- Write `glue` between the parts. -/
def joinWith (glue : Text) : List Text → Text
  | [] => []
  | [part] => part
  | part :: next :: parts => part ++ glue ++ joinWith glue (next :: parts)

/-- What follows `opening`, if the text begins with it. -/
def dropOpening? : (opening text : Text) → Option Text
  | [], text => some text
  | _ :: _, [] => none
  | wanted :: opening, character :: text =>
    if character = wanted then dropOpening? opening text else none

/-- Whether the text begins with `opening`. -/
def beginsWith (opening text : Text) : Bool :=
  (dropOpening? opening text).isSome

/-- The text before and after the first place where `part` occurs. -/
def splitAtFirst? (part : Text) : Text → Option (Text × Text)
  | [] => if part = [] then some ([], []) else none
  | character :: rest =>
    match dropOpening? part (character :: rest) with
    | some after => some ([], after)
    | none => (splitAtFirst? part rest).map fun (before, after) => (character :: before, after)

/-- Whether `part` occurs somewhere in the text. -/
def contains (part text : Text) : Bool :=
  (splitAtFirst? part text).isSome

/-- Replace every occurrence of one character by a text. -/
def replaceChar (character : Char) (replacement text : Text) : Text :=
  text.flatMap fun current => if current = character then replacement else [current]

/-- The text before the last occurrence of `mark` and the text after it. -/
def splitAtLast? (mark : Char) (text : Text) : Option (Text × Text) :=
  let reversed := text.reverse
  let after := reversed.takeWhile (· ≠ mark)
  match reversed.dropWhile (· ≠ mark) with
  | [] => none
  | _ :: before => some (before.reverse, after.reverse)

/-- A natural number in decimal notation. -/
def ofNat (number : Nat) : Text :=
  Nat.toDigits 10 number

/-- An integer in decimal notation. -/
def ofInt : Int → Text
  | .ofNat number => ofNat number
  | .negSucc number => '-' :: ofNat (number + 1)

/-- Put zeros in front until the text has at least `width` characters. -/
def padZeros (width : Nat) (text : Text) : Text :=
  List.replicate (width - text.length) '0' ++ text

/-- Code points in increasing order, a beginning before what extends it. -/
def precedesOrEquals : (left right : Text) → Bool
  | [], _ => true
  | _ :: _, [] => false
  | first :: left, second :: right =>
    first.toNat < second.toNat || (first = second && precedesOrEquals left right)

end Text

end ProcedureAudit
