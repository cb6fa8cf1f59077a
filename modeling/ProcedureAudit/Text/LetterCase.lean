import ProcedureAudit.Text.Basic
import ProcedureAudit.Text.CaseTables

/-!
# Lower case and case-blind comparison

Two different notions of letter case are used by the library.

`Text.lower` is the full lower-case form of a text.  Names of procedures and of placeholders are
compared by it.  A capital sigma becomes a final sigma exactly at the end of a word.

`Text.fold` is the coarser, letter-by-letter notion under which keywords are recognised.  It
identifies the ASCII capitals with the small letters, and in addition four letters outside ASCII
that are case variants of an ASCII letter: the long s, the Kelvin sign, and the dotted capital
and dotless small i.
-/

namespace ProcedureAudit.Text

/-! ## The full lower-case form -/

/-- The lower-case letter of a code point listed in the runs. -/
def lowerCode? (code : Nat) : List CaseRun → Option Nat
  | [] => none
  | (first, last, distance, shift) :: runs =>
    if code < first then
      none
    else if code ≤ last && (code - first) % distance == 0 then
      some (code + shift).toNat
    else
      lowerCode? code runs

/-- The lower-case letter of a character, leaving aside its neighbours. -/
def lowerLetter (character : Char) : Char :=
  match lowerCode? character.toNat capitalRuns with
  | some code => Char.ofNat code
  | none => character

/-- Whether a character is skipped in the search for a neighbouring letter. -/
def isTransparent (character : Char) : Bool :=
  transparentRanges.holds character.toNat

/-- Whether a character is a letter with a case. -/
def isCased (character : Char) : Bool :=
  casedRanges.holds character.toNat

/-- Whether the next character that is not transparent is a letter with a case. -/
def continuesWord (text : Text) : Bool :=
  match text.dropWhile isTransparent with
  | [] => false
  | character :: _ => isCased character

/-- Whether a word is open after `character`, if `inWord` says so before it. -/
def wordAfter (inWord : Bool) (character : Char) : Bool :=
  if isTransparent character then inWord else isCased character

/-- The lower-case form of a text that stands inside a word or not. -/
def lowerFrom (inWord : Bool) : Text → Text
  | [] => []
  | character :: rest =>
    let following := lowerFrom (wordAfter inWord character) rest
    if character = 'Σ' then
      (if inWord && !continuesWord rest then 'ς' else 'σ') :: following
    else if character = 'İ' then
      'i' :: '\u0307' :: following
    else
      lowerLetter character :: following

/-- The lower-case form of a text. -/
def lower (text : Text) : Text :=
  lowerFrom false text

/-! ## Case-blind recognition of keywords -/

/-- Whether the character is a capital ASCII letter. -/
def isCapital (character : Char) : Bool :=
  'A' ≤ character && character ≤ 'Z'

/-- Whether the character is a small ASCII letter. -/
def isSmall (character : Char) : Bool :=
  'a' ≤ character && character ≤ 'z'

/-- Whether the character is an ASCII letter. -/
def isLetter (character : Char) : Bool :=
  isCapital character || isSmall character

/-- The small ASCII letter of which the character is a case variant; other characters stay. -/
def foldLetter (character : Char) : Char :=
  if isCapital character then
    Char.ofNat (character.toNat + 32)
  else if character = 'ſ' then
    's'
  else if character = '\u212A' then
    'k'
  else if character = 'İ' || character = 'ı' then
    'i'
  else
    character

/-- Every letter replaced by the small ASCII letter of which it is a case variant. -/
def fold (text : Text) : Text :=
  text.map foldLetter

/-- Whether the character is a case variant of an ASCII letter. -/
def isLetterVariant (character : Char) : Bool :=
  isSmall (foldLetter character)

/-- What follows a keyword, written in any case; `keyword` itself is in small letters. -/
def dropKeyword? : (keyword text : Text) → Option Text
  | [], text => some text
  | _ :: _, [] => none
  | wanted :: keyword, character :: text =>
    if foldLetter character = wanted then dropKeyword? keyword text else none

/-- Whether a keyword, written in any case, occurs somewhere in the text. -/
def mentions (keyword : Text) : Text → Bool
  | [] => keyword.isEmpty
  | character :: rest =>
    (dropKeyword? keyword (character :: rest)).isSome || mentions keyword rest

/-- Whether the text is the keyword in any case, one line end after it being allowed. -/
def isKeywordLine (keyword text : Text) : Bool :=
  match dropKeyword? keyword text with
  | some [] => true
  | some ['\n'] => true
  | _ => false

end ProcedureAudit.Text
