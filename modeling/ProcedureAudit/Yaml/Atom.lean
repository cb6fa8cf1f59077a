import ProcedureAudit.Text.Base64
import ProcedureAudit.Yaml.Graph
import ProcedureAudit.Yaml.Moment

/-!
# Atoms

An atom is what a scalar of some kind stands for.  The kind says how its text is to be read, and
not every text can be read as its kind demands.
-/

namespace ProcedureAudit.Yaml

/-- What a scalar stands for. -/
inductive Atom where
  | null
  | boolean (truth : Bool)
  | integer (number : Int)
  | real (number : Binary64)
  /-- A number that is none, although it is not written as such; it equals only itself. -/
  | indefinite (node : NodeId)
  | string (text : CodeText)
  | bytes (octets : List UInt8)
  | moment (moment : Moment)
deriving DecidableEq, Repr

namespace Atom

/-- Whether an atom counts as nothing: absent, false, zero or empty. -/
def isNothing : Atom → Bool
  | .null => true
  | .boolean truth => !truth
  | .integer number => number = 0
  | .real number => number.isZero
  | .indefinite _ => false
  | .string text => text.isEmpty
  | .bytes octets => octets.isEmpty
  | .moment _ => false

/-- The whole number that a truth value or a number is equal to. -/
def whole? : Atom → Option Int
  | .boolean truth => some (if truth then 1 else 0)
  | .integer number => some number
  | .real number => number.toInt?
  | _ => none

/-- Whether two atoms are the same key. -/
def isSameKey (left right : Atom) : Bool :=
  match left.whole?, right.whole? with
  | some left, some right => left = right
  | none, none =>
    match left, right with
    | .moment left, .moment right => left.isSame right
    | left, right => left = right
  | _, _ => false

/-! ## Whole numbers -/

/-- The text without underscores, which may stand anywhere in a number. -/
def dropMarks (text : CodeText) : CodeText :=
  text.filter (· ≠ .character '_')

/-- A sign, if there is one, and what follows it; there must be something. -/
def splitSign (text : CodeText) : Except Problem (Bool × CodeText) :=
  match text with
  | [] => .error .emptyNumber
  | .character '-' :: rest => .ok (true, rest)
  | .character '+' :: rest => .ok (false, rest)
  | unsigned => .ok (false, unsigned)

/-- A whole number in decimal notation. -/
def decimalInteger (digits : CodeText) : Except Problem Int :=
  match Numeral.integer digits.replaced with
  | .ok number => .ok number
  | .error (.malformed _) => .error (.noInteger 10 digits)
  | .error (.tooLong count) => .error (.tooManyDigits count)

/-- A whole number in another base. -/
def integerInBase (base : Nat) (digits : CodeText) : Except Problem Int :=
  match Numeral.integerInBase? base digits.replaced with
  | some number => .ok number
  | none => .error (.noInteger base digits)

/-- The parts of a text between colons; there is always at least one part. -/
def splitColons : CodeText → List CodeText
  | [] => [[]]
  | point :: rest =>
    if point = .character ':' then
      [] :: splitColons rest
    else
      match splitColons rest with
      | [] => [[point]]
      | part :: parts => (point :: part) :: parts

/-- Read all parts; the first problem counts. -/
def readParts {α : Type} (read : CodeText → Except Problem α) :
    List CodeText → Except Problem (List α)
  | [] => .ok []
  | part :: parts =>
    match read part with
    | .error problem => .error problem
    | .ok number => (readParts read parts).map (number :: ·)

/-- The value of numbers in base sixty, the greatest one first. -/
def sixtiesInteger (numbers : List Int) : Int :=
  numbers.foldl (fun total number => 60 * total + number) 0

/-- A whole number without its sign. -/
def unsignedInteger (text : CodeText) : Except Problem Int :=
  match text with
  | [] => .error .emptyNumber
  | [.character '0'] => .ok 0
  | .character '0' :: .character 'b' :: digits => integerInBase 2 digits
  | .character '0' :: .character 'x' :: digits => integerInBase 16 digits
  | .character '0' :: _ => integerInBase 8 text
  | _ =>
    if .character ':' ∈ text then
      (readParts decimalInteger (splitColons text)).map sixtiesInteger
    else
      decimalInteger text

/-- The whole number that a text denotes. -/
def integerOf (text : CodeText) : Except Problem Int :=
  match splitSign (dropMarks text) with
  | .error problem => .error problem
  | .ok (negative, digits) =>
    (unsignedInteger digits).map fun number => if negative then -number else number

/-! ## Numbers with a fraction -/

/-- A number in decimal notation. -/
def decimalReal (text : CodeText) : Except Problem Binary64 :=
  match Numeral.double? text.replaced with
  | some number => .ok number
  | none => .error (.noReal text)

/--
The value of numbers in base sixty, the least one first, added up in this order.  Every unit, also
one that is not needed, must be a double.
-/
def sixtiesReal (total : Binary64) (unit : Nat) : List Binary64 → Except Problem Binary64
  | [] => .ok total
  | number :: numbers =>
    match Binary64.ofInt unit with
    | .infinite _ => .error .hugeUnit
    | factor => sixtiesReal (total.add (number.mul factor)) (unit * 60) numbers

/-- A number without its sign, in small letters; `node` is where it is written. -/
def unsignedReal (node : NodeId) (negative : Bool) (text : CodeText) : Except Problem Atom :=
  let signed (number : Binary64) : Atom :=
    if number = .nan then .indefinite node
    else .real (if negative then number.neg else number)
  if text = CodeText.ofText ".inf" then
    .ok (signed (.infinite false))
  else if text = CodeText.ofText ".nan" then
    .ok (.real .nan)
  else if .character ':' ∈ text then
    match readParts decimalReal (splitColons text) with
    | .error problem => .error problem
    | .ok numbers => (sixtiesReal (Binary64.ofInt 0) 1 numbers.reverse).map signed
  else
    (decimalReal text).map signed

/-- The number that a text denotes. -/
def realOf (node : NodeId) (text : CodeText) : Except Problem Atom :=
  match splitSign (dropMarks text).lower with
  | .error problem => .error problem
  | .ok (negative, digits) => unsignedReal node negative digits

/-! ## Other kinds -/

/-- The truth value that a word denotes. -/
def truthOf (text : CodeText) : Except Problem Bool :=
  let word := text.lower
  match word.text?.bind fun word => Kind.truthWords.lookup (String.ofList word) with
  | some truth => .ok truth
  | none => .error (.noTruth word)

/-- The octets that a text in base 64 denotes. -/
def octetsOf (text : CodeText) : Except Problem (List UInt8) :=
  match text.text? with
  | none => .error .malformed
  | some text =>
    if text.all fun character => character.toNat < 0x80 then
      match Text.octetsOfBase64? text with
      | some octets => .ok octets
      | none => .error .malformed
    else
      .error .malformed

/-- The moment that a text denotes. -/
def momentOf (text : CodeText) : Except Problem Moment :=
  match text.text? with
  | some text => Moment.parse text
  | none => .error .noMoment

/-- The atom that a scalar of a kind stands for. -/
def ofScalar (node : NodeId) (kind : Kind) (text : CodeText) : Except Problem Atom :=
  match kind with
  | .null => .ok .null
  | .boolean => (truthOf text).map .boolean
  | .integer => (integerOf text).map .integer
  | .real => realOf node text
  | .binary => (octetsOf text).map .bytes
  | .moment => (momentOf text).map .moment
  | .text => .ok (.string text)
  | _ => .error .malformed

end Atom

end ProcedureAudit.Yaml
