import ProcedureAudit.Text.CodePoint
import ProcedureAudit.Yaml.MomentForm

/-!
# The kinds of YAML nodes

Every node has a kind, given by a tag or, for a plain scalar, by the form of its text.
-/

namespace ProcedureAudit.Yaml

/-- The kind of a node. -/
inductive Kind where
  | null
  | boolean
  | integer
  | real
  | binary
  | moment
  | text
  | sequence
  | mapping
  | orderedMapping
  | pairs
  | set
  /-- A key under which other mappings are merged into the one that holds it. -/
  | merge
  /-- A key for the value of a mapping as a whole. -/
  | defaultValue
  | unknown
deriving DecidableEq, Repr

namespace Kind

/-- The beginning of the tags of the standard kinds. -/
def standardNamespace : String :=
  "tag:yaml.org,2002:"

/-- The names of the standard kinds. -/
def standardNames : List (String × Kind) :=
  [ ("null", .null), ("bool", .boolean), ("int", .integer), ("float", .real),
    ("binary", .binary), ("timestamp", .moment), ("str", .text), ("seq", .sequence),
    ("map", .mapping), ("omap", .orderedMapping), ("pairs", .pairs), ("set", .set),
    ("merge", .merge), ("value", .defaultValue) ]

/-- The kind that a tag names. -/
def ofTag (tag : Text) : Kind :=
  match Text.dropOpening? standardNamespace.toList tag with
  | some name => (standardNames.lookup (String.ofList name)).getD .unknown
  | none => .unknown

/-- Whether nodes of the kind are collections. -/
def isCollection (kind : Kind) : Bool :=
  kind ∈ [.sequence, .mapping, .orderedMapping, .pairs, .set]

/-! ## The forms of plain scalars -/

/-- The words for truth values. -/
def truthWords : List (String × Bool) :=
  [ ("yes", true), ("no", false), ("true", true), ("false", false), ("on", true),
    ("off", false) ]

/-- A word in small letters, with a capital, or in capitals. -/
def spellings (word : String) : List Text :=
  let capitals := word.toList.map Char.toUpper
  [word.toList, capitals.take 1 ++ word.toList.drop 1, capitals]

/-- Whether a text is one of the words, in small letters, with a capital, or in capitals. -/
def isSpelled (words : List String) (text : Text) : Bool :=
  words.any fun word => (spellings word).any (· = text)

/-- The text without a sign at its beginning. -/
def dropSign : Text → Text
  | '-' :: rest => rest
  | '+' :: rest => rest
  | unsigned => unsigned

/-- Whether a character is a digit of a base or an underscore. -/
def isDigitOrMark (base : Nat) (character : Char) : Bool :=
  character = '_' || (Text.natOfDigits? base [character]).isSome

/-- Whether a text begins with a decimal digit and goes on with digits and underscores. -/
def isDigitRun : Text → Bool
  | [] => false
  | first :: rest => Text.isAsciiDigit first && rest.all (isDigitOrMark 10)

/-- Whether the parts after the first one are numbers below sixty, in one digit or two. -/
def areSixties (parts : List Text) : Bool :=
  parts.all fun part =>
    match part with
    | [digit] => Text.isAsciiDigit digit
    | [ten, digit] => '0' ≤ ten && ten ≤ '5' && Text.isAsciiDigit digit
    | _ => false

/-- Whether a text has the form of a whole number. -/
def isInteger (text : Text) : Bool :=
  match dropSign text with
  | ['0'] => true
  | '0' :: 'b' :: digits => !digits.isEmpty && digits.all (isDigitOrMark 2)
  | '0' :: 'x' :: digits => !digits.isEmpty && digits.all (isDigitOrMark 16)
  | '0' :: digits => digits.all (isDigitOrMark 8)
  | number =>
    match Text.splitOn ':' number with
    | first :: sixties => isDigitRun first && areSixties sixties
    | [] => false

/-- Whether a text is empty or a signed exponent. -/
def isExponent : Text → Bool
  | [] => true
  | mark :: sign :: digits =>
    (mark = 'e' || mark = 'E') && (sign = '-' || sign = '+') && !digits.isEmpty &&
      digits.all Text.isAsciiDigit
  | _ => false

/-- Whether a text is a fraction after its point, with or without an exponent. -/
def isFraction (text : Text) : Bool :=
  isExponent (text.dropWhile (isDigitOrMark 10))

/-- Whether a text has the form of a number with a point. -/
def isReal (text : Text) : Bool :=
  let number := dropSign text
  let whole := number.takeWhile (· ≠ '.')
  match number.dropWhile (· ≠ '.') with
  | [] => false
  | _ :: fraction =>
    if whole.isEmpty then
      isSpelled ["inf"] fraction ||
        (text = number &&
          (["nan", "NaN", "NAN"].any (fraction = ·.toList) ||
            (fraction.head?.any Text.isAsciiDigit && isFraction fraction)))
    else
      match Text.splitOn ':' whole with
      | [digits] => isDigitRun digits && isFraction fraction
      | first :: sixties =>
        isDigitRun first && areSixties sixties && fraction.all (isDigitOrMark 10)
      | [] => false

/-- The text without a line feed at its end, which no form minds; a lone one stays. -/
def dropFinalBreak (text : Text) : Text :=
  if text.getLast? = some '\n' && 1 < text.length then text.dropLast else text

/-- The kind of a scalar with a given form. -/
def ofForm (form : Text) : Kind :=
  if isSpelled (truthWords.map Prod.fst) form then .boolean
  else if isReal form then .real
  else if isInteger form then .integer
  else if form = "<<".toList then .merge
  else if form = [] || form = ['~'] || isSpelled ["null"] form then .null
  else if MomentParts.isPlain form then .moment
  else if form = ['='] then .defaultValue
  else if form = ['!'] || form = ['&'] || form = ['*'] then .unknown
  else .text

/-- The kind of a scalar that is known by its form alone. -/
def ofPlain (text : CodeText) : Kind :=
  match text.text? with
  | some text => ofForm (dropFinalBreak text)
  | none => .text

end Kind

end ProcedureAudit.Yaml
