import ProcedureAudit.Config.Basic
import ProcedureAudit.Text.Utf8
import ProcedureAudit.Yaml.Datum

/-!
# Configurations as data

The schema of a configuration file: which sections and fields it may have, what data they may
hold, and which flaws are reported otherwise.  Fields that are not known are passed over, and a
field that is missing has its default.
-/

namespace ProcedureAudit.Config

open Yaml (Atom Datum)

/-! ## Texts -/

/-- Check a text in code points; octets will do if they can be decoded. -/
def checkCodeText (place : List Text) : Datum → Checked CodeText
  | .atom (.string text) => .ok text
  | .atom (.bytes octets) =>
    match Utf8.decode octets with
    | .ok text => .ok (CodeText.ofText text)
    | .error _ => Checked.complain place .undecodableText
  | _ => Checked.complain place .text

/--
Check a text.  From here on a text consists of characters: halves that were written by their codes
are joined or replaced, as when the text is printed, and do not reach files and servers as they are.
-/
def checkText (place : List Text) (datum : Datum) : Checked Text :=
  (checkCodeText place datum).map CodeText.joined

/-- Check a text that may be absent. -/
def checkOptionalText (place : List Text) : Datum → Checked (Option Text)
  | .atom .null => .ok none
  | datum => (checkText place datum).map some

/-- Check texts with numbered places. -/
def checkTextsFrom (place : List Text) (number : Nat) : List Datum → List (Checked Text)
  | [] => []
  | item :: items =>
    checkText (place ++ [Text.ofNat number]) item :: checkTextsFrom place (number + 1) items

/-- Check a list of texts. -/
def checkTexts (place : List Text) : Datum → Checked (List Text)
  | .sequence items => Checked.all (checkTextsFrom place 0 items)
  | _ => Checked.complain place .list

/-! ## Whole numbers -/

/-- The white space that may surround a number. -/
def isPadding (character : Char) : Bool :=
  Text.isBlank character && !(0x1C ≤ character.toNat && character.toNat ≤ 0x1F)

/-- Whether a text begins like a whole number of more characters than can be read. -/
def isOverlong (text : Text) : Bool :=
  let unsigned := if text.head? = some '-' then text.tail else text
  let digits := unsigned.takeWhile Text.isAsciiDigit
  digits.head?.any (· ≠ '0') &&
    Numeral.digitLimit < digits.length + (text.length - unsigned.length)

/-- The text without a plus sign, after which no minus sign may stand. -/
def dropPlus : Text → Option Text
  | '+' :: '-' :: _ => none
  | '+' :: rest => some rest
  | rest => some rest

/--
Drop zeros and underscores in front of a number that begins with a zero; `last` is the character
before the rest.  A minus sign may follow them.
-/
def dropZeros (last : Char) : Text → Option Text
  | [] => some [last]
  | character :: rest =>
    if character = '0' || character = '_' then
      dropZeros character rest
    else if character = '-' || Text.isAsciiDigit character then
      some (character :: rest)
    else if character = '.' then
      some (last :: character :: rest)
    else
      none

/-- A number without superfluous zeros in front; a number with a minus sign is left alone. -/
def dropLeadingZeros : Text → Option Text
  | [] => none
  | '0' :: rest => dropZeros '0' rest
  | first :: rest =>
    if first = '-' || Text.isAsciiDigit first then some (first :: rest) else none

/-- A number without a fraction that consists of zeros. -/
def dropFraction (text : Text) : Text :=
  match text.dropWhile (· ≠ '.') with
  | _ :: zero :: fraction =>
    if zero = '0' && fraction.all (· = '0') then text.takeWhile (· ≠ '.') else text
  | _ => text

/-- Check a whole number that is written as a text. -/
def checkIntegerText (place : List Text) (text : Text) : Checked Int :=
  if isOverlong text then
    Checked.complain place .hugeInteger
  else
    match ((dropPlus (Text.dropAround isPadding text)).bind dropLeadingZeros).map fun text =>
        Numeral.integer (dropFraction text) with
    | some (.ok number) => .ok number
    | _ => Checked.complain place .integerText

/-- Check a whole number that is given as a real one. -/
def checkIntegerReal (place : List Text) (number : Binary64) : Checked Int :=
  match number with
  | .nan => Checked.complain place .infinite
  | .infinite _ => Checked.complain place .infinite
  | number =>
    match number.toInt? with
    | none => Checked.complain place .fraction
    | some whole =>
      if whole.natAbs < Nat.pow 2 63 then .ok whole else Checked.complain place .hugeInteger

/-- Check a whole number. -/
def checkInteger (place : List Text) : Datum → Checked Int
  | .atom (.boolean truth) => .ok (if truth then 1 else 0)
  | .atom (.integer number) => .ok number
  | .atom (.real number) => checkIntegerReal place number
  | .atom (.indefinite _) => checkIntegerReal place .nan
  | .atom (.string text) =>
    match text.text? with
    | some text => checkIntegerText place text
    | none => Checked.complain place .undecodableText
  | .atom (.bytes octets) =>
    match Utf8.decode octets with
    | .ok text => checkIntegerText place text
    | .error _ => Checked.complain place .integerText
  | _ => Checked.complain place .integer

/-! ## Known arguments -/

/-- The three flaws of a value that is no text, no whole number and no number. -/
def noArgument
    {α : Type}
    (place : List Text)
    (ofText ofInteger ofNumber : Complaint) :
    Checked α :=
  .error
    [ { place := place ++ ["str".toList], complaint := ofText },
      { place := place ++ ["int".toList], complaint := ofInteger },
      { place := place ++ ["float".toList], complaint := ofNumber } ]

/-- Check the value of an argument: a text, a whole number or a number. -/
def checkArgument (place : List Text) : Datum → Checked Value
  | .atom (.string text) => .ok (.text text.joined)
  | .atom (.integer number) => .ok (.integer number)
  | .atom (.real number) => .ok (.real number)
  | .atom (.indefinite _) => .ok (.real .nan)
  | .atom (.boolean truth) => .ok (.integer (if truth then 1 else 0))
  | .atom (.bytes octets) =>
    match Utf8.decode octets with
    | .ok text => .ok (.text text)
    | .error _ => noArgument place .undecodableText .integerText .numberText
  | _ => noArgument place .text .integer .number

/-- A whole number in the place of a flaw; one that is too long to be written has no text. -/
def integerKeyText (number : Int) : Text :=
  if Numeral.isWritable number then
    Text.ofInt number
  else
    "<unprintable int object>"

/-- A key in the place of a flaw. -/
def keyText : Atom → Text
  | .null => "None"
  | .boolean truth => if truth then ['1'] else ['0']
  | .integer number => integerKeyText number
  | .real number => number.render
  | .indefinite _ => Binary64.nan.render
  | .string text => text.replaced
  | .bytes octets => Value.quotedBytes octets
  | .moment moment => moment.quoted

/-- Check the name of an argument. -/
def checkKey (place : List Text) (key : Atom) : Checked CodeText :=
  checkCodeText (place ++ [keyText key, "[key]".toList]) (.atom key)

/-- Store the value of a name; a name that is present keeps its place. -/
def storeArgument (name : CodeText) (value : Value) :
    List (CodeText × Value) → List (CodeText × Value)
  | [] => [(name, value)]
  | (other, present) :: entries =>
    if other = name then
      (other, value) :: entries
    else
      (other, present) :: storeArgument name value entries

/-- Arguments by name, given with repetitions. -/
def storeArguments (entries : List (CodeText × Value)) : List (CodeText × Value) :=
  entries.foldl (fun entries (name, value) => storeArgument name value entries) []

/-- Arguments by name in lower case. -/
def lowerNames (entries : List (CodeText × Value)) : List (CodeText × Value) :=
  storeArguments (entries.map fun (name, value) => (name.lower, value))

/-- An entry whose key is an atom, as all keys of data are. -/
def checkEntry (place : List Text) : Datum × Datum → Checked (CodeText × Value)
  | (.atom key, value) =>
    Checked.both (checkKey place key) (checkArgument (place ++ [keyText key]) value)
  | _ => Checked.complain place .dictionary

/-- Check known arguments. -/
def checkArguments (place : List Text) : Datum → Checked (List (CodeText × Value))
  | .mapping entries =>
    (Checked.all (entries.map (checkEntry place))).map
      fun entries => lowerNames (storeArguments entries)
  | _ => Checked.complain place .dictionary

/-! ## Sections -/

/-- The datum of a field. -/
def field? (name : String) : List (Datum × Datum) → Option Datum
  | [] => none
  | (key, value) :: entries =>
    match key with
    | .atom (.string text) =>
      if text = CodeText.ofText name then some value else field? name entries
    | _ => field? name entries

/-- Check a field, unless it is missing. -/
def checkField
    {α : Type}
    (place : List Text)
    (name : String)
    (default : α)
    (check : List Text → Datum → Checked α)
    (entries : List (Datum × Datum)) :
    Checked α :=
  match field? name entries with
  | none => .ok default
  | some datum => check (place ++ [name.toList]) datum

/-- Check that a datum is a section. -/
def checkSection
    {α : Type}
    (kind : String)
    (check : List Text → List (Datum × Datum) → Checked α)
    (place : List Text) :
    Datum → Checked α
  | .mapping entries => check place entries
  | _ => Checked.complain place (.group kind.toList)

/-- Check a text, and then what it says. -/
def checkTextWith
    {α : Type}
    (check : List Text → Text → Checked α)
    (place : List Text)
    (datum : Datum) :
    Checked α :=
  match checkText place datum with
  | .ok text => check place text
  | .error flaws => .error flaws

/-- Check a number of records. -/
def checkCountDatum (place : List Text) (datum : Datum) : Checked Int :=
  match checkInteger place datum with
  | .ok count => checkCount place count
  | .error flaws => .error flaws

/-- Check a log level, which must be a text and nothing like it. -/
def checkLevelDatum (place : List Text) : Datum → Checked LogLevel
  | .atom (.string text) =>
    match text.text? with
    | some name => checkLevel place name
    | none => Checked.complain place .undecodableText
  | _ => Checked.complain place .level

/-- The defaults of all fields. -/
def defaults : Configuration :=
  {}

/-- Check the section about the database. -/
def checkDatabase (place : List Text) (entries : List (Datum × Datum)) : Checked Text :=
  checkField place "dsn" defaults.address (checkTextWith checkAddress) entries

/-- What the section about source files says. -/
structure Sources where
  root : Text := defaults.root
  callerFile : Option Text := defaults.callerFile
  ignoreFile : Text := defaults.ignoreFile
  patterns : List Text := defaults.patterns

/-- Check the section about source files. -/
def checkSources (place : List Text) (entries : List (Datum × Datum)) : Checked Sources :=
  (Checked.both
    (checkField place "root" defaults.root checkText entries)
    (Checked.both
      (checkField place "caller_file" defaults.callerFile checkOptionalText entries)
      (Checked.both
        (checkField place "ignore_file" defaults.ignoreFile checkText entries)
        (checkField place "patterns" defaults.patterns checkTexts entries)))).map
          fun (root, callerFile, ignoreFile, patterns) =>
            { root, callerFile, ignoreFile, patterns }

/-- Check the section about fixture records. -/
def checkSeeding
    (place : List Text)
    (entries : List (Datum × Datum)) :
    Checked (Int × List (CodeText × Value)) :=
  Checked.both
    (checkField place "record_count" defaults.recordCount checkCountDatum entries)
    (checkField place "known_args" defaults.arguments checkArguments entries)

/-- Check the section about the log. -/
def checkLogging (place : List Text) (entries : List (Datum × Datum)) : Checked (LogLevel × Text) :=
  Checked.both
    (checkField place "level" defaults.level checkLevelDatum entries)
    (checkField place "format" defaults.format checkText entries)

/-- Check the fields and sections of a configuration. -/
def checkFields (place : List Text) (entries : List (Datum × Datum)) : Checked Configuration :=
  (Checked.both
    (checkField place "environment" defaults.environment checkText entries)
    (Checked.both
      (checkField place "database" defaults.address
        (checkSection "DatabaseConfig" checkDatabase) entries)
      (Checked.both
        (checkField place "sources" {} (checkSection "SourcesConfig" checkSources) entries)
        (Checked.both
          (checkField place "seeding" (defaults.recordCount, defaults.arguments)
            (checkSection "SeedingConfig" checkSeeding) entries)
          (checkField place "logging" (defaults.level, defaults.format)
            (checkSection "LoggingConfig" checkLogging) entries))))).map
              fun (environment, address, sources, seeding, logging) =>
                { environment
                  address
                  root := sources.root
                  callerFile := sources.callerFile
                  ignoreFile := sources.ignoreFile
                  patterns := sources.patterns
                  recordCount := seeding.1
                  arguments := seeding.2
                  level := logging.1
                  format := logging.2 }

/-- How many levels of data a configuration has: sections, their fields, and members of these. -/
def depth : Nat :=
  4

/-- Check a configuration. -/
def checkConfiguration (datum : Datum) : Checked Configuration :=
  checkSection (String.ofList Configuration.modelName) checkFields [] datum

end ProcedureAudit.Config
