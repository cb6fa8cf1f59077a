import ProcedureAudit.Config.Flaw
import ProcedureAudit.Config.Settings
import ProcedureAudit.Text.CodePoint
import ProcedureAudit.Value

/-!
# Configurations

A configuration says what a run works on.  Two of its fields are restricted: the address of the
database begins with its scheme, and the number of records lies in a range.  This module also has
what can be done with a configuration as such: refusing production deployments, and hiding the
password for the log.
-/

namespace ProcedureAudit

/-- How much is logged. -/
inductive LogLevel where
  | debug
  | info
  | warning
  | error
deriving DecidableEq, Repr

/-- The name of a level. -/
def LogLevel.name : LogLevel → Text
  | .debug => "DEBUG"
  | .info => "INFO"
  | .warning => "WARNING"
  | .error => "ERROR"

/-- The levels, in increasing order of gravity. -/
def LogLevel.levels : List LogLevel :=
  [.debug, .info, .warning, .error]

/-- What a run works on. -/
structure Configuration where
  environment : Text := []
  address : Text := Settings.defaultAddress
  root : Text := "."
  callerFile : Option Text := none
  ignoreFile : Text := Settings.defaultIgnoreFile
  patterns : List Text := [Settings.defaultPattern.toList]
  recordCount : Int := 100
  /-- Fixed values of arguments, by name in lower case. -/
  arguments : List (CodeText × Value) := []
  level : LogLevel := .warning
  format : Text := "%(asctime)s %(levelname)s %(name)s: %(message)s"
deriving DecidableEq, Repr

namespace Config

/-! ## Restricted fields -/

/-- The scheme with which an address begins. -/
def addressScheme : Text :=
  "mysql://"

/-- The least number of records. -/
def leastCount : Int :=
  1

/-- The greatest number of records. -/
def greatestCount : Int :=
  10000

/-- Check the address of a database. -/
def checkAddress (place : List Text) (address : Text) : Checked Text :=
  if Text.beginsWith addressScheme address then
    .ok address
  else
    Checked.complain place .addressScheme

/-- Check a number of records. -/
def checkCount (place : List Text) (count : Int) : Checked Int :=
  if greatestCount < count then
    Checked.complain place .tooMany
  else if count < leastCount then
    Checked.complain place .tooFew
  else
    .ok count

/-- The capital letter of which a letter of a level may be the small form. -/
def capital (character : Char) : Char :=
  if Text.isSmall character then
    Char.ofNat (character.toNat - 32)
  else if character = 'ı' then
    'I'
  else
    character

/-- The level with a name in any letter case. -/
def level? (name : Text) : Option LogLevel :=
  LogLevel.levels.find? fun level => level.name = name.map capital

/-- Check the name of a level. -/
def checkLevel (place : List Text) (name : Text) : Checked LogLevel :=
  match level? name with
  | some level => .ok level
  | none => Checked.complain place .level

end Config

/-- Fields to replace; empty texts replace nothing. -/
structure Overrides where
  address : Option Text := none
  root : Option Text := none
  callerFile : Option Text := none
  ignoreFile : Option Text := none
  /-- The number of records, or that one is meant to be given but is missing. -/
  recordCount : Option (Option Int) := none
deriving DecidableEq, Repr

/-- A text that is given and not empty, or another one. -/
def Overrides.choose (given : Option Text) (present : Text) : Text :=
  match given with
  | some [] => present
  | some text => text
  | none => present

namespace Configuration

/-- The name under which flaws of a whole configuration are reported. -/
def modelName : Text :=
  "ExplainConfig"

/-- The fixed values of arguments, by name as a text. -/
def knownArguments (configuration : Configuration) : List (Text × Value) :=
  configuration.arguments.map fun (name, value) => (name.joined, value)

/-- Whether a deployment is named as one in production. -/
def namesProduction (name : Text) : Bool :=
  (Text.dropKeyword? "prod".toList name).isSome

/-- Whether the configuration or the environment is for production. -/
def isProduction (configuration : Configuration) (environment : Environment) : Bool :=
  namesProduction configuration.environment ||
    namesProduction (Settings.deployment environment)

/-- The word about production deployments. -/
def productionMessage : Text :=
  "Production environment detected, aborting."

/-- The text before the first `://` and the text after it, which is empty if there is none. -/
def splitScheme (text : Text) : Text × Text :=
  (Text.splitAtFirst? "://".toList text).getD (text, [])

/-- An address without its password. -/
def redactAddress (address : Text) : Text :=
  match Text.splitAtLast? '@' address with
  | none => address
  | some (credentials, place) =>
    let (scheme, user) := splitScheme credentials
    if ':' ∈ user then
      scheme ++ "://".toList ++ user.takeWhile (· ≠ ':') ++ ":***@".toList ++ place
    else
      address

/-- The configuration for the log, without the password. -/
def redacted (configuration : Configuration) : Configuration :=
  { configuration with address := redactAddress configuration.address }

/-- Whether the configuration can be written to the log: no whole number has too many digits. -/
def isWritable (configuration : Configuration) : Bool :=
  configuration.knownArguments.all fun (_, value) =>
    match value with
    | .integer number => Numeral.isWritable number
    | _ => true

end Configuration

end ProcedureAudit
