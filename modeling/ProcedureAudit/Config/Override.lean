import ProcedureAudit.Config.Schema

/-!
# Configurations with replaced fields

Fields of a configuration can be replaced by values that nobody has checked.  So the configuration
is turned into data again afterwards, and checked like the data of a configuration file.
-/

namespace ProcedureAudit

open Yaml (Atom Datum)

namespace Config

/-! ## Configurations as data again -/

/-- A text as a datum. -/
def textDatum (text : Text) : Datum :=
  .atom (.string (CodeText.ofText text))

/-- A text that may be absent as a datum. -/
def optionalTextDatum : Option Text → Datum
  | none => .atom .null
  | some text => textDatum text

/-- The value of an argument as a datum. -/
def argumentDatum : Value → Datum
  | .null => .atom .null
  | .boolean truth => .atom (.boolean truth)
  | .integer number => .atom (.integer number)
  | .real number => .atom (.real number)
  | .text content => textDatum content
  | .bytes content => .atom (.bytes content)

/-- Known arguments as a datum. -/
def argumentsDatum (arguments : List (CodeText × Value)) : Datum :=
  .mapping (arguments.map fun (name, value) => (.atom (.string name), argumentDatum value))

/-- The entries that named data have in a section. -/
def entriesOf (fields : List (String × Datum)) : List (Datum × Datum) :=
  fields.map fun (name, datum) => (textDatum name, datum)

/-- A section that consists of named data. -/
def sectionDatum (fields : List (String × Datum)) : Datum :=
  .mapping (entriesOf fields)

end Config

/--
The number of records as a datum, after a number was put in its place.  In the place of a number
that is missing, there is a list without members.
-/
def Overrides.countDatum (overrides : Overrides) (present : Int) : Datum :=
  match overrides.recordCount with
  | none => .atom (.integer present)
  | some (some count) => .atom (.integer count)
  | some none => .sequence []

namespace Configuration

open Config (textDatum optionalTextDatum argumentsDatum sectionDatum)

/-- The data of a configuration; the number of records is given apart, since it may be none. -/
def datum (configuration : Configuration) (recordCount : Datum) : Datum :=
  sectionDatum
    [ ("environment", textDatum configuration.environment),
      ("database", sectionDatum [("dsn", textDatum configuration.address)]),
      ("sources",
        sectionDatum
          [ ("root", textDatum configuration.root),
            ("caller_file", optionalTextDatum configuration.callerFile),
            ("ignore_file", textDatum configuration.ignoreFile),
            ("patterns", .sequence (configuration.patterns.map textDatum)) ]),
      ("seeding",
        sectionDatum
          [ ("record_count", recordCount),
            ("known_args", argumentsDatum configuration.arguments) ]),
      ("logging",
        sectionDatum
          [ ("level", textDatum configuration.level.name),
            ("format", textDatum configuration.format) ]) ]

/-- Replace the fields that are texts; nothing is checked. -/
def replaceTexts (configuration : Configuration) (overrides : Overrides) : Configuration :=
  { configuration with
    address := Overrides.choose overrides.address configuration.address
    root := Overrides.choose overrides.root configuration.root
    callerFile :=
      match overrides.callerFile with
      | some [] => configuration.callerFile
      | some file => some file
      | none => configuration.callerFile
    ignoreFile := Overrides.choose overrides.ignoreFile configuration.ignoreFile }

/-- Replace fields, and check the whole configuration again. -/
def override
    (configuration : Configuration)
    (overrides : Overrides) :
    Config.Checked Configuration :=
  Config.checkConfiguration
    ((configuration.replaceTexts overrides).datum
      (overrides.countDatum configuration.recordCount))

end Configuration

end ProcedureAudit
