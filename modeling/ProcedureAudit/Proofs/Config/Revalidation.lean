import ProcedureAudit.Proofs.Config.Acceptance

/-!
# Configurations that are checked again

A configuration that was accepted, turned into data and checked again comes out as it was.  So if
some of its texts and the number of records were replaced before, only the check of the address and
that of the number can fail, and everything else is let through unchanged.
-/

namespace ProcedureAudit

open Yaml (Datum)

namespace Config

/-! ## Results of which one is known -/

namespace Checked

variable {First Second : Type}

theorem both_ok_left (first : First) (second : Checked Second) :
    both (.ok first) second = second.map fun second => (first, second) := by
  cases second <;> rfl

theorem both_ok_right (first : Checked First) (second : Second) :
    both first (.ok second) = first.map fun first => (first, second) := by
  cases first <;> rfl

end Checked

/-! ## Fields of a section -/

section Fields

variable {Result : Type} {default : Result} {check : List Text → Datum → Checked Result}
variable {fields : List (String × Datum)} {name : String} {datum : Datum}

theorem checkField_self (place : List Text) :
    checkField place name default check (entriesOf ((name, datum) :: fields)) =
      check (place ++ [name.toList]) datum := by
  have found : field? name (entriesOf ((name, datum) :: fields)) = some datum :=
    if_pos rfl
  rw [checkField, found]

theorem checkField_of_ne
    (place : List Text)
    {other : String}
    (differs : other ≠ name) :
    checkField place name default check (entriesOf ((other, datum) :: fields)) =
      checkField place name default check (entriesOf fields) := by
  have passed : field? name (entriesOf ((other, datum) :: fields)) =
      field? name (entriesOf fields) :=
    if_neg fun same => differs (String.toList_inj.1 (CodeText.ofText_inj.1 same))
  rw [checkField, passed]
  rfl

end Fields

/-! ## Data that are checked again -/

section Again

variable (place : List Text)

theorem checkText_textDatum (text : Text) : checkText place (textDatum text) = .ok text :=
  congrArg Except.ok (CodeText.joined_ofText text)

theorem checkOptionalText_optionalTextDatum (text : Option Text) :
    checkOptionalText place (optionalTextDatum text) = .ok text := by
  cases text with
  | none => rfl
  | some text => exact congrArg (Except.map some) (checkText_textDatum place text)

theorem checkTextsFrom_map_textDatum (number : Nat) (texts : List Text) :
    checkTextsFrom place number (texts.map textDatum) = texts.map .ok := by
  induction texts generalizing number with
  | nil => rfl
  | cons text texts induction =>
      rw [List.map_cons, checkTextsFrom, checkText_textDatum, induction, List.map_cons]

theorem checkTexts_sequence (texts : List Text) :
    checkTexts place (.sequence (texts.map textDatum)) = .ok texts :=
  Checked.all_eq_ok_iff.2 (checkTextsFrom_map_textDatum place 0 texts)

theorem checkTextWith_textDatum
    {Result : Type}
    (check : List Text → Text → Checked Result)
    (text : Text) :
    checkTextWith check place (textDatum text) = check place text := by
  rw [checkTextWith, checkText_textDatum]

theorem checkLevelDatum_textDatum (level : LogLevel) :
    checkLevelDatum place (textDatum level.name) = .ok level := by
  rw [textDatum, checkLevelDatum, CodeText.text?_ofText]
  cases level <;> rfl

theorem checkArguments_of_lawful
    {arguments : List (CodeText × Value)}
    (lawful : LawfulArguments arguments) :
    checkArguments place (argumentsDatum arguments) = .ok arguments := by
  rw [checkArguments_argumentsDatum lawful.distinct lawful.valued, lawful.lowerNames_eq_self]

end Again

/-! ## Sections that are checked again -/

section Sections

variable (place : List Text)

theorem checkSection_sectionDatum
    {Result : Type}
    (kind : String)
    (check : List Text → List (Datum × Datum) → Checked Result)
    (fields : List (String × Datum)) :
    checkSection kind check place (sectionDatum fields) = check place (entriesOf fields) :=
  rfl

theorem checkDatabase_entriesOf (address : Text) :
    checkDatabase place (entriesOf [("dsn", textDatum address)]) =
      checkAddress (place ++ ["dsn".toList]) address := by
  rw [checkDatabase, checkField_self, checkTextWith_textDatum]

theorem checkSources_entriesOf (sources : Sources) :
    checkSources place
        (entriesOf
          [ ("root", textDatum sources.root),
            ("caller_file", optionalTextDatum sources.callerFile),
            ("ignore_file", textDatum sources.ignoreFile),
            ("patterns", .sequence (sources.patterns.map textDatum)) ]) =
      .ok sources := by
  rw [checkSources, checkField_self, checkText_textDatum]
  rw [checkField_of_ne place (by decide), checkField_self, checkOptionalText_optionalTextDatum]
  rw [checkField_of_ne place (by decide), checkField_of_ne place (by decide), checkField_self,
    checkText_textDatum]
  rw [checkField_of_ne place (by decide), checkField_of_ne place (by decide),
    checkField_of_ne place (by decide), checkField_self, checkTexts_sequence]
  rfl

theorem checkSeeding_entriesOf
    {arguments : List (CodeText × Value)}
    (lawful : LawfulArguments arguments)
    (recordCount : Datum) :
    checkSeeding place
        (entriesOf [("record_count", recordCount), ("known_args", argumentsDatum arguments)]) =
      (checkCountDatum (place ++ ["record_count".toList]) recordCount).map
        fun count => (count, arguments) := by
  rw [checkSeeding, checkField_self, checkField_of_ne place (by decide), checkField_self,
    checkArguments_of_lawful _ lawful, Checked.both_ok_right]

theorem checkLogging_entriesOf (level : LogLevel) (format : Text) :
    checkLogging place (entriesOf [("level", textDatum level.name), ("format", textDatum format)]) =
      .ok (level, format) := by
  rw [checkLogging, checkField_self, checkLevelDatum_textDatum, checkField_of_ne place (by decide),
    checkField_self, checkText_textDatum]
  rfl

end Sections

/-! ## Configurations that are checked again -/

/-- Once its arguments were checked, only the address and the number of records can be flawed. -/
theorem checkConfiguration_datum
    {configuration : Configuration}
    (lawful : LawfulArguments configuration.arguments)
    (recordCount : Datum) :
    checkConfiguration (configuration.datum recordCount) =
      (Checked.both
        (checkAddress ["database".toList, "dsn".toList] configuration.address)
        (checkCountDatum ["seeding".toList, "record_count".toList] recordCount)).map
          fun (address, recordCount) => { configuration with address, recordCount } := by
  -- The fields are read one by one; each is found after those that stand before it.
  rw [checkConfiguration, Configuration.datum, checkSection_sectionDatum, checkFields,
    checkField_self, checkText_textDatum]
  rw [checkField_of_ne [] (by decide), checkField_self, checkSection_sectionDatum,
    checkDatabase_entriesOf]
  rw [checkField_of_ne [] (by decide), checkField_of_ne [] (by decide), checkField_self,
    checkSection_sectionDatum,
    checkSources_entriesOf _ ⟨configuration.root, configuration.callerFile,
      configuration.ignoreFile, configuration.patterns⟩]
  rw [checkField_of_ne [] (by decide), checkField_of_ne [] (by decide),
    checkField_of_ne [] (by decide), checkField_self, checkSection_sectionDatum,
    checkSeeding_entriesOf _ lawful]
  rw [checkField_of_ne [] (by decide), checkField_of_ne [] (by decide),
    checkField_of_ne [] (by decide), checkField_of_ne [] (by decide), checkField_self,
    checkSection_sectionDatum, checkLogging_entriesOf]
  rw [Checked.both_ok_right, Checked.both_ok_left, Checked.both_ok_left]
  rw [List.nil_append, List.nil_append, List.singleton_append, List.singleton_append]
  cases checkAddress ["database".toList, "dsn".toList] configuration.address <;>
    cases checkCountDatum ["seeding".toList, "record_count".toList] recordCount <;>
    rfl

theorem checkCountDatum_integer (place : List Text) (count : Int) :
    checkCountDatum place (.atom (.integer count)) = checkCount place count :=
  rfl

end Config

namespace Configuration

section Accepted

variable {configuration : Configuration} (accepted : configuration.Accepted)

include accepted

/-- An accepted configuration comes out of a second check as it was. -/
theorem Accepted.checkConfiguration_datum_self :
    Config.checkConfiguration
        (configuration.datum (.atom (.integer configuration.recordCount))) =
      .ok configuration := by
  rw [Config.checkConfiguration_datum accepted.arguments, Config.checkCountDatum_integer,
    Config.checkAddress_eq_ok_iff.2 ⟨rfl, accepted.scheme⟩,
    Config.checkCount_eq_ok_iff.2 ⟨rfl, accepted.count⟩]
  rfl

/-- Replacing fields fails if the address or the number of records does, and never otherwise. -/
theorem Accepted.override_eq (overrides : Overrides) :
    configuration.override overrides =
      (Config.Checked.both
        (Config.checkAddress ["database".toList, "dsn".toList]
          (Overrides.choose overrides.address configuration.address))
        (Config.checkCountDatum ["seeding".toList, "record_count".toList]
          (overrides.countDatum configuration.recordCount))).map
            fun (address, recordCount) =>
              { configuration.replaceTexts overrides with address, recordCount } := by
  have lawful : Config.LawfulArguments (configuration.replaceTexts overrides).arguments :=
    accepted.arguments
  exact Config.checkConfiguration_datum lawful _

end Accepted

end Configuration

end ProcedureAudit
