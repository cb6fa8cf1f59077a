import ProcedureAudit.Config.Load
import ProcedureAudit.Proofs.Config.Arguments
import ProcedureAudit.Proofs.Database.Session
import ProcedureAudit.Proofs.Text.Basic

/-!
# Accepted configurations

Wherever a configuration comes from, its restricted fields have been checked: the address begins
with its scheme, the number of records lies in its range, and the known arguments have distinct
names in lower case.
-/

namespace ProcedureAudit

open Yaml (Datum)

/-- Whether a number of records lies in the range of such numbers. -/
def Config.InRange (count : Int) : Prop :=
  leastCount ≤ count ∧ count ≤ greatestCount

/-- What holds of every configuration that was checked. -/
structure Configuration.Accepted (configuration : Configuration) : Prop where
  scheme : Config.addressScheme <+: configuration.address
  count : Config.InRange configuration.recordCount
  arguments : Config.LawfulArguments configuration.arguments

namespace Config

/-! ## Checks of restricted fields -/

section Restricted

variable {place : List Text}

/-- An address is let through as it is, provided that it begins with the scheme. -/
theorem checkAddress_eq_ok_iff {address checked : Text} :
    checkAddress place address = .ok checked ↔ address = checked ∧ addressScheme <+: address := by
  rw [checkAddress]
  split
  · rename_i scheme
    rw [Except.ok.injEq, and_iff_left (Text.beginsWith_iff.1 scheme)]
  · rename_i unlike
    have unlike : ¬ addressScheme <+: address := fun scheme =>
      unlike (Text.beginsWith_iff.2 scheme)
    exact iff_of_false nofun fun same => unlike same.2

/-- A number of records is let through as it is, provided that it lies in the range. -/
theorem checkCount_eq_ok_iff {count checked : Int} :
    checkCount place count = .ok checked ↔ count = checked ∧ InRange count := by
  rw [checkCount, InRange]
  split
  · exact iff_of_false nofun fun same => by omega
  · split
    · exact iff_of_false nofun fun same => by omega
    · rw [Except.ok.injEq, and_iff_left]
      omega

end Restricted

/-! ## Fields and sections -/

section Fields

variable {Result : Type} {property : Result → Prop}
variable {place : List Text} {entries : List (Datum × Datum)}

/-- What holds of a default, and of everything that the check of a field lets through. -/
theorem holds_of_checkField
    {name : String}
    {default result : Result}
    {check : List Text → Datum → Checked Result}
    (ordinary : property default)
    (holds : ∀ place datum result, check place datum = .ok result → property result)
    (checked : checkField place name default check entries = .ok result) :
    property result := by
  unfold checkField at checked
  split at checked
  · exact Except.ok.inj checked ▸ ordinary
  · exact holds _ _ _ checked

theorem holds_of_checkSection
    {kind : String}
    {check : List Text → List (Datum × Datum) → Checked Result}
    (holds : ∀ place entries result, check place entries = .ok result → property result)
    (place : List Text)
    (datum : Datum)
    (result : Result)
    (checked : checkSection kind check place datum = .ok result) :
    property result := by
  unfold checkSection at checked
  split at checked
  · exact holds _ _ _ checked
  · contradiction

end Fields

/-! ## Configurations -/

theorem scheme_of_checkDatabase
    (place : List Text)
    (entries : List (Datum × Datum))
    (address : Text)
    (checked : checkDatabase place entries = .ok address) :
    addressScheme <+: address := by
  refine holds_of_checkField ⟨_, rfl⟩ (fun place datum address checked => ?_) checked
  unfold checkTextWith at checked
  split at checked
  · obtain ⟨rfl, scheme⟩ := checkAddress_eq_ok_iff.1 checked
    exact scheme
  · contradiction

theorem inRange_of_checkCountDatum
    (place : List Text)
    (datum : Datum)
    (count : Int)
    (checked : checkCountDatum place datum = .ok count) :
    InRange count := by
  unfold checkCountDatum at checked
  split at checked
  · obtain ⟨rfl, inRange⟩ := checkCount_eq_ok_iff.1 checked
    exact inRange
  · contradiction

/-- What the section about fixture records may say. -/
def LawfulSeeding (seeding : Int × List (CodeText × Value)) : Prop :=
  InRange seeding.1 ∧ LawfulArguments seeding.2

theorem lawfulSeeding_defaults : LawfulSeeding (defaults.recordCount, defaults.arguments) :=
  ⟨⟨by decide, by decide⟩, List.nodup_nil, fun _ => nofun, fun _ => nofun⟩

theorem lawfulSeeding_of_checkSeeding
    (place : List Text)
    (entries : List (Datum × Datum))
    (seeding : Int × List (CodeText × Value))
    (checked : checkSeeding place entries = .ok seeding) :
    LawfulSeeding seeding := by
  rcases Checked.both_eq_ok_iff.1 checked with ⟨count, arguments⟩
  exact
    ⟨holds_of_checkField lawfulSeeding_defaults.1 inRange_of_checkCountDatum count,
      holds_of_checkField lawfulSeeding_defaults.2
        (fun _ _ _ => lawfulArguments_of_checkArguments) arguments⟩

/-- A checked configuration is accepted, whatever the datum was. -/
theorem accepted_of_checkConfiguration
    {datum : Datum}
    {configuration : Configuration}
    (checked : checkConfiguration datum = .ok configuration) :
    configuration.Accepted := by
  refine holds_of_checkSection (fun place entries configuration checked => ?_) _ _ _ checked
  obtain ⟨⟨environment, address, sources, seeding, logging⟩, parts, rfl⟩ :=
    Checked.map_eq_ok_iff.1 checked
  rcases Checked.both_eq_ok_iff.1 parts with ⟨-, parts⟩
  rcases Checked.both_eq_ok_iff.1 parts with ⟨database, parts⟩
  rcases Checked.both_eq_ok_iff.1 parts with ⟨-, parts⟩
  rcases Checked.both_eq_ok_iff.1 parts with ⟨seeded, -⟩
  have lawful : LawfulSeeding seeding :=
    holds_of_checkField lawfulSeeding_defaults
      (holds_of_checkSection lawfulSeeding_of_checkSeeding) seeded
  have scheme : addressScheme <+: address :=
    holds_of_checkField ⟨_, rfl⟩ (holds_of_checkSection scheme_of_checkDatabase) database
  exact ⟨scheme, lawful.1, lawful.2⟩

end Config

namespace Configuration

/-- The defaults of all fields are accepted. -/
theorem accepted_default : Accepted {} :=
  ⟨⟨_, rfl⟩, Config.lawfulSeeding_defaults.1, Config.lawfulSeeding_defaults.2⟩

/-! ## Configurations that are loaded -/

theorem accepted_of_ofSettings
    {settings : Settings}
    {configuration : Configuration}
    (accepted : ofSettings settings = .ok configuration) :
    configuration.Accepted := by
  unfold ofSettings at accepted
  split at accepted
  · contradiction
  rename_i address addressed
  split at accepted
  · contradiction
  rename_i count counted
  split at accepted
  · contradiction
  obtain rfl := Except.ok.inj accepted
  obtain ⟨rfl, scheme⟩ := Config.checkAddress_eq_ok_iff.1 addressed
  obtain ⟨rfl, inRange⟩ := Config.checkCount_eq_ok_iff.1 counted
  exact ⟨scheme, inRange, Config.lawfulSeeding_defaults.2⟩

theorem accepted_of_ofFile
    {workspace : Workspace}
    {file : FilePath}
    {configuration : Configuration}
    (accepted : ofFile workspace file = .ok configuration) :
    configuration.Accepted := by
  unfold ofFile at accepted
  dsimp only at accepted
  repeat' split at accepted
  all_goals try contradiction
  exact Config.accepted_of_checkConfiguration (mapError_eq_ok_iff.1 accepted)

/-- A configuration that is loaded is accepted, from a file or from the environment. -/
theorem accepted_of_load
    {workspace : Workspace}
    {environment : Environment}
    {file : Text}
    {configuration : Configuration}
    (loaded : load workspace environment file = .ok configuration) :
    configuration.Accepted := by
  unfold load at loaded
  split at loaded
  · split at loaded
    · contradiction
    · exact accepted_of_ofSettings loaded
  · exact accepted_of_ofFile loaded

end Configuration

end ProcedureAudit
