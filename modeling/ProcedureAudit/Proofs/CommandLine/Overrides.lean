import ProcedureAudit.Proofs.CommandLine.Run
import ProcedureAudit.Proofs.Config.Revalidation

/-!
# Values of the command line

A value of the command line replaces its own field of the configuration and nothing else.  Whatever
was loaded and whatever is given, the configuration of a run is accepted, or there is none because
of a value that no accepted configuration has.
-/

namespace ProcedureAudit.CommandLine

/-! ## What values of the command line should do -/

/-- A field after a text was given for it, or none: only a text that is not empty replaces it. -/
structure Replaced
    {Field : Type}
    (ofText : Text → Field)
    (given : Option Text)
    (present final : Field) : Prop where
  put : ∀ text, given = some text → text ≠ [] → final = ofText text
  kept : (∀ text, given = some text → text = []) → final = present

/-- A configuration with the values of the command line in it, and otherwise as it was loaded. -/
structure Overridden (loaded : Configuration) (overrides : Overrides) (final : Configuration) :
    Prop where
  address : Replaced id overrides.address loaded.address final.address
  root : Replaced id overrides.root loaded.root final.root
  callerFile : Replaced some overrides.callerFile loaded.callerFile final.callerFile
  ignoreFile : Replaced id overrides.ignoreFile loaded.ignoreFile final.ignoreFile
  counted : ∀ given, overrides.recordCount = some given → given = some final.recordCount
  uncounted : overrides.recordCount = none → final.recordCount = loaded.recordCount
  others :
    final =
      { loaded with
        address := final.address
        root := final.root
        callerFile := final.callerFile
        ignoreFile := final.ignoreFile
        recordCount := final.recordCount }

/-- Values of the command line that no accepted configuration has. -/
def Unfit (overrides : Overrides) : Prop :=
  (∃ address, overrides.address = some address ∧ address ≠ [] ∧
      ¬ Config.addressScheme <+: address) ∨
    ∃ given, overrides.recordCount = some given ∧
      ∀ count, given = some count → ¬ (1 ≤ count ∧ count ≤ 10000)

/-! ## Single fields -/

theorem replaced_match
    {Field : Type}
    (ofText : Text → Field)
    (given : Option Text)
    (present : Field) :
    Replaced ofText given present
      (match given with
        | some [] => present
        | some text => ofText text
        | none => present) := by
  rcases given with _ | _ | ⟨first, rest⟩
  · exact ⟨fun _ => nofun, fun _ => rfl⟩
  · exact ⟨fun text same filled => absurd (Option.some.inj same).symm filled, fun _ => rfl⟩
  · exact
      ⟨fun text same _ => congrArg ofText (Option.some.inj same),
        fun empty => absurd (empty _ rfl) nofun⟩

theorem replaced_choose (given : Option Text) (present : Text) :
    Replaced id given present (Overrides.choose given present) :=
  replaced_match id given present

/-- An address that replaces one with the scheme has the scheme unless it is unfit. -/
theorem scheme_choose_iff
    {given : Option Text}
    {present : Text}
    (scheme : Config.addressScheme <+: present) :
    Config.addressScheme <+: Overrides.choose given present ↔
      ¬ ∃ address, given = some address ∧ address ≠ [] ∧ ¬ Config.addressScheme <+: address := by
  have replaced := replaced_choose given present
  constructor
  · rintro kept ⟨address, rfl, filled, unlike⟩
    rw [replaced.put address rfl filled] at kept
    exact unlike kept
  · intro fit
    by_cases blank : ∀ text, given = some text → text = []
    · exact (replaced.kept blank).symm ▸ scheme
    · simp only [not_forall] at blank
      rcases blank with ⟨text, same, filled⟩
      rw [replaced.put text same filled]
      by_contra unlike
      exact fit ⟨text, same, filled, unlike⟩

/-- The number of records that is let through is the one that was given, if any was. -/
theorem checkCountDatum_countDatum_iff
    {place : List Text}
    {overrides : Overrides}
    {present count : Int} :
    Config.checkCountDatum place (overrides.countDatum present) = .ok count ↔
      overrides.recordCount.getD (some present) = some count ∧ Config.InRange count := by
  rw [Overrides.countDatum]
  rcases overrides.recordCount with _ | _ | given
  · rw [Config.checkCountDatum_integer, Config.checkCount_eq_ok_iff, Option.getD_none,
      Option.some.injEq]
    exact and_congr_right fun same => same ▸ Iff.rfl
  · exact iff_of_false nofun nofun
  · rw [Config.checkCountDatum_integer, Config.checkCount_eq_ok_iff, Option.getD_some,
      Option.some.injEq]
    exact and_congr_right fun same => same ▸ Iff.rfl

/-! ## Replacing fields of a configuration -/

section Replacing

variable {loaded : Configuration} (accepted : loaded.Accepted) (overrides : Overrides)

include accepted

/-- What comes of replacing fields, in terms of the fields that are checked. -/
theorem override_eq_ok_iff {final : Configuration} :
    loaded.override overrides = .ok final ↔
      Config.addressScheme <+: Overrides.choose overrides.address loaded.address ∧
        ∃ count, overrides.recordCount.getD (some loaded.recordCount) = some count ∧
          Config.InRange count ∧
          { loaded.replaceTexts overrides with recordCount := count } = final := by
  rw [accepted.override_eq, Config.Checked.map_eq_ok_iff]
  constructor
  · rintro ⟨⟨address, count⟩, checked, rfl⟩
    rcases Config.Checked.both_eq_ok_iff.1 checked with ⟨addressed, counted⟩
    obtain ⟨rfl, scheme⟩ := Config.checkAddress_eq_ok_iff.1 addressed
    rcases checkCountDatum_countDatum_iff.1 counted with ⟨given, inRange⟩
    exact ⟨scheme, count, given, inRange, rfl⟩
  · rintro ⟨scheme, count, given, inRange, rfl⟩
    refine ⟨(Overrides.choose overrides.address loaded.address, count), ?_, rfl⟩
    exact Config.Checked.both_eq_ok_iff.2
      ⟨Config.checkAddress_eq_ok_iff.2 ⟨rfl, scheme⟩,
        checkCountDatum_countDatum_iff.2 ⟨given, inRange⟩⟩

theorem overridden_of_override
    {final : Configuration}
    (replaced : loaded.override overrides = .ok final) :
    Overridden loaded overrides final := by
  obtain ⟨-, count, given, -, rfl⟩ := (override_eq_ok_iff accepted overrides).1 replaced
  refine ⟨replaced_choose _ _, replaced_choose _ _, replaced_match some _ _, replaced_choose _ _,
    ?_, ?_, rfl⟩
  · intro number same
    rwa [same, Option.getD_some] at given
  · intro missing
    rw [missing, Option.getD_none] at given
    exact (Option.some.inj given).symm

/-- Only unfit values keep fields from being replaced. -/
theorem exists_override_iff :
    (∃ final, loaded.override overrides = .ok final) ↔ ¬ Unfit overrides := by
  have counted :
      (∃ count, overrides.recordCount.getD (some loaded.recordCount) = some count ∧
          Config.InRange count) ↔
        ¬ ∃ given, overrides.recordCount = some given ∧
          ∀ count, given = some count → ¬ (1 ≤ count ∧ count ≤ 10000) := by
    rcases overrides.recordCount with _ | given
    · exact iff_of_true ⟨_, rfl, accepted.count⟩ fun ⟨_, given, _⟩ => nomatch given
    · simp [Config.InRange, Config.leastCount, Config.greatestCount]
  rw [Unfit, not_or, ← scheme_choose_iff accepted.scheme, ← counted]
  constructor
  · rintro ⟨final, replaced⟩
    rcases (override_eq_ok_iff accepted overrides).1 replaced with
      ⟨scheme, count, given, inRange, -⟩
    exact ⟨scheme, count, given, inRange⟩
  · rintro ⟨scheme, count, given, inRange⟩
    exact ⟨_, (override_eq_ok_iff accepted overrides).2 ⟨scheme, count, given, inRange, rfl⟩⟩

end Replacing

/-! ## Configurations of a run -/

theorem configure_of_load
    {surroundings : Surroundings}
    {config : Text}
    {loaded : Configuration}
    (isLoaded :
      Configuration.load surroundings.workspace surroundings.environment config = .ok loaded)
    (overrides : Overrides) :
    configure surroundings config overrides =
      (loaded.override overrides).mapError fun flaws =>
        .config (.flawed Configuration.modelName flaws) := by
  rw [configure, isLoaded]

/--
Once a configuration was loaded, the values of the command line either have flaws, which is so
exactly if one of them is unfit, or they replace their own fields and leave all others as they
were.  What comes out is always accepted, and it is the loaded configuration if no value was given:
checking the data of a configuration again changes nothing.
-/
theorem configure_keeps_accepted
    {surroundings : Surroundings}
    {config : Text}
    {loaded : Configuration}
    (isLoaded :
      Configuration.load surroundings.workspace surroundings.environment config = .ok loaded)
    (overrides : Overrides) :
    ((∃ flaws, configure surroundings config overrides =
          .error (.config (.flawed Configuration.modelName flaws))) ↔
        Unfit overrides) ∧
      (¬ Unfit overrides →
        ∃ final, configure surroundings config overrides = .ok final ∧
          Overridden loaded overrides final) ∧
      (∀ final, configure surroundings config overrides = .ok final →
        (1 ≤ final.recordCount ∧ final.recordCount ≤ 10000) ∧
          "mysql://".toList <+: final.address ∧
          final.level.name ∈
            ["DEBUG".toList, "INFO".toList, "WARNING".toList, "ERROR".toList] ∧
          ∀ entry ∈ final.arguments, entry.1.lower = entry.1) ∧
      configure surroundings config {} = .ok loaded ∧
      Config.checkConfiguration (loaded.datum (.atom (.integer loaded.recordCount))) =
        .ok loaded := by
  have accepted := Configuration.accepted_of_load isLoaded
  have again := accepted.checkConfiguration_datum_self
  have possible := exists_override_iff accepted overrides
  refine ⟨?_, fun fit => ?_, fun final configured => ?_, ?_, again⟩
  · rw [configure_of_load isLoaded]
    cases replaced : loaded.override overrides with
    | ok final =>
        exact iff_of_false (fun ⟨_, same⟩ => nomatch same) (possible.1 ⟨final, replaced⟩)
    | error flaws =>
        refine iff_of_true ⟨flaws, rfl⟩ (not_not.1 fun fit => ?_)
        rcases possible.2 fit with ⟨final, same⟩
        exact nomatch replaced.symm.trans same
  · rcases possible.2 fit with ⟨final, replaced⟩
    refine ⟨final, ?_, overridden_of_override accepted overrides replaced⟩
    rw [configure_of_load isLoaded, mapError_eq_ok_iff, replaced]
  · have kept := accepted_of_configure configured
    refine ⟨kept.count, kept.scheme, ?_, kept.arguments.lowered⟩
    cases final.level <;> decide
  · rw [configure_of_load isLoaded, mapError_eq_ok_iff]
    exact again

/-- A workspace with a configuration file, whose level and argument are not in their final case. -/
def configuredSurroundings (server : Server) : Surroundings :=
  { smallSurroundings server with
    workspace.top :=
      .directory
        [ ("c.yaml".toList,
            .file
              ("logging:\n  level: info\nseeding:\n  known_args:\n    UID: 1\n".toList.map
                fun character => .ofNat character.toNat)) ] }

/-- What the configuration file says. -/
def informative : Configuration where
  arguments := [(CodeText.ofText "uid".toList, .integer 1)]
  level := .info

/-- Five records, and an address that replaces nothing. -/
def fiveRecords : Overrides where
  address := some []
  recordCount := some (some 5)

theorem configure_keeps_accepted_informative :
    let surroundings := configuredSurroundings (scanningServer 3)
    Configuration.load surroundings.workspace surroundings.environment "c.yaml".toList =
        .ok informative ∧
      (∃ flaws, configure surroundings "c.yaml".toList { recordCount := some (some 0) } =
        .error (.config (.flawed Configuration.modelName flaws))) ∧
      ∃ final, configure surroundings "c.yaml".toList fiveRecords = .ok final ∧
        Overridden informative fiveRecords final := by
  have isLoaded :
      Configuration.load (configuredSurroundings (scanningServer 3)).workspace
          (configuredSurroundings (scanningServer 3)).environment "c.yaml".toList =
        .ok informative := by
    decide +kernel
  have noRecords : Unfit { recordCount := some (some 0) } := by
    refine Or.inr ⟨some 0, rfl, fun count same => ?_⟩
    obtain rfl := Option.some.inj same
    decide
  have fit : ¬ Unfit fiveRecords := by
    rintro (⟨address, same, filled, -⟩ | ⟨given, same, unfit⟩)
    · exact filled (Option.some.inj same).symm
    · exact unfit 5 (Option.some.inj same).symm (by decide)
  exact
    ⟨isLoaded, (configure_keeps_accepted isLoaded _).1.2 noRecords,
      (configure_keeps_accepted isLoaded _).2.1 fit⟩

end ProcedureAudit.CommandLine
