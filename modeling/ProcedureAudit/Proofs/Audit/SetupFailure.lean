import ProcedureAudit.Proofs.Audit.Course
import ProcedureAudit.Proofs.Config.Acceptance

/-!
# Failures of the setup

Before an audit has anything explained, it can fail because of the deployment, the skip list, the
connection or a fixture statement.  Most of these failures are reported as failures of the setup, as
all of them should be.  The exceptions are a skip list that is no text, an address that cannot be
taken apart, and faults of a connection that are neither of the database nor of the system.
-/

namespace ProcedureAudit

/-- Whether a failure is reported as one of the setup. -/
def Failure.isSetup : Failure → Bool
  | .production => true
  | .skipList (.unusable _ _) => true
  | .session (.unreachable _) => true
  | .session (.fault cause) => cause.category = .seeding
  | .seeding (.statement _) => true
  | .seeding (.stopped cause) => cause.category = .seeding
  | _ => false

namespace Fixture

open Audit (performIn)

/-- Steps over a connection fail with the first of their statements that fails. -/
theorem outcome_runSteps_of_answering
    {server : Server}
    {steps : List Step}
    {before : List Statement}
    {statement : Statement}
    {after : List Statement}
    {session : Session}
    {fault : Fault}
    (connected : session.connected = true)
    (split : statements steps = before ++ statement :: after)
    (answered : ∀ entry ∈ before.zipIdx session.statements,
      ∃ reply, server.answering entry.2 entry.1.request = .ok reply)
    (failed : server.answering (session.statements + before.length) statement.request =
      .error fault)
    (registry : Registry) :
    (runSteps (performIn server) steps registry session).outcome = .error (.fault fault) := by
  induction steps generalizing before session registry with
  | nil => exact absurd split.symm (List.append_ne_nil_of_right_ne_nil _ (List.cons_ne_nil _ _))
  | cons step steps induction =>
      cases step with
      | record name value => exact induction connected split answered failed _
      | execute first =>
          have parts : first :: statements steps = before ++ statement :: after := split
          rw [runSteps, performIn_of_connected connected]
          cases before with
          | nil =>
              obtain ⟨rfl, -⟩ := List.cons.inj parts
              rw [show server.answering session.statements first.request = .error fault from failed]
              rfl
          | cons earlier before =>
              obtain ⟨rfl, later⟩ := List.cons.inj parts
              rw [List.zipIdx_cons, List.forall_mem_cons] at answered
              rcases answered with ⟨⟨reply, answer⟩, answered⟩
              rw [show server.answering session.statements first.request = .ok reply from answer]
              refine @induction before (session.afterSending .count first.request) connected later
                answered ?_ _
              rw [← failed, List.length_cons, ← Nat.add_assoc, Nat.add_right_comm]
              rfl

/-- Steps over a connection fail for no other reason than a statement that fails. -/
theorem exists_answering_of_outcome_runSteps
    {server : Server}
    {steps : List Step}
    {session : Session}
    {registry : Registry}
    {problem : SessionProblem}
    (connected : session.connected = true)
    (failed : (runSteps (performIn server) steps registry session).outcome = .error problem) :
    ∃ before statement after fault,
      statements steps = before ++ statement :: after ∧
        (∀ entry ∈ before.zipIdx session.statements,
          ∃ reply, server.answering entry.2 entry.1.request = .ok reply) ∧
        server.answering (session.statements + before.length) statement.request =
          .error fault := by
  induction steps generalizing session registry with
  | nil => contradiction
  | cons step steps induction =>
      cases step with
      | record name value => exact induction connected failed
      | execute first =>
          rw [runSteps, performIn_of_connected connected] at failed
          cases answer : server.answering session.statements first.request with
          | error fault =>
              exact ⟨[], first, statements steps, fault, rfl, List.forall_mem_nil _, answer⟩
          | ok reply =>
              rw [answer] at failed
              have sent : (session.afterSending .count first.request).connected = true := connected
              rcases induction sent failed with
                ⟨before, statement, after, fault, split, answered, last⟩
              refine ⟨first :: before, statement, after, fault, congrArg (first :: ·) split, ?_, ?_⟩
              · rw [List.zipIdx_cons, List.forall_mem_cons]
                exact ⟨⟨reply, answer⟩, answered⟩
              · rw [← last, List.length_cons, ← Nat.add_assoc, Nat.add_right_comm]
                rfl

end Fixture

namespace Audit

/-! ## Audits that are prepared -/

/-- A harmless audit whose skip list was read goes on with the survey. -/
theorem outcome_of_readText
    {surroundings : Surroundings}
    {configuration : Configuration}
    {list : Text}
    (harmless : configuration.isProduction surroundings.environment = false)
    (read : surroundings.workspace.readText (FilePath.parse configuration.ignoreFile) = .ok list) :
    (run surroundings configuration).outcome =
      match (Survey.run surroundings.workspace configuration).outcome with
      | .error failure => .error failure
      | .ok survey =>
        (Session.within surroundings.server configuration.address Failure.session
          (seedAndExplain surroundings configuration survey (Routine.skippedNames list)) {}).1 := by
  rw [run, if_neg (by simp [harmless]), Routine.skippedNamesOfFile, read]
  cases surveyed : (Survey.run surroundings.workspace configuration).outcome <;>
    simp only [surveyed]

section Prepared

variable {surroundings : Surroundings} {configuration : Configuration}
variable (prepared : Prepared surroundings configuration)

include prepared

theorem Prepared.exists_survey :
    ∃ survey, (Survey.run surroundings.workspace configuration).outcome = .ok survey := by
  rcases prepared.catalog with ⟨catalog, built⟩
  have surveyed : (Survey.run surroundings.workspace configuration).outcome =
      Survey.ofCatalog surroundings.workspace configuration catalog := by
    simp only [Survey.run, built]
  have interesting :
      ∃ names, Survey.namesOfInterest surroundings.workspace configuration catalog = .ok names := by
    unfold Survey.namesOfInterest
    split
    · exact ⟨_, rfl⟩
    · exact ⟨_, rfl⟩
    · rename_i file nonempty given
      rcases prepared.callers file given nonempty with ⟨source, read⟩
      exact ⟨_, by rw [Routine.calledNamesOfFile, read]⟩
  rcases interesting with ⟨names, found⟩
  exact ⟨{ catalog, names }, by rw [surveyed, Survey.ofCatalog, found]⟩

/-- A prepared audit works in a session. -/
theorem Prepared.exists_outcome_eq :
    ∃ survey skipped,
      (run surroundings configuration).outcome =
        (Session.within surroundings.server configuration.address Failure.session
          (seedAndExplain surroundings configuration survey skipped) {}).1 := by
  rcases prepared.skipList with ⟨list, read⟩
  rcases prepared.exists_survey with ⟨survey, surveyed⟩
  refine ⟨survey, Routine.skippedNames list, ?_⟩
  rw [outcome_of_readText prepared.harmless read, surveyed]

end Prepared

/-! ## Why the setup of an audit fails -/

/-- What makes the setup of an audit fail. -/
inductive SetupCause where
  /-- The deployment is one in production. -/
  | production
  /-- The skip list cannot be loaded. -/
  | skipList (problem : ReadProblem)
  /-- The connection cannot be opened because of its address. -/
  | address (problem : AddressProblem)
  /-- The connection cannot be opened because of a fault. -/
  | connecting (fault : Fault)
  /-- A fixture statement fails. -/
  | statement (fault : Fault)

/-- The statements for the fixture records of an audit. -/
def fixtureStatements
    (surroundings : Surroundings)
    (configuration : Configuration) :
    List Fixture.Statement :=
  Fixture.statements
    (Fixture.seedingSteps surroundings.sources configuration.recordCount
      (Registry.withFixedArguments configuration.knownArguments))

/-- What comes of the fixture statements of an audit in a session. -/
def seededIn
    (surroundings : Surroundings)
    (configuration : Configuration)
    (session : Session) :
    Fixture.SeedingRun Session Fixture.SeedingProblem :=
  Fixture.seed (performIn surroundings.server) surroundings.sources configuration.recordCount
    (Registry.withFixedArguments configuration.knownArguments) session

namespace SetupCause

/-- A cause occurs in an audit: everything before it goes well. -/
inductive Occurs (surroundings : Surroundings) (configuration : Configuration) :
    SetupCause → Prop where
  | production (named : configuration.isProduction surroundings.environment = true) :
      Occurs surroundings configuration .production
  | skipList {problem : ReadProblem}
      (harmless : configuration.isProduction surroundings.environment = false)
      (unread : surroundings.workspace.readText (FilePath.parse configuration.ignoreFile) =
        .error problem) :
      Occurs surroundings configuration (.skipList problem)
  | address {problem : AddressProblem}
      (prepared : Prepared surroundings configuration)
      (nowhere : Address.parse configuration.address = .error problem) :
      Occurs surroundings configuration (.address problem)
  | connecting {place : Address} {fault : Fault}
      (prepared : Prepared surroundings configuration)
      (somewhere : Address.parse configuration.address = .ok place)
      (refused : surroundings.server.connecting 0 = some fault) :
      Occurs surroundings configuration (.connecting fault)
  | statement {place : Address} {fault : Fault}
      {before : List Fixture.Statement} {statement : Fixture.Statement}
      {after : List Fixture.Statement}
      (prepared : Prepared surroundings configuration)
      (somewhere : Address.parse configuration.address = .ok place)
      (reached : surroundings.server.connecting 0 = none)
      (split : fixtureStatements surroundings configuration = before ++ statement :: after)
      (answered : ∀ entry ∈ before.zipIdx,
        ∃ reply, surroundings.server.answering entry.2 entry.1.request = .ok reply)
      (failed : surroundings.server.answering before.length statement.request = .error fault) :
      Occurs surroundings configuration (.statement fault)

/-- The failure to which a cause leads; the skip list is the given file. -/
def failure (file : Text) : SetupCause → Failure
  | .production => .production
  | .skipList problem =>
    .skipList (if problem.isAboutPath then .unusable file problem else .unreadable problem)
  | .address problem => .session (.address problem)
  | .connecting fault => .session (Session.connectionProblem fault)
  | .statement fault => .seeding (.ofSession (.fault fault))

/-- Whether a cause is recognised as one in the setup. -/
def IsRecognised : SetupCause → Prop
  | .production => True
  | .skipList problem => problem.isAboutPath = true
  | .address _ => False
  | .connecting fault => fault.preventsConnection = true ∨ fault.category = .seeding
  | .statement fault => fault.isError = true

theorem isSetup_connectionProblem_iff {fault : Fault} :
    (Failure.session (Session.connectionProblem fault)).isSetup = true ↔
      fault.preventsConnection = true ∨ fault.category = .seeding := by
  unfold Session.connectionProblem
  split
  · rename_i prevents
    exact iff_of_true rfl (.inl prevents)
  · rename_i passes
    rw [or_iff_right passes, Failure.isSetup, decide_eq_true_iff]

theorem isSetup_ofSession_iff {fault : Fault} :
    (Failure.seeding (.ofSession (.fault fault))).isSetup = true ↔
      fault.isError = true := by
  have isError_of_seeding (seeding : fault.category = .seeding) : fault.isError = true :=
    Fault.isError_of_category seeding rfl
  rw [Fixture.SeedingProblem.ofSession]
  by_cases stops : fault.category = .seeding ∨ fault.isError = false
  · rw [if_pos stops, Failure.isSetup, decide_eq_true_iff]
    rcases stops with seeding | demand
    · exact iff_of_true seeding (isError_of_seeding seeding)
    · have noError : ¬ fault.isError = true := Bool.eq_false_iff.1 demand
      exact iff_of_false (mt isError_of_seeding noError) noError
  · rw [if_neg stops]
    exact iff_of_true rfl (Bool.not_eq_false _ ▸ not_or.1 stops).2

/-- A failure is reported as one of the setup exactly if its cause is recognised. -/
theorem isSetup_failure_iff (cause : SetupCause) (file : Text) :
    (cause.failure file).isSetup = true ↔ cause.IsRecognised := by
  cases cause with
  | production => exact iff_of_true rfl trivial
  | skipList problem =>
      cases problem with
      | path problem place => exact iff_of_true rfl rfl
      | zeroInPath => exact iff_of_false nofun nofun
      | encoding fault => exact iff_of_false nofun nofun
  | address problem => exact iff_of_false nofun not_false
  | connecting fault => exact isSetup_connectionProblem_iff
  | statement fault => exact isSetup_ofSession_iff

end SetupCause

/-! ## Failures of the setup -/

theorem skippedNamesOfFile_of_error
    {workspace : Workspace}
    {file : Text}
    {problem : ReadProblem}
    (unread : workspace.readText (FilePath.parse file) = .error problem) :
    Routine.skippedNamesOfFile workspace file =
      .error (if problem.isAboutPath then .unusable file problem else .unreadable problem) := by
  rw [Routine.skippedNamesOfFile, unread]
  exact (apply_ite Except.error _ _ _).symm

section Seeded

variable {surroundings : Surroundings} {configuration : Configuration} {session : Session}

theorem outcome_seededIn :
    (seededIn surroundings configuration session).outcome =
      (Fixture.runSteps (performIn surroundings.server)
        (Fixture.seedingSteps surroundings.sources configuration.recordCount
          (Registry.withFixedArguments configuration.knownArguments))
        (Registry.withFixedArguments configuration.knownArguments) session).outcome.mapError
          Fixture.SeedingProblem.ofSession := by
  rw [seededIn, Fixture.seed_eq_runSteps]

/-- Fixture statements that fail end the audit. -/
theorem outcome_seedAndExplain_of_error
    {problem : Fixture.SeedingProblem}
    (failed : (seededIn surroundings configuration session).outcome = .error problem)
    (survey : Survey)
    (skipped : List Text) :
    (seedAndExplain surroundings configuration survey skipped session).1 =
      .error (.seeding problem) := by
  unfold seededIn at failed
  simp only [seedAndExplain, failed]

/-- After fixture statements that were all answered, the statements are explained. -/
theorem outcome_seedAndExplain_of_ok
    (completed : (seededIn surroundings configuration session).outcome = .ok ())
    (survey : Survey)
    (skipped : List Text) :
    (seedAndExplain surroundings configuration survey skipped session).1 =
      (explainSurvey surroundings.workspace surroundings.server survey skipped
        (seededIn surroundings configuration session).registry
        (seededIn surroundings configuration session).state).1 := by
  unfold seededIn at completed ⊢
  simp only [seedAndExplain, completed]

end Seeded

/-- What makes the setup fail decides the outcome of the audit. -/
theorem outcome_of_occurs
    {surroundings : Surroundings}
    {configuration : Configuration}
    {cause : SetupCause}
    (occurs : cause.Occurs surroundings configuration) :
    (run surroundings configuration).outcome =
      .error (cause.failure configuration.ignoreFile) := by
  cases occurs with
  | production named => rw [run, if_pos named, SetupCause.failure]
  | skipList harmless unread =>
      rw [run, if_neg (by simp [harmless]), skippedNamesOfFile_of_error unread]
      rfl
  | address prepared nowhere =>
      rcases prepared.exists_outcome_eq with ⟨survey, skipped, outcome⟩
      rw [outcome, Session.within, Session.connect, nowhere]
      rfl
  | connecting prepared somewhere refused =>
      rcases prepared.exists_outcome_eq with ⟨survey, skipped, outcome⟩
      rcases Session.within_cases surroundings.server configuration.address Failure.session
        (seedAndExplain surroundings configuration survey skipped) {} with
        ⟨problem, nowhere, -⟩ | ⟨place, fault, -, same, result⟩ | ⟨place, -, reached, -⟩
      · exact nomatch somewhere.symm.trans nowhere
      · obtain rfl := Option.some.inj (refused.symm.trans same)
        rw [outcome, result, SetupCause.failure]
      · exact nomatch refused.symm.trans reached
  | statement prepared somewhere reached split answered failed =>
      rcases prepared.exists_outcome_eq with ⟨survey, skipped, outcome⟩
      rcases Session.within_cases surroundings.server configuration.address Failure.session
        (seedAndExplain surroundings configuration survey skipped) {} with
        ⟨problem, nowhere, -⟩ | ⟨place, fault, -, refused, -⟩ | ⟨place, -, -, result⟩
      · exact nomatch somewhere.symm.trans nowhere
      · exact nomatch refused.symm.trans reached
      · have opened : (Session.opened place {}).connected = true := rfl
        have unused : (Session.opened place {}).statements = 0 := rfl
        rw [← Nat.zero_add (List.length _), ← unused] at failed
        have stopped :=
          Fixture.outcome_runSteps_of_answering opened split answered failed
            (Registry.withFixedArguments configuration.knownArguments)
        have seeded :
            (seededIn surroundings configuration (Session.opened place {})).outcome =
              .error (.ofSession (.fault _)) :=
          outcome_seededIn.trans (congrArg _ stopped)
        rw [outcome, result]
        exact outcome_seedAndExplain_of_error seeded survey skipped

/--
If the setup of an audit fails because of the deployment, the skip list, the connection or a fixture
statement, the audit fails with a failure that is reported as one of the setup exactly if the cause
is recognised.  It is not recognised that a skip list is no text or that its path holds the
character zero, that an address cannot be taken apart, and that a connection has a fault that is
neither of the database nor of the system.  A demand on the program is no failure of the setup.
-/
theorem run_of_setupCause
    {surroundings : Surroundings}
    {configuration : Configuration}
    {cause : SetupCause}
    (occurs : cause.Occurs surroundings configuration) :
    ∃ failure, (run surroundings configuration).outcome = .error failure ∧
      (failure.isSetup = true ↔ cause.IsRecognised) :=
  ⟨_, outcome_of_occurs occurs, cause.isSetup_failure_iff _⟩

/-- Surroundings with a skip list of the given octets, or with none, and nothing else. -/
def skipListSurroundings (skipList : Option (List UInt8)) : Surroundings where
  workspace :=
    { top := .directory (skipList.toList.map fun octets => (".explain-ignore".toList, .file octets))
      current := [] }
  environment := []
  server := { connecting _ := none, answering _ _ := .ok {} }
  sources := Fixture.countingSources

theorem run_of_setupCause_missing :
    SetupCause.Occurs (skipListSurroundings none) {}
        (.skipList (.path .missing (FilePath.parse ".explain-ignore".toList))) ∧
      ∃ failure, (run (skipListSurroundings none) {}).outcome = .error failure ∧
        failure.isSetup = true := by
  have occurs : SetupCause.Occurs (skipListSurroundings none) {}
      (.skipList (.path .missing (FilePath.parse ".explain-ignore".toList))) :=
    .skipList (by decide +kernel) (by decide +kernel)
  rcases run_of_setupCause occurs with ⟨failure, failed, recognised⟩
  exact ⟨occurs, failure, failed, recognised.2 rfl⟩

/-- The problem with a skip list whose only octet begins no character. -/
def undecodable : ReadProblem :=
  .encoding { position := 0, count := 1, octet := 0xFF, reason := .invalidStart }

/-- Not every failure of the setup is reported as one: the skip list may be no text. -/
theorem setup_unrecognised_undecodable :
    ¬ ∀ (surroundings : Surroundings) (configuration : Configuration) (cause : SetupCause)
        (failure : Failure),
        configuration.Accepted → cause.Occurs surroundings configuration →
          (run surroundings configuration).outcome = .error failure → failure.isSetup = true := by
  intro always
  have occurs :
      SetupCause.Occurs (skipListSurroundings (some [0xFF])) {} (.skipList undecodable) :=
    .skipList (by decide +kernel) (by decide +kernel)
  exact absurd
    (always _ _ _ _ Configuration.accepted_default occurs (outcome_of_occurs occurs)) (by decide)

/-! ## No other causes -/

/-- An audit gets through its setup, and its outcome is that of explaining the statements. -/
def Explains (surroundings : Surroundings) (configuration : Configuration) : Prop :=
  ∃ survey skipped place,
    let seeded := seededIn surroundings configuration (Session.opened place {})
    seeded.outcome = .ok () ∧
      (run surroundings configuration).outcome =
        (explainSurvey surroundings.workspace surroundings.server survey skipped seeded.registry
          seeded.state).1

/-- Where nothing has gone wrong in the files, an audit is prepared. -/
theorem prepared_or_exists_failure
    {surroundings : Surroundings}
    {configuration : Configuration}
    {list : Text}
    (harmless : configuration.isProduction surroundings.environment = false)
    (read : surroundings.workspace.readText (FilePath.parse configuration.ignoreFile) = .ok list) :
    Prepared surroundings configuration ∨
      ∃ failure,
        (Survey.run surroundings.workspace configuration).outcome = .error failure ∧
          (run surroundings configuration).outcome = .error failure := by
  cases surveyed : (Survey.run surroundings.workspace configuration).outcome with
  | error failure =>
      exact Or.inr ⟨failure, rfl, by rw [outcome_of_readText harmless read, surveyed]⟩
  | ok survey =>
      have sources := exists_catalog_of_survey surveyed
      exact Or.inl ⟨harmless, ⟨list, read⟩, sources.1, sources.2⟩

/-- A prepared audit gets through its setup unless the connection or a statement fails. -/
theorem Prepared.exists_setupCause_or_explained
    {surroundings : Surroundings}
    {configuration : Configuration}
    (prepared : Prepared surroundings configuration) :
    (∃ cause : SetupCause, cause.Occurs surroundings configuration) ∨
      Explains surroundings configuration := by
  rcases prepared.exists_outcome_eq with ⟨survey, skipped, outcome⟩
  rcases Session.within_cases surroundings.server configuration.address Failure.session
    (seedAndExplain surroundings configuration survey skipped) {} with
    ⟨problem, nowhere, -⟩ | ⟨place, fault, somewhere, refused, -⟩ |
      ⟨place, somewhere, reached, result⟩
  · exact Or.inl ⟨_, .address prepared nowhere⟩
  · exact Or.inl ⟨_, .connecting prepared somewhere refused⟩
  · cases seeded : (seededIn surroundings configuration (Session.opened place {})).outcome with
    | error problem =>
        have opened : (Session.opened place {}).connected = true := rfl
        have unused : (Session.opened place {}).statements = 0 := rfl
        rcases mapError_eq_error_iff.1 (outcome_seededIn.symm.trans seeded) with ⟨cause, steps, -⟩
        rcases Fixture.exists_answering_of_outcome_runSteps opened steps with
          ⟨before, statement, after, fault, split, answered, failed⟩
        rw [unused, Nat.zero_add] at failed
        exact Or.inl ⟨_, .statement prepared somewhere reached split answered failed⟩
    | ok done =>
        refine Or.inr ⟨survey, skipped, place, seeded, ?_⟩
        rw [outcome, result]
        exact outcome_seedAndExplain_of_ok seeded survey skipped

/--
There are no other causes: an audit in which none occurs fails because of the source files, or it
gets through its setup and has the statements explained.
-/
theorem exists_setupCause_or_explained
    (surroundings : Surroundings)
    (configuration : Configuration) :
    (∃ cause : SetupCause, cause.Occurs surroundings configuration) ∨
      (∃ failure,
        (Survey.run surroundings.workspace configuration).outcome = .error failure ∧
          (run surroundings configuration).outcome = .error failure) ∨
      Explains surroundings configuration := by
  cases named : configuration.isProduction surroundings.environment with
  | true => exact Or.inl ⟨_, .production named⟩
  | false =>
      cases read : surroundings.workspace.readText (FilePath.parse configuration.ignoreFile) with
      | error problem => exact Or.inl ⟨_, .skipList named read⟩
      | ok list =>
          rcases prepared_or_exists_failure named read with prepared | failed
          · exact prepared.exists_setupCause_or_explained.imp_right Or.inr
          · exact Or.inr (Or.inl failed)

end Audit

end ProcedureAudit
