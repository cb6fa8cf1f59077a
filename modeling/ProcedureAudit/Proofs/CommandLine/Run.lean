import ProcedureAudit.CommandLine.Run
import ProcedureAudit.Proofs.Audit.Course
import ProcedureAudit.Proofs.Config.Acceptance
import ProcedureAudit.Proofs.Config.LogFormat
import ProcedureAudit.Proofs.Fixture.TokenPresence
import ProcedureAudit.Proofs.Text.LetterCase

/-!
# Runs of the program

Whatever the arguments, the files, the environment and the server are like, a run of the program
takes an orderly course: it connects only when the log is set up, all is read and nothing points to
production, it seeds before it asks for plans, and it closes what it opened.  In the end it prints a
report, one message about a failure, or that it was interrupted, unless it passes on a demand of
which it prints nothing.
-/

namespace ProcedureAudit.CommandLine

/-! ## Configurations of a run -/

/-- A configuration is checked again after the values of the command line were put in. -/
theorem accepted_of_configure
    {surroundings : Surroundings}
    {config : Text}
    {overrides : Overrides}
    {configuration : Configuration}
    (configured : configure surroundings config overrides = .ok configuration) :
    configuration.Accepted := by
  unfold configure at configured
  split at configured
  · contradiction
  · exact Config.accepted_of_checkConfiguration (mapError_eq_ok_iff.1 configured)

theorem isProduction_iff {configuration : Configuration} {environment : Environment} :
    configuration.isProduction environment = true ↔
      "prod".toList <+: Text.fold configuration.environment ∨
        "prod".toList <+: Text.fold (Settings.deployment environment) := by
  rw [Configuration.isProduction, Bool.or_eq_true, Configuration.namesProduction,
    Configuration.namesProduction, Text.isSome_dropKeyword?_iff, Text.isSome_dropKeyword?_iff]

/-! ## What a run leaves behind -/

/-- What becomes of an outcome if the log must be set up with the configuration before. -/
def logged
    (configuration : Configuration)
    (outcome : Except Failure Report) :
    Except Failure Report :=
  if LogFormat.isUsable configuration.format then
    if configuration.isWritable then outcome else .error .unwritable
  else
    .error (.logFormat configuration.format)

/-- The report of a run, or why there is none. -/
def outcomeOf
    (surroundings : Surroundings)
    (config : Text)
    (overrides : Overrides) :
    Except Failure Report :=
  match configure surroundings config overrides with
  | .error failure => .error failure
  | .ok configuration => logged configuration (Audit.run surroundings configuration).outcome

theorem exists_configuration_of_outcomeOf
    {surroundings : Surroundings}
    {config : Text}
    {overrides : Overrides}
    {report : Report}
    (completed : outcomeOf surroundings config overrides = .ok report) :
    ∃ configuration, configure surroundings config overrides = .ok configuration := by
  unfold outcomeOf at completed
  split at completed
  · contradiction
  · exact ⟨_, ‹_›⟩

/--
The conclusion of a run shows its outcome: a report, one message, or that the run was interrupted.
A run whose failure is another demand on the program prints nothing and passes the demand on.
-/
structure Shows (conclusion : Conclusion) (outcome : Except Failure Report) : Prop where
  completed : ∀ report, outcome = .ok report →
    conclusion.status = report.status ∧ conclusion.printed = report.print ∧
      conclusion.passedOn = none
  failed : ∀ failure, outcome = .error failure → failure.isInterrupt = false →
    failure.demand? = none →
      conclusion.status = 1 ∧
        conclusion.printed = { out := [], err := "Error: " ++ failure.message ++ ['\n'] } ∧
        conclusion.passedOn = none
  interrupted : ∀ failure, outcome = .error failure → failure.isInterrupt = true →
    conclusion.status = 130 ∧
      conclusion.printed = { out := [], err := "\nInterrupted by user\n" } ∧
      conclusion.passedOn = none
  demanded : ∀ failure demand, outcome = .error failure → failure.demand? = some demand →
    conclusion.printed = { out := [], err := [] } ∧ conclusion.passedOn = some demand

/-- What is demanded of the program otherwise is not that the user wants it to stop. -/
theorem isInterrupt_of_demand?
    {failure : Failure}
    {demand : Fault}
    (demanded : failure.demand? = some demand) :
    failure.isInterrupt = false := by
  rcases Option.filter_eq_some_iff.1 demanded with ⟨cause, control⟩
  rw [Failure.isInterrupt, cause, Option.any_some, of_decide_eq_true control]
  rfl

theorem shows_ofFailure
    {conclusion : Conclusion}
    {failure : Failure}
    (status : conclusion.status = (Conclusion.ofFailure failure).status)
    (printed : conclusion.printed = (Conclusion.ofFailure failure).printed)
    (passedOn : conclusion.passedOn = (Conclusion.ofFailure failure).passedOn) :
    Shows conclusion (.error failure) := by
  refine ⟨fun report same => by contradiction, ?_, ?_, ?_⟩
  · rintro other same notInterrupt noDemand
    obtain rfl := Except.error.inj same
    rw [status, printed, passedOn, Conclusion.ofFailure, notInterrupt, noDemand]
    exact ⟨rfl, rfl, rfl⟩
  · rintro other same interrupt
    obtain rfl := Except.error.inj same
    rw [status, printed, passedOn, Conclusion.ofFailure, interrupt]
    exact ⟨rfl, rfl, rfl⟩
  · rintro other demand same demanded
    obtain rfl := Except.error.inj same
    rw [printed, passedOn, Conclusion.ofFailure, isInterrupt_of_demand? demanded, demanded]
    exact ⟨rfl, rfl⟩

theorem shows_runAudit (surroundings : Surroundings) (configuration : Configuration) :
    Shows (runAudit surroundings configuration) (Audit.run surroundings configuration).outcome := by
  unfold runAudit
  rcases Audit.run surroundings configuration with ⟨leftOut, outcome, session⟩
  cases outcome with
  | error failure => exact shows_ofFailure rfl rfl rfl
  | ok report =>
      refine ⟨?_, fun failure same => by contradiction, fun failure same => by contradiction,
        fun failure demand same => by contradiction⟩
      rintro other same
      obtain rfl := Except.ok.inj same
      exact ⟨rfl, rfl, rfl⟩

theorem shows_logging
    {configuration : Configuration}
    {conclusion : Conclusion}
    {outcome : Except Failure Report}
    (shown : Shows conclusion outcome) :
    Shows (conclusion.logging configuration) (logged configuration outcome) := by
  unfold Conclusion.logging logged
  split
  · split
    · exact ⟨shown.completed, shown.failed, shown.interrupted, shown.demanded⟩
    · exact shows_ofFailure rfl rfl rfl
  · exact shows_ofFailure rfl rfl rfl

/-- A failed conclusion comes of no dealings with the server. -/
theorem events_ofFailure (failure : Failure) :
    (Conclusion.ofFailure failure).session.events = [] := by
  unfold Conclusion.ofFailure
  split
  · rfl
  · split <;> rfl

/-- Dealings with the server come after the log was set up. -/
theorem isUsable_of_events_ne_nil
    {configuration : Configuration}
    {conclusion : Conclusion}
    (nonempty : (conclusion.logging configuration).session.events ≠ []) :
    LogFormat.isUsable configuration.format = true := by
  by_contra unusable
  rw [Conclusion.logging, if_neg unusable] at nonempty
  exact nonempty (events_ofFailure _)

/-- A configuration with which the log cannot be set up keeps the audit from being done. -/
theorem course_logging
    (surroundings : Surroundings)
    {configuration : Configuration}
    (checked : Config.leastCount ≤ configuration.recordCount) :
    Audit.Course surroundings configuration
      ((runAudit surroundings configuration).logging configuration).session.events
      (logged configuration (Audit.run surroundings configuration).outcome) := by
  have natural : 0 ≤ configuration.recordCount := by
    unfold Config.leastCount at checked
    omega
  unfold Conclusion.logging logged
  split
  · split
    · exact Audit.course_run surroundings natural
    · exact .unconnected _
  · rw [events_ofFailure]
    exact .unconnected _

/-! ## Orderly runs -/

/-- What can be relied on in a run with a configuration file, or none, and values to override it. -/
structure Orderly
    (surroundings : Surroundings)
    (config : Text)
    (overrides : Overrides)
    (conclusion : Conclusion) : Prop where
  /-- A run with a name of a deployment that begins with `prod` has no dealings with the server. -/
  guarded : ∀ configuration, configure surroundings config overrides = .ok configuration →
    "prod".toList <+: Text.fold configuration.environment ∨
      "prod".toList <+: Text.fold (Settings.deployment surroundings.environment) →
    conclusion.session.events = []
  /-- A run connects only if there is a configuration, and after everything was read. -/
  prepared : conclusion.session.events ≠ [] →
    ∃ configuration, configure surroundings config overrides = .ok configuration ∧
      Audit.Prepared surroundings configuration
  /-- A run connects only with a log, for which the format has a field, unless it is empty. -/
  logged : conclusion.session.events ≠ [] →
    ∀ configuration, configure surroundings config overrides = .ok configuration →
      configuration.format = [] ∨
        ∃ field, LogFormat.IsField field ∧ field <:+: configuration.format
  /-- The events of a run follow a fixed course. -/
  course : ∀ configuration, configure surroundings config overrides = .ok configuration →
    Audit.Course surroundings configuration conclusion.session.events
      (outcomeOf surroundings config overrides)
  /-- A connection that was opened is closed once, in the end. -/
  closed : surroundings.server.connecting 0 = none → conclusion.session.events ≠ [] →
    conclusion.session.events.count .close = 1 ∧
      conclusion.session.events.getLast? = some .close
  /-- A run that asked for a plan succeeds if the server only ever refuses queries. -/
  tolerant : (∀ number query fault,
      surroundings.server.answering number (Session.explainRequest query) = .error fault →
        fault.category = .database) →
    ∀ query, .execute (Session.explainRequest query) ∈ conclusion.session.events →
      ∃ report, outcomeOf surroundings config overrides = .ok report
  /-- A demand with which the server meets the run is what the run fails with, as it is. -/
  demanded : ∀ fault, fault.isError = false →
    Audit.Meets surroundings.server conclusion.session.events fault →
      ∃ failure, outcomeOf surroundings config overrides = .error failure ∧
        failure.fault? = some fault
  shown : Shows conclusion (outcomeOf surroundings config overrides)

section Configured

variable {surroundings : Surroundings} {config : Text} {overrides : Overrides}

/-- Without a configuration there is nothing but a message. -/
theorem orderly_of_configure_error
    {failure : Failure}
    (configured : configure surroundings config overrides = .error failure) :
    Orderly surroundings config overrides (Conclusion.ofFailure failure) := by
  have outcome : outcomeOf surroundings config overrides = .error failure := by
    rw [outcomeOf, configured]
  have silent := events_ofFailure failure
  refine ⟨?_, ?_, ?_, ?_, ?_, ?_, ?_, ?_⟩
  · exact fun _ _ _ => silent
  · exact fun nonempty => (nonempty silent).elim
  · exact fun nonempty => (nonempty silent).elim
  · intro configuration other
    rw [configured] at other
    contradiction
  · exact fun _ nonempty => (nonempty silent).elim
  · intro _ query asked
    rw [silent] at asked
    contradiction
  · intro fault _ met
    rw [silent] at met
    exact (Audit.not_meets_nil met).elim
  · rw [outcome]
    exact shows_ofFailure rfl rfl rfl

/-- With a configuration, all that can be relied on follows from the course of the audit. -/
theorem orderly_of_configure_ok
    {configuration : Configuration}
    (configured : configure surroundings config overrides = .ok configuration) :
    Orderly surroundings config overrides
      ((runAudit surroundings configuration).logging configuration) := by
  have outcome : outcomeOf surroundings config overrides =
      logged configuration (Audit.run surroundings configuration).outcome := by
    rw [outcomeOf, configured]
  have course := course_logging surroundings (accepted_of_configure configured).count.1
  rw [← outcome] at course
  refine ⟨?_, ?_, ?_, ?_, course.closed, fun refuses _ => course.tolerant refuses,
    fun _ => course.exists_failure_of_meets, ?_⟩
  · intro other same production
    obtain rfl := Except.ok.inj (configured.symm.trans same)
    -- Whatever happens on the way to the server happens to a prepared audit, which is harmless.
    by_contra nonempty
    have harmless := (course.prepared_of_ne_nil nonempty).harmless
    rw [isProduction_iff.2 production] at harmless
    contradiction
  · exact fun nonempty => ⟨configuration, configured, course.prepared_of_ne_nil nonempty⟩
  · intro nonempty other same
    obtain rfl := Except.ok.inj (configured.symm.trans same)
    exact LogFormat.isUsable_iff.1 (isUsable_of_events_ne_nil nonempty)
  · intro other same
    obtain rfl := Except.ok.inj (configured.symm.trans same)
    exact course
  · rw [outcome]
    exact shows_logging (shows_runAudit surroundings configuration)

end Configured

theorem orderly_perform_run
    (surroundings : Surroundings)
    (config : Text)
    (overrides : Overrides) :
    Orderly surroundings config overrides ((Task.run config overrides).perform surroundings) := by
  rw [Task.perform]
  cases configured : configure surroundings config overrides with
  | error failure => exact orderly_of_configure_error configured
  | ok configuration => exact orderly_of_configure_ok configured

/--
Every run of the program is orderly.  It fails without dealings with the server if a deployment is
named for production, connects only after the skip list, the source tree and the caller file were
read, asks for plans only after all fixture statements were answered, and closes the connection in
the end.  It prints one message if it fails, unless a demand on the program that is no error is
passed on.
-/
theorem orderly_run
    (surroundings : Surroundings)
    {arguments : List Text}
    {config : Text}
    {overrides : Overrides}
    (asked : Task.ofArguments arguments = .ok (.run config overrides)) :
    Orderly surroundings config overrides (run surroundings arguments) := by
  rw [run, asked]
  exact orderly_perform_run surroundings config overrides

/-- A skip list without names, and a source file with one procedure that has one statement. -/
def smallWorkspace : Workspace where
  top :=
    .directory
      [ (".explain-ignore".toList, .file []),
        ("a.sql".toList,
          .file
            ("CREATE PROCEDURE a_1 ()\nSELECT 1;\nEND;".toList.map fun character =>
              .ofNat character.toNat)) ]
  current := []

def smallSurroundings (server : Server) : Surroundings where
  workspace := smallWorkspace
  environment := []
  server := server
  sources := Fixture.countingSources

/-- A server whose plans have some rows, each for the scan of a whole table. -/
def scanningServer (rows : Nat) : Server where
  connecting _ := none
  answering _ request :=
    if Text.beginsWith "EXPLAIN " request.sql then
      .ok { rows := List.replicate rows [("type".toList, .text "ALL")] }
    else
      .ok {}

/-- Arguments for a run with a single account. -/
def singleRecord : List Text :=
  ["run".toList, "--records".toList, "1".toList]

theorem orderly_run_smallSurroundings :
    Task.ofArguments singleRecord = .ok (.run [] { recordCount := some (some 1) }) ∧
      (run (smallSurroundings (scanningServer 3)) singleRecord).status = 3 ∧
      Orderly (smallSurroundings (scanningServer 3)) [] { recordCount := some (some 1) }
        (run (smallSurroundings (scanningServer 3)) singleRecord) := by
  have asked : Task.ofArguments singleRecord = .ok (.run [] { recordCount := some (some 1) }) := by
    rfl
  exact ⟨asked, by decide +kernel, orderly_run (smallSurroundings (scanningServer 3)) asked⟩

/-- While it is reached, the user wants the program to stop. -/
def interruptedServer : Server where
  connecting _ := some (.ofName "KeyboardInterrupt" [])
  answering _ _ := .ok {}

/-- Not every failure is shown by its message and the status one. -/
theorem exists_failure_without_message :
    ¬ ∀ (surroundings : Surroundings) (arguments : List Text) (config : Text)
        (overrides : Overrides) (failure : Failure),
        Task.ofArguments arguments = .ok (.run config overrides) →
          outcomeOf surroundings config overrides = .error failure →
            (run surroundings arguments).status = 1 ∧
              (run surroundings arguments).printed =
                { out := [], err := "Error: " ++ failure.message ++ ['\n'] } := by
  intro always
  have asked : Task.ofArguments ["run".toList] = .ok (.run [] {}) := by
    rfl
  have status : (run (smallSurroundings interruptedServer) ["run".toList]).status = 130 := by
    decide +kernel
  have unsuccessful :
      (outcomeOf (smallSurroundings interruptedServer) [] {}).toBool = false := by
    decide +kernel
  cases outcome : outcomeOf (smallSurroundings interruptedServer) [] {} with
  | ok report =>
      rw [outcome] at unsuccessful
      contradiction
  | error failure =>
      have one := (always _ _ _ _ failure asked outcome).1
      rw [status] at one
      contradiction

end ProcedureAudit.CommandLine
