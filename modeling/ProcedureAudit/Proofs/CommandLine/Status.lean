import ProcedureAudit.Proofs.CommandLine.Run

/-!
# The status that is reported

The status of a run counts refused queries and labels, and it has no upper limit; of a status, only
the last eight bits are reported to whoever started the program.  So the reported status is zero
not only if there was nothing to count, but for every multiple of 256.
-/

namespace ProcedureAudit.CommandLine

/-- The last eight bits of the status. -/
def Conclusion.reportedStatus (conclusion : Conclusion) : Nat :=
  conclusion.status % 256

/--
The reported status of a run that comes to its end.  It is zero exactly if 256 divides the number
of refused queries and of labels of rows together; that number is zero exactly if the server gave a
plan for every query and no row has a label.
-/
theorem reportedStatus_eq_zero_iff
    (surroundings : Surroundings)
    {arguments : List Text}
    {config : Text}
    {overrides : Overrides}
    {report : Report}
    (asked : Task.ofArguments arguments = .ok (.run config overrides))
    (completed : outcomeOf surroundings config overrides = .ok report) :
    ∃ place seeding explaining,
      (run surroundings arguments).session.events =
          .connect place :: ((seeding ++ explaining).flatMap Exchange.events ++ [.close]) ∧
        (∀ entry ∈ (seeding ++ explaining).zipIdx,
          entry.1.answer = surroundings.server.answering entry.2 entry.1.request) ∧
        (∀ exchange ∈ seeding, exchange.IsFixture) ∧
        (∀ exchange ∈ explaining, exchange.IsExplain) ∧
        (run surroundings arguments).status = Audit.smellCount explaining ∧
        ((run surroundings arguments).reportedStatus = 0 ↔ 256 ∣ Audit.smellCount explaining) ∧
        (Audit.smellCount explaining = 0 ↔
          ∀ exchange ∈ explaining,
            exchange.isRefused = false ∧ ∀ row ∈ exchange.rows, Plan.rowLabels row = []) := by
  have same : run surroundings arguments = (Task.run config overrides).perform surroundings := by
    rw [run, asked]
  have orderly := orderly_perform_run surroundings config overrides
  rcases exists_configuration_of_outcomeOf completed with ⟨configuration, configured⟩
  have course := orderly.course configuration configured
  rw [completed] at course
  rcases course.exists_dialogue_of_ok with ⟨place, seeding, explaining, events, dialogue, counted⟩
  have status : ((Task.run config overrides).perform surroundings).status =
      Audit.smellCount explaining :=
    (orderly.shown.completed report completed).1.trans counted
  rw [same]
  refine ⟨place, seeding, explaining, events, dialogue.numbered, dialogue.fixtures,
    dialogue.explains, status, ?_, Audit.smellCount_eq_zero_iff⟩
  rw [Conclusion.reportedStatus, status, Nat.dvd_iff_mod_eq_zero]

theorem status_scanningServer :
    (run (smallSurroundings (scanningServer 256)) singleRecord).status = 256 := by
  decide +kernel

theorem exists_report_scanningServer :
    ∃ report, outcomeOf (smallSurroundings (scanningServer 256)) []
      { recordCount := some (some 1) } = .ok report := by
  have succeeded : (outcomeOf (smallSurroundings (scanningServer 256)) []
      { recordCount := some (some 1) }).toBool = true := by
    decide +kernel
  cases outcome : outcomeOf (smallSurroundings (scanningServer 256)) []
      { recordCount := some (some 1) } with
  | ok report => exact ⟨report, rfl⟩
  | error failure =>
      rw [outcome] at succeeded
      contradiction

/-- The plan of the one query has 256 rows with one label each. -/
theorem reportedStatus_eq_zero_iff_scanningServer :
    Task.ofArguments singleRecord = .ok (.run [] { recordCount := some (some 1) }) ∧
      (∃ report, outcomeOf (smallSurroundings (scanningServer 256)) []
        { recordCount := some (some 1) } = .ok report) ∧
      ∃ explaining,
        (∀ exchange ∈ explaining, exchange.IsExplain) ∧
        Audit.smellCount explaining = 256 ∧
        (run (smallSurroundings (scanningServer 256)) singleRecord).reportedStatus = 0 := by
  have asked : Task.ofArguments singleRecord = .ok (.run [] { recordCount := some (some 1) }) := by
    rfl
  rcases exists_report_scanningServer with ⟨report, completed⟩
  rcases reportedStatus_eq_zero_iff (smallSurroundings (scanningServer 256)) asked completed with
    ⟨place, seeding, explaining, -, -, -, explains, status, reported, -⟩
  have counted := status.symm.trans status_scanningServer
  exact ⟨asked, ⟨report, completed⟩, explaining, explains, counted,
    reported.2 ⟨1, counted⟩⟩

/-- A run can warn about rows and report the status zero. -/
theorem exists_warning_with_reportedStatus_zero :
    ¬ ∀ (surroundings : Surroundings) (arguments : List Text) (config : Text)
        (overrides : Overrides) (report : Report),
        Task.ofArguments arguments = .ok (.run config overrides) →
          outcomeOf surroundings config overrides = .ok report →
            ((run surroundings arguments).reportedStatus = 0 ↔
              report.refusals = [] ∧ report.warnings = []) := by
  intro gate
  have asked : Task.ofArguments singleRecord = .ok (.run [] { recordCount := some (some 1) }) := by
    rfl
  rcases exists_report_scanningServer with ⟨report, completed⟩
  have clean := (gate _ _ _ _ report asked completed).1 (by
    rw [Conclusion.reportedStatus, status_scanningServer])
  have shown := (orderly_perform_run _ _ _).shown.completed report completed
  have status : (run (smallSurroundings (scanningServer 256)) singleRecord).status =
      report.status := by
    rw [run, asked]
    exact shown.1
  rw [status_scanningServer, Report.status, clean.1, clean.2] at status
  contradiction

end ProcedureAudit.CommandLine
