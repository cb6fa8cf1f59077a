import ProcedureAudit.Proofs.Audit.InSession
import ProcedureAudit.Proofs.Fixture.InSession

/-!
# The course of an audit

Everything that an audit needs to read is read before it connects, and production is refused before
that.  Over the connection, fixture statements come first and requests for plans second; the first
plan is asked for only after all fixture statements were answered.  In the end the connection is
closed.  A demand on the program that comes up on the way ends all this, and the audit fails with
it.
-/

namespace ProcedureAudit.Audit

/-! ## Before the connection -/

/-- What an audit has read before it connects. -/
structure Prepared (surroundings : Surroundings) (configuration : Configuration) : Prop where
  harmless : configuration.isProduction surroundings.environment = false
  skipList : ∃ list,
    surroundings.workspace.readText (FilePath.parse configuration.ignoreFile) = .ok list
  catalog : ∃ catalog,
    (Catalog.build surroundings.workspace configuration.root configuration.patterns
      Catalog.defaultIgnoreFile).outcome = .ok catalog
  callers : ∀ file, configuration.callerFile = some file → file ≠ [] →
    ∃ source, surroundings.workspace.readText (FilePath.parse file) = .ok source

theorem exists_readText_of_skippedNamesOfFile
    {workspace : Workspace}
    {file : Text}
    {skipped : List Text}
    (known : Routine.skippedNamesOfFile workspace file = .ok skipped) :
    ∃ list, workspace.readText (FilePath.parse file) = .ok list := by
  unfold Routine.skippedNamesOfFile at known
  split at known
  · split at known <;> contradiction
  · exact ⟨_, ‹_›⟩

theorem exists_catalog_of_survey
    {workspace : Workspace}
    {configuration : Configuration}
    {survey : Survey}
    (surveyed : (Survey.run workspace configuration).outcome = .ok survey) :
    (∃ catalog, (Catalog.build workspace configuration.root configuration.patterns
      Catalog.defaultIgnoreFile).outcome = .ok catalog) ∧
    ∀ file, configuration.callerFile = some file → file ≠ [] →
      ∃ source, workspace.readText (FilePath.parse file) = .ok source := by
  simp only [Survey.run] at surveyed
  split at surveyed
  · contradiction
  · rename_i catalog built
    refine ⟨⟨catalog, built⟩, fun file given nonempty => ?_⟩
    unfold Survey.ofCatalog at surveyed
    split at surveyed
    · contradiction
    · rename_i names found
      unfold Survey.namesOfInterest at found
      rw [given] at found
      split at found
      · contradiction
      · rename_i same
        exact (nonempty (Option.some.inj same)).elim
      · rename_i other _ same
        obtain rfl := Option.some.inj same
        unfold Routine.calledNamesOfFile at found
        split at found
        · contradiction
        · exact ⟨_, ‹_›⟩

/-- An audit fails without a session, or it is prepared and works in one. -/
theorem run_cases (surroundings : Surroundings) (configuration : Configuration) :
    ((∃ failure, (run surroundings configuration).outcome = .error failure) ∧
      (run surroundings configuration).session = {}) ∨
      Prepared surroundings configuration ∧
      ∃ survey skipped,
        (run surroundings configuration).outcome =
            (Session.within surroundings.server configuration.address Failure.session
              (seedAndExplain surroundings configuration survey skipped) {}).1 ∧
          (run surroundings configuration).session =
            (Session.within surroundings.server configuration.address Failure.session
              (seedAndExplain surroundings configuration survey skipped) {}).2 := by
  unfold run
  split
  · exact Or.inl ⟨⟨_, rfl⟩, rfl⟩
  · rename_i harmless
    split
    · exact Or.inl ⟨⟨_, rfl⟩, rfl⟩
    · rename_i skipped known
      dsimp only
      split
      · exact Or.inl ⟨⟨_, rfl⟩, rfl⟩
      · rename_i survey surveyed
        have read := exists_catalog_of_survey surveyed
        exact Or.inr ⟨⟨by simpa using harmless, exists_readText_of_skippedNamesOfFile known, read.1,
          read.2⟩, survey, skipped, rfl, rfl⟩

/-! ## Over the connection -/

/--
What passes over the connection of an audit: fixture statements, and then requests for plans, the
first of them only after all fixture statements were answered.
-/
structure Dialogue
    (server : Server)
    (count : Int)
    (seeding explaining : List Exchange) : Prop where
  numbered : ∀ entry ∈ (seeding ++ explaining).zipIdx,
    entry.1.answer = server.answering entry.2 entry.1.request
  fixtures : ∀ exchange ∈ seeding, exchange.IsFixture
  explains : ∀ exchange ∈ explaining, exchange.IsExplain
  seeded : explaining ≠ [] →
    (seeding.length : Int) = 16 * count ∧ ∀ exchange ∈ seeding, exchange.Succeeded

namespace Dialogue

variable {server : Server} {count : Int} {seeding explaining : List Exchange} {query : Text}

/-- A request for a plan is no fixture statement, so it belongs to the second part. -/
theorem explaining_ne_nil
    (dialogue : Dialogue server count seeding explaining)
    (asked : .execute (Session.explainRequest query) ∈
      (seeding ++ explaining).flatMap Exchange.events) :
    explaining ≠ [] := by
  rintro rfl
  rw [List.append_nil, List.mem_flatMap] at asked
  rcases asked with ⟨exchange, member, sent⟩
  rcases dialogue.fixtures exchange member with ⟨statement, -, request⟩
  simp only [Exchange.events, List.mem_cons, reduceCtorEq, Event.execute.injEq,
    List.not_mem_nil, or_false, false_or] at sent
  exact Fixture.request_ne_explainRequest statement query (request.symm.trans sent.symm)

/-- What was answered to a request for a plan is what the server answers to one. -/
theorem exists_answering_eq
    (dialogue : Dialogue server count seeding explaining)
    {exchange : Exchange}
    (member : exchange ∈ explaining) :
    ∃ number query,
      server.answering number (Session.explainRequest query) = exchange.answer := by
  rcases dialogue.explains exchange member with ⟨query, -, request⟩
  rcases List.getElem?_of_mem (List.mem_append_right seeding member) with ⟨number, place⟩
  have answered := dialogue.numbered (exchange, number) (List.mem_zipIdx_iff_getElem?.2 place)
  exact ⟨number, query, by rw [answered, request]⟩

end Dialogue

/-- The outcome of an audit that went through a dialogue. -/
structure EndsWith
    (seeding explaining : List Exchange)
    (outcome : Except Failure Report) : Prop where
  complete : ∀ report, outcome = .ok report → report.status = smellCount explaining
  broken : ∀ failure, outcome = .error failure → explaining ≠ [] →
    ∃ last fault, explaining.getLast? = some last ∧ last.answer = .error fault ∧
      fault.category ≠ .database ∧ failure = .session (.fault fault)
  demanded : ∀ exchange ∈ seeding ++ explaining, ∀ fault, exchange.answer = .error fault →
    fault.isError = false → ∃ failure, outcome = .error failure ∧ failure.fault? = some fault

/-- Explaining in a connected session ends with its exchanges, or before the first of them. -/
theorem exists_exchanges_explainSurvey
    {session : Session}
    (connected : session.connected = true)
    (workspace : Workspace)
    (server : Server)
    (survey : Survey)
    (skipped : List Text)
    (registry : Registry) :
    ∃ explaining,
      Session.Exchanges server session explaining
        (explainSurvey workspace server survey skipped registry session).2 ∧
      (∀ exchange ∈ explaining, exchange.IsExplain) ∧
      EndsWith [] explaining
        (explainSurvey workspace server survey skipped registry session).1 := by
  unfold explainSurvey
  cases collect workspace survey.catalog skipped survey.names with
  | error problem =>
      refine ⟨[], .done session, List.forall_mem_nil _, ?_, ?_, List.forall_mem_nil _⟩
      · intro report succeeded
        contradiction
      · intro failure _ explained
        exact (explained rfl).elim
  | ok selects =>
      rcases exists_explained connected server registry selects {} with ⟨explaining, explained⟩
      refine ⟨explaining, explained.run, explained.explains, ?_, ?_, ?_⟩
      · intro report succeeded
        exact (explained.complete report (mapError_eq_ok_iff.1 succeeded)).2.trans
          (Nat.zero_add _)
      · intro failure failed _
        rcases mapError_eq_error_iff.1 failed with ⟨problem, outcome, rfl⟩
        rcases explained.broken problem outcome with
          ⟨last, fault, isLast, answer, category, rfl⟩
        exact ⟨last, fault, isLast, answer, category, rfl⟩
      · intro exchange member fault failed demand
        refine ⟨.session (.fault fault), ?_, rfl⟩
        exact congrArg (Except.mapError Failure.session)
          (explained.passedOn exchange member fault failed demand)

/-- After an audit over a connection that succeeded or failed, its dialogue is known. -/
theorem exists_dialogue_seedAndExplain
    {session : Session}
    (connected : session.connected = true)
    (unused : session.statements = 0)
    (surroundings : Surroundings)
    {configuration : Configuration}
    (natural : 0 ≤ configuration.recordCount)
    (survey : Survey)
    (skipped : List Text) :
    ∃ seeding explaining,
      Dialogue surroundings.server configuration.recordCount seeding explaining ∧
      Session.Exchanges surroundings.server session (seeding ++ explaining)
        (seedAndExplain surroundings configuration survey skipped session).2 ∧
      EndsWith seeding explaining
        (seedAndExplain surroundings configuration survey skipped session).1 := by
  rcases Fixture.exists_exchanges_seed connected surroundings.server surroundings.sources
    configuration.recordCount (Registry.withFixedArguments configuration.knownArguments) with
    ⟨seeding, seedingRun, fixtures, complete, broken⟩
  have numbered {exchanges : List Exchange} {final : Session}
      (exchanged : Session.Exchanges surroundings.server session exchanges final) :
      ∀ entry ∈ exchanges.zipIdx,
        entry.1.answer = surroundings.server.answering entry.2 entry.1.request := by
    have answers := exchanged.answer_eq
    rwa [unused] at answers
  unfold seedAndExplain
  dsimp only
  generalize Fixture.seed (performIn surroundings.server) surroundings.sources
    configuration.recordCount (Registry.withFixedArguments configuration.knownArguments) session =
    seeded at seedingRun complete broken ⊢
  rcases seeded with ⟨outcome, registry, state⟩
  cases outcome with
  | error problem =>
      -- Nothing is explained after a fixture statement that failed.
      have all := seedingRun.append (.done state)
      refine ⟨seeding, [], ⟨numbered all, fixtures, List.forall_mem_nil _, ?_⟩, all, ?_, ?_, ?_⟩
      · intro explained
        exact (explained rfl).elim
      · intro report succeeded
        contradiction
      · intro failure _ explained
        exact (explained rfl).elim
      · intro exchange member fault failed demand
        rw [List.append_nil] at member
        obtain rfl := Except.error.inj (broken exchange member fault failed)
        refine ⟨_, rfl, ?_⟩
        rw [Fixture.ofSession_eq_stopped demand, Failure.fault?]
  | ok done =>
      have stillConnected : state.connected = true := seedingRun.connected_eq.trans connected
      rcases exists_exchanges_explainSurvey stillConnected surroundings.workspace
        surroundings.server survey skipped registry with ⟨explaining, run, explains, ends⟩
      have all := seedingRun.append run
      rcases complete rfl with ⟨count, answers⟩
      refine ⟨seeding, explaining, ⟨numbered all, fixtures, explains, fun _ => ⟨?_, answers⟩⟩, all,
        ends.complete, ends.broken, ?_⟩
      · rw [count, Fixture.statementsPerAccount]
        omega
      · intro exchange member fault failed demand
        rcases List.mem_append.1 member with seeded | explained
        · rcases answers exchange seeded with ⟨reply, answer⟩
          exact nomatch answer.symm.trans failed
        · exact ends.demanded exchange explained fault failed demand

/-! ## The whole course -/

/-- The events of an audit, in order, with its outcome. -/
inductive Course (surroundings : Surroundings) (configuration : Configuration) :
    List Event → Except Failure Report → Prop where
  /-- The audit fails before it connects. -/
  | unconnected (failure : Failure) : Course surroundings configuration [] (.error failure)
  /-- The audit is prepared, but no connection is made. -/
  | unreached {fault : Fault}
      (prepared : Prepared surroundings configuration)
      (refused : surroundings.server.connecting 0 = some fault)
      (place : Address) :
      Course surroundings configuration [.connect place]
        (.error (.session (Session.connectionProblem fault)))
  /-- The connection is opened, used for a dialogue, and closed. -/
  | connected {seeding explaining : List Exchange} {outcome : Except Failure Report}
      (prepared : Prepared surroundings configuration)
      (reached : surroundings.server.connecting 0 = none)
      (place : Address)
      (dialogue :
        Dialogue surroundings.server configuration.recordCount seeding explaining)
      (ends : EndsWith seeding explaining outcome) :
      Course surroundings configuration
        (.connect place :: ((seeding ++ explaining).flatMap Exchange.events ++ [.close])) outcome

namespace Course

variable {surroundings : Surroundings} {configuration : Configuration} {events : List Event}
variable {outcome : Except Failure Report}

theorem prepared_of_ne_nil
    (course : Course surroundings configuration events outcome)
    (nonempty : events ≠ []) :
    Prepared surroundings configuration := by
  cases course with
  | unconnected failure => exact (nonempty rfl).elim
  | unreached prepared _ _ => exact prepared
  | connected prepared _ _ _ _ => exact prepared

/-- Exchanges neither open nor close a connection. -/
theorem not_mem_flatMap_events_close (exchanges : List Exchange) :
    Event.close ∉ exchanges.flatMap Exchange.events := by
  simp [Exchange.events]

/-- An audit that comes to its end went through a dialogue, to which its report corresponds. -/
theorem exists_dialogue_of_ok
    {report : Report}
    (course : Course surroundings configuration events (.ok report)) :
    ∃ place seeding explaining,
      events = .connect place :: ((seeding ++ explaining).flatMap Exchange.events ++ [.close]) ∧
      Dialogue surroundings.server configuration.recordCount seeding explaining ∧
      report.status = smellCount explaining := by
  cases course with
  | @connected seeding explaining _ _ _ place dialogue ends =>
      exact ⟨place, seeding, explaining, rfl, dialogue, ends.complete report rfl⟩

theorem closed
    (course : Course surroundings configuration events outcome)
    (reached : surroundings.server.connecting 0 = none)
    (nonempty : events ≠ []) :
    events.count .close = 1 ∧ events.getLast? = some .close := by
  cases course with
  | unconnected failure => exact (nonempty rfl).elim
  | unreached _ refused _ => rw [reached] at refused; contradiction
  | @connected seeding explaining _ _ _ place _ _ =>
      have none := List.count_eq_zero.2 (not_mem_flatMap_events_close (seeding ++ explaining))
      rw [List.count_cons_of_ne (by simp), List.count_append, none]
      simp [List.getLast?_cons, List.getLast?_append]

/-- After a request for a plan, only a fault that is none of the database makes an audit fail. -/
theorem tolerant
    (course : Course surroundings configuration events outcome)
    (refuses : ∀ number query fault,
      surroundings.server.answering number (Session.explainRequest query) = .error fault →
        fault.category = .database)
    {query : Text}
    (asked : .execute (Session.explainRequest query) ∈ events) :
    ∃ report, outcome = .ok report := by
  cases course with
  | unconnected failure => contradiction
  | unreached _ _ _ => simp at asked
  | @connected seeding explaining _ _ _ place dialogue ends =>
      cases outcome with
      | ok report => exact ⟨report, rfl⟩
      | error failure =>
          have sent : .execute (Session.explainRequest query) ∈
              (seeding ++ explaining).flatMap Exchange.events := by
            simpa only [List.mem_cons, reduceCtorEq, List.mem_append, List.not_mem_nil, or_false,
              false_or] using asked
          rcases ends.broken failure rfl (dialogue.explaining_ne_nil sent) with
            ⟨last, fault, isLast, answer, notDatabase, -⟩
          rcases dialogue.exists_answering_eq (List.mem_of_getLast? isLast) with
            ⟨number, other, answered⟩
          exact (notDatabase (refuses number other fault (answered.trans answer))).elim

end Course

/-! ## Demands of the server -/

/-- The statements that were sent, in order. -/
def sentRequests (events : List Event) : List Request :=
  events.filterMap fun event =>
    match event with
    | .execute request => some request
    | _ => none

theorem sentRequests_connected (place : Address) (exchanges : List Exchange) :
    sentRequests (.connect place :: (exchanges.flatMap Exchange.events ++ [.close])) =
      exchanges.map Exchange.request := by
  have sent : sentRequests (exchanges.flatMap Exchange.events) =
      exchanges.map Exchange.request := by
    induction exchanges with
    | nil => rfl
    | cons exchange exchanges induction => exact congrArg (exchange.request :: ·) induction
  unfold sentRequests at sent ⊢
  rw [List.filterMap_cons_none rfl, List.filterMap_append, sent]
  exact List.append_nil _

/-- A server meets the attempt to connect, or one of the statements that were sent, with a fault. -/
inductive Meets (server : Server) (events : List Event) (fault : Fault) : Prop where
  | connecting {place : Address}
      (tried : .connect place ∈ events)
      (refused : server.connecting 0 = some fault)
  | answering {number : Nat} {request : Request}
      (sent : (sentRequests events)[number]? = some request)
      (failed : server.answering number request = .error fault)

theorem not_meets_nil {server : Server} {fault : Fault} : ¬ Meets server [] fault := by
  rintro (⟨tried, -⟩ | ⟨sent, -⟩)
  · exact absurd tried List.not_mem_nil
  · exact nomatch sent

/-- A demand with which the server meets an audit is what the audit fails with, as it is. -/
theorem Course.exists_failure_of_meets
    {surroundings : Surroundings}
    {configuration : Configuration}
    {events : List Event}
    {outcome : Except Failure Report}
    {fault : Fault}
    (course : Course surroundings configuration events outcome)
    (demand : fault.isError = false)
    (met : Meets surroundings.server events fault) :
    ∃ failure, outcome = .error failure ∧ failure.fault? = some fault := by
  cases course with
  | unconnected failure => exact (not_meets_nil met).elim
  | unreached prepared refused place =>
      cases met with
      | connecting _ same =>
          obtain rfl := Option.some.inj (refused.symm.trans same)
          refine ⟨_, rfl, ?_⟩
          rw [Session.connectionProblem, Fault.preventsConnection_eq_false demand]
          rfl
      | answering sent _ => exact nomatch sent
  | connected prepared reached place dialogue ends =>
      cases met with
      | connecting _ same => exact nomatch reached.symm.trans same
      | @answering number request sent failed =>
          rw [sentRequests_connected, List.getElem?_map] at sent
          rcases Option.map_eq_some_iff.1 sent with ⟨exchange, found, rfl⟩
          have answered :=
            dialogue.numbered (exchange, number) (List.mem_zipIdx_iff_getElem?.2 found)
          exact ends.demanded exchange (List.mem_of_getElem? found) fault
            (answered.trans failed) demand

/-! ## Audits -/

theorem course_run
    (surroundings : Surroundings)
    {configuration : Configuration}
    (natural : 0 ≤ configuration.recordCount) :
    Course surroundings configuration (run surroundings configuration).session.events
      (run surroundings configuration).outcome := by
  rcases run_cases surroundings configuration with
    ⟨⟨failure, failed⟩, unused⟩ | ⟨prepared, survey, skipped, outcome, session⟩
  · rw [failed, unused]
    exact .unconnected failure
  · rw [outcome, session]
    rcases Session.within_cases surroundings.server configuration.address Failure.session
      (seedAndExplain surroundings configuration survey skipped) {} with
      ⟨problem, -, same⟩ | ⟨place, fault, -, refused, same⟩ | ⟨place, -, reached, same⟩
    · rw [same]
      exact .unconnected _
    · rw [same]
      exact .unreached prepared refused place
    · rw [same]
      rcases @exists_dialogue_seedAndExplain (Session.opened place {}) rfl rfl surroundings
        configuration natural survey skipped with
        ⟨seeding, explaining, dialogue, exchanged, ends⟩
      rw [Session.events_close exchanged.connected_eq, exchanged.events_eq]
      exact .connected prepared reached place dialogue ends

end ProcedureAudit.Audit
