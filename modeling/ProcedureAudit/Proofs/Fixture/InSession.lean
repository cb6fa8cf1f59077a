import ProcedureAudit.Audit.Run
import ProcedureAudit.Proofs.Database.Session
import ProcedureAudit.Proofs.Fixture.Running

/-!
# Seeding in a session

Over a connection, seeding is a sequence of exchanges of fixture statements.  If it succeeds, all
statements of all accounts were sent and answered, and there are sixteen of them for each account.
If a statement is answered by a fault, seeding fails with it.
-/

namespace ProcedureAudit

/-- Whether a fixture statement was sent. -/
def Exchange.IsFixture (exchange : Exchange) : Prop :=
  ∃ statement : Fixture.Statement,
    exchange.wanted = .count ∧ exchange.request = statement.request

namespace Fixture

open Audit (performIn)

/-! ## Statements over a connection -/

/-- The text of a fixture statement begins with a line feed or with the letter `D`. -/
theorem request_ne_explainRequest (statement : Statement) (query : Text) :
    statement.request ≠ Session.explainRequest query := by
  have inserts (table : Table) : (Statement.insertText table).head? = some '\n' := by
    cases table <;> rfl
  have deletes (table : Table) (column : Text) :
      (Statement.deleteText table column).head? = some 'D' :=
    rfl
  have explains : (Session.explainRequest query).sql.head? = some 'E' := rfl
  intro same
  rw [← same] at explains
  cases statement with
  | insert table row => exact absurd ((inserts table).symm.trans explains) (by decide)
  | deleteUser table user => exact absurd ((deletes table _).symm.trans explains) (by decide)
  | deleteToken table token => exact absurd ((deletes table _).symm.trans explains) (by decide)

theorem performIn_of_connected
    {session : Session}
    (connected : session.connected = true)
    (server : Server)
    (statement : Statement) :
    performIn server statement session =
      (((server.answering session.statements statement.request).map fun _ => ()).mapError .fault,
        session.afterSending .count statement.request) := by
  rw [performIn, Session.execute, Session.send_of_connected connected]
  cases server.answering session.statements statement.request <;> rfl

/-- What comes of fixture statements over a connection is what some exchanges led to. -/
structure Sent
    {Problem : Type}
    (wrap : SessionProblem → Problem)
    (server : Server)
    (count : Nat)
    (session : Session)
    (result : SeedingRun Session Problem)
    (exchanges : List Exchange) : Prop where
  run : Session.Exchanges server session exchanges result.state
  fixtures : ∀ exchange ∈ exchanges, exchange.IsFixture
  complete : result.outcome = .ok () →
    exchanges.length = count ∧ ∀ exchange ∈ exchanges, exchange.Succeeded
  broken : ∀ exchange ∈ exchanges, ∀ fault, exchange.answer = .error fault →
    result.outcome = .error (wrap (.fault fault))

/-- Steps over a connection are exchanges of fixture statements, all of them if they succeed. -/
theorem exists_exchanges_runSteps
    {session : Session}
    (connected : session.connected = true)
    (server : Server)
    (steps : List Step)
    (registry : Registry) :
    ∃ exchanges,
      Sent id server (statements steps).length session
        (runSteps (performIn server) steps registry session) exchanges := by
  induction steps generalizing session registry with
  | nil =>
      exact ⟨[], .done session, List.forall_mem_nil _, fun _ => ⟨rfl, List.forall_mem_nil _⟩,
        List.forall_mem_nil _⟩
  | cons step steps induction =>
      cases step with
      | record name value => exact induction connected (registry.record name value)
      | execute statement =>
          rw [runSteps, performIn_of_connected connected]
          cases answered : server.answering session.statements statement.request with
          | error fault =>
              refine ⟨[_], .next (.done _), List.forall_mem_singleton.2 ⟨statement, rfl, rfl⟩, ?_,
                List.forall_mem_singleton.2 ?_⟩
              · intro succeeded
                contradiction
              · intro other failed
                obtain rfl := Except.error.inj (answered.symm.trans failed)
                rfl
          | ok reply =>
              rcases @induction (session.afterSending .count statement.request) connected registry
                with ⟨exchanges, run, fixtures, complete, broken⟩
              refine ⟨_, .next run, List.forall_mem_cons.2 ⟨⟨statement, rfl, rfl⟩, fixtures⟩, ?_,
                List.forall_mem_cons.2 ⟨?_, broken⟩⟩
              · intro succeeded
                rcases complete succeeded with ⟨all, answers⟩
                exact ⟨congrArg (· + 1) all, List.forall_mem_cons.2 ⟨⟨reply, answered⟩, answers⟩⟩
              · intro fault failed
                have clash : Except.ok reply = Except.error fault := answered.symm.trans failed
                contradiction

/-- Seeding over a connection, with all statements of all accounts if it succeeds. -/
theorem exists_exchanges_seed
    {session : Session}
    (connected : session.connected = true)
    (server : Server)
    (sources : Sources)
    (count : Int)
    (registry : Registry) :
    ∃ exchanges,
      Sent .ofSession server (statementsPerAccount * count.toNat) session
        (seed (performIn server) sources count registry session) exchanges := by
  rcases exists_exchanges_runSteps connected server (seedingSteps sources count registry)
    registry with ⟨exchanges, run, fixtures, complete, broken⟩
  refine ⟨exchanges, ?_, fixtures, ?_, ?_⟩
  · rw [seed_eq_runSteps]
    exact run
  · intro succeeded
    rcases complete ((outcome_seed_eq_ok_iff ..).1 succeeded) with ⟨all, answers⟩
    rw [length_statements_seedingSteps] at all
    exact ⟨all, answers⟩
  · intro exchange member fault failed
    rw [seed_eq_runSteps]
    exact congrArg (Except.mapError SeedingProblem.ofSession)
      (broken exchange member fault failed)

end Fixture

end ProcedureAudit
