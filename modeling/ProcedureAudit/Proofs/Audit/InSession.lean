import ProcedureAudit.Audit.Run
import ProcedureAudit.Proofs.Audit.Accounting
import ProcedureAudit.Proofs.Database.Session

/-!
# Explaining in a session

Over a connection, an audit is a sequence of exchanges that ask for plans.  An answer is a plan or
a fault, and a fault of the database only refuses the query.  So an audit that ends early ends with
another fault, and the status of an audit that comes to its end counts the refused queries and the
labels of the rows.
-/

namespace ProcedureAudit

namespace Exchange

/-- Whether the plan of a query was asked for. -/
def IsExplain (exchange : Exchange) : Prop :=
  ∃ query, exchange.wanted = .rows ∧ exchange.request = Session.explainRequest query

/-- Whether the answer is a fault, so that there is no plan. -/
def isRefused (exchange : Exchange) : Bool :=
  match exchange.answer with
  | .ok _ => false
  | .error _ => true

/-- The rows of the plan, if there is one. -/
def rows (exchange : Exchange) : List Row :=
  match exchange.answer with
  | .ok reply => reply.rows
  | .error _ => []

/-- The number of labels of all rows. -/
def labelCount (exchange : Exchange) : Nat :=
  (exchange.rows.map fun row => (Plan.rowLabels row).length).sum

/-- The exchange that asks for the plan of a query as the next statement of a session. -/
def asking (server : Server) (session : Session) (query : Text) : Exchange where
  wanted := .rows
  request := Session.explainRequest query
  answer := server.answering session.statements (Session.explainRequest query)

end Exchange

namespace Audit

/-- What an answer of the server is to the audit. -/
def answerOf : Except Fault Reply → PlanAnswer SessionProblem
  | .ok reply => .rows reply.rows
  | .error fault =>
    if fault.category = .database then
      .refused fault.reason
    else if fault.category = .refusal then
      .refused fault.message
    else
      .broken (.fault fault)

theorem explainIn_of_connected
    {session : Session}
    (connected : session.connected = true)
    (server : Server)
    (query : Text) :
    explainIn server query session =
      (answerOf (server.answering session.statements (Session.explainRequest query)),
        session.afterSending .rows (Session.explainRequest query)) := by
  rw [explainIn, Session.explain, Session.fetch, Session.send_of_connected connected]
  cases server.answering session.statements (Session.explainRequest query) with
  | ok reply => rfl
  | error fault =>
      by_cases database : fault.category = .database
      · simp [Except.mapError, Except.map, answerOf, database]
      · by_cases refusal : fault.category = .refusal
        · simp [Except.mapError, Except.map, answerOf, refusal]
        · simp [Except.mapError, Except.map, answerOf, database, refusal]

theorem explain_cons_of_connected
    {session : Session}
    (connected : session.connected = true)
    (server : Server)
    (registry : Registry)
    (collected : CollectedSelect)
    (selects : List CollectedSelect)
    (report : Report) :
    explain (explainIn server) registry (collected :: selects) report session =
      let query := queryOf registry collected
      let sent := session.afterSending .rows (Session.explainRequest query)
      match answerOf (server.answering session.statements (Session.explainRequest query)) with
      | .rows plan =>
        explain (explainIn server) registry selects
          (noteRows collected.procedure query plan report) sent
      | .refused reason =>
        explain (explainIn server) registry selects
          (noteRefusal collected.procedure query reason report) sent
      | .broken cause => (.error cause, sent) := by
  rw [explain, explainIn_of_connected connected]
  dsimp only [queryOf]
  cases answerOf (server.answering session.statements
    (Session.explainRequest (Query.normalizeSelect collected.select registry))) <;> rfl

theorem status_noteRows (procedure query : Text) (plan : List Row) (report : Report) :
    (noteRows procedure query plan report).status =
      report.status + (plan.map fun row => (Plan.rowLabels row).length).sum := by
  rw [noteRows_eq_withCalls, status_withCalls]
  simp [Call.isRefused, Call.rows]

theorem status_noteRefusal (procedure query reason : Text) (report : Report) :
    (noteRefusal procedure query reason report).status = report.status + 1 := by
  rw [noteRefusal_eq_withCalls, status_withCalls]
  simp [Call.isRefused, Call.rows]

/-- How many queries were refused, and how many labels the rows of the others have. -/
def smellCount (exchanges : List Exchange) : Nat :=
  exchanges.countP Exchange.isRefused + (exchanges.map Exchange.labelCount).sum

/-- There is nothing to count if every query has a plan and no row of it has a label. -/
theorem smellCount_eq_zero_iff {exchanges : List Exchange} :
    smellCount exchanges = 0 ↔
      ∀ exchange ∈ exchanges,
        exchange.isRefused = false ∧ ∀ row ∈ exchange.rows, Plan.rowLabels row = [] := by
  have labels (exchange : Exchange) :
      exchange.labelCount = 0 ↔ ∀ row ∈ exchange.rows, Plan.rowLabels row = [] := by
    simp [Exchange.labelCount, List.sum_eq_zero_iff_forall_eq_nat]
  simp only [smellCount, Nat.add_eq_zero_iff, List.countP_eq_zero,
    List.sum_eq_zero_iff_forall_eq_nat, List.forall_mem_map, labels, Bool.not_eq_true]
  exact forall₂_and.symm

/-- The result of an audit is what some exchanges led to. -/
structure Explained
    (server : Server)
    (registry : Registry)
    (selects : List CollectedSelect)
    (report : Report)
    (session : Session)
    (result : Except SessionProblem Report × Session)
    (exchanges : List Exchange) : Prop where
  run : Session.Exchanges server session exchanges result.2
  explains : ∀ exchange ∈ exchanges, exchange.IsExplain
  complete : ∀ final, result.1 = .ok final →
    exchanges.map Exchange.request =
        selects.map (fun collected => Session.explainRequest (queryOf registry collected)) ∧
      final.status = report.status + smellCount exchanges
  broken : ∀ problem, result.1 = .error problem →
    ∃ last fault, exchanges.getLast? = some last ∧ last.answer = .error fault ∧
      fault.category ≠ .database ∧ problem = .fault fault
  passedOn : ∀ exchange ∈ exchanges, ∀ fault, exchange.answer = .error fault →
    fault.isError = false → result.1 = .error (.fault fault)

variable {server : Server} {registry : Registry} {report : Report} {session : Session}

/-- An exchange that is noted in the report comes before the exchanges for the other statements. -/
theorem Explained.cons
    {collected : CollectedSelect}
    {selects : List CollectedSelect}
    {noted : Report}
    {result : Except SessionProblem Report × Session}
    {exchanges : List Exchange}
    (counted : noted.status =
      report.status + smellCount [.asking server session (queryOf registry collected)])
    (errors : ∀ fault,
      (Exchange.asking server session (queryOf registry collected)).answer = .error fault →
        fault.isError = true)
    (rest : Explained server registry selects noted
      (session.afterSending .rows (Session.explainRequest (queryOf registry collected)))
      result exchanges) :
    Explained server registry (collected :: selects) report session result
      (.asking server session (queryOf registry collected) :: exchanges) := by
  rcases rest with ⟨run, explains, complete, broken, passedOn⟩
  refine ⟨.next run, List.forall_mem_cons.2 ⟨⟨_, rfl, rfl⟩, explains⟩, ?_, ?_,
    List.forall_mem_cons.2 ⟨?_, passedOn⟩⟩
  · intro final done
    rcases complete final done with ⟨requests, status⟩
    refine ⟨congrArg (_ :: ·) requests, ?_⟩
    simp only [smellCount, List.countP_cons, List.map_cons, List.sum_cons, List.countP_nil,
      List.map_nil, List.sum_nil] at status counted ⊢
    omega
  · intro problem failed
    rcases broken problem failed with ⟨last, fault, isLast, cause⟩
    exact ⟨last, fault, by rw [List.getLast?_cons, isLast]; rfl, cause⟩
  · intro fault failed demand
    exact absurd (errors fault failed) (Bool.eq_false_iff.1 demand)

/-- An audit over a connection is the account of its exchanges. -/
theorem exists_explained
    (connected : session.connected = true)
    (server : Server)
    (registry : Registry)
    (selects : List CollectedSelect)
    (report : Report) :
    ∃ exchanges, Explained server registry selects report session
      (explain (explainIn server) registry selects report session) exchanges := by
  induction selects generalizing session report with
  | nil =>
      refine ⟨[], .done session, List.forall_mem_nil _, ?_, ?_, List.forall_mem_nil _⟩
      · rintro final same
        obtain rfl := Except.ok.inj same
        exact ⟨rfl, rfl⟩
      · intro problem failed
        contradiction
  | cons collected selects induction =>
      let sent := session.afterSending .rows
        (Session.explainRequest (queryOf registry collected))
      have rest (noted : Report) := @induction sent connected noted
      rw [explain_cons_of_connected connected]
      dsimp only
      cases answered : server.answering session.statements
        (Session.explainRequest (queryOf registry collected)) with
      | ok reply =>
          rcases rest (noteRows collected.procedure (queryOf registry collected) reply.rows report)
            with ⟨exchanges, explained⟩
          refine ⟨_, explained.cons ?_ ?_⟩
          · rw [status_noteRows]
            simp [smellCount, Exchange.asking, Exchange.isRefused, Exchange.labelCount,
              Exchange.rows, answered]
          · intro fault failed
            exact nomatch answered.symm.trans failed
      | error fault =>
          have refused (error : fault.isError = true) (reason : Text) :
              ∃ exchanges, Explained server registry (collected :: selects) report session
                (explain (explainIn server) registry selects
                  (noteRefusal collected.procedure (queryOf registry collected) reason report) sent)
                exchanges := by
            rcases rest (noteRefusal collected.procedure (queryOf registry collected) reason report)
              with ⟨exchanges, explained⟩
            refine ⟨_, explained.cons ?_ ?_⟩
            · rw [status_noteRefusal]
              simp [smellCount, Exchange.asking, Exchange.isRefused, Exchange.labelCount,
                Exchange.rows, answered]
            · intro other failed
              obtain rfl := Except.error.inj (answered.symm.trans failed)
              exact error
          -- Both kinds of refusals are noted; any other fault ends the audit.
          by_cases database : fault.category = .database
          · have error := Fault.isError_of_category database rfl
            simpa only [answerOf, if_pos database] using refused error fault.reason
          · by_cases refusal : fault.category = .refusal
            · have error := Fault.isError_of_category refusal rfl
              simpa only [answerOf, if_neg database, if_pos refusal] using
                refused error fault.message
            · simp only [answerOf, if_neg database, if_neg refusal]
              refine ⟨[_], .next (.done _), List.forall_mem_singleton.2 ⟨_, rfl, rfl⟩, ?_, ?_,
                List.forall_mem_singleton.2 ?_⟩
              · intro final done
                contradiction
              · intro problem failed
                obtain rfl := Except.error.inj failed
                exact ⟨_, fault, rfl, answered, database, rfl⟩
              · intro other failed _
                obtain rfl := Except.error.inj (answered.symm.trans failed)
                rfl

end Audit

end ProcedureAudit
