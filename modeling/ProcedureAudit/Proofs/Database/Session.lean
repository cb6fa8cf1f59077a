import Mathlib.Data.List.Basic
import ProcedureAudit.Database.Session

/-!
# What happens in a session

A connected session is a sequence of exchanges: a statement is sent, and the server answers it by
its number.  The exchanges determine the events and the number of statements of the session, and
they leave it connected.  A session that is opened for an action is either never connected or
closed after the action.
-/

namespace ProcedureAudit

/-! ## Outcomes whose errors are wrapped -/

section Outcomes

variable {Problem Wrapped Result : Type} {wrap : Problem → Wrapped}
variable {outcome : Except Problem Result}

theorem mapError_eq_ok_iff {result : Result} :
    outcome.mapError wrap = .ok result ↔ outcome = .ok result := by
  cases outcome <;> simp [Except.mapError]

theorem mapError_eq_error_iff {wrapped : Wrapped} :
    outcome.mapError wrap = .error wrapped ↔
      ∃ problem, outcome = .error problem ∧ wrap problem = wrapped := by
  cases outcome <;> simp [Except.mapError]

end Outcomes

/-! ## Faults that are errors -/

theorem Fault.isError_of_category
    {fault : Fault}
    {category : FaultCategory}
    (same : fault.category = category)
    (error : (category ≠ .interrupt && category ≠ .control) = true) :
    fault.isError = true := by
  rw [isError, same]
  exact error

/-- Only an error of the database or of the system means that no connection could be made. -/
theorem Fault.preventsConnection_eq_false
    {fault : Fault}
    (demand : fault.isError = false) :
    fault.preventsConnection = false := by
  rw [Bool.eq_false_iff] at demand ⊢
  intro prevents
  rcases Bool.or_eq_true_iff.1 prevents with database | system
  · exact demand (isError_of_category (of_decide_eq_true database) rfl)
  · exact demand (isError_of_category (of_decide_eq_true system) rfl)

/-! ## Exchanges with a server -/

/-- A statement that was sent, and the answer to it. -/
structure Exchange where
  wanted : Cursor
  request : Request
  answer : Except Fault Reply

namespace Exchange

def events (exchange : Exchange) : List Event :=
  [.cursor exchange.wanted, .execute exchange.request]

def Succeeded (exchange : Exchange) : Prop :=
  ∃ reply, exchange.answer = .ok reply

end Exchange

namespace Session

/-! ## Sessions that exchanges lead to -/

/-- The session after a statement was sent. -/
def afterSending (wanted : Cursor) (request : Request) (session : Session) : Session :=
  { (session.note (.cursor wanted)).note (.execute request) with
    statements := session.statements + 1 }

theorem send_of_connected
    {session : Session}
    (connected : session.connected = true)
    (server : Server)
    (wanted : Cursor)
    (request : Request) :
    session.send server wanted request =
      ((server.answering session.statements request).mapError .fault,
        session.afterSending wanted request) := by
  rw [send, if_pos connected]
  cases server.answering session.statements request <;> rfl

/-- Some exchanges lead from one state of a session to another. -/
inductive Exchanges (server : Server) : Session → List Exchange → Session → Prop where
  | done (session : Session) : Exchanges server session [] session
  | next {session final : Session} {wanted : Cursor} {request : Request}
      {exchanges : List Exchange}
      (rest : Exchanges server (session.afterSending wanted request) exchanges final) :
      Exchanges server session
        (⟨wanted, request, server.answering session.statements request⟩ :: exchanges) final

namespace Exchanges

variable {server : Server} {session middle final : Session} {exchanges others : List Exchange}

theorem append
    (first : Exchanges server session exchanges middle)
    (second : Exchanges server middle others final) :
    Exchanges server session (exchanges ++ others) final := by
  induction first with
  | done => exact second
  | next _ induction => exact .next (induction second)

theorem connected_eq (run : Exchanges server session exchanges final) :
    final.connected = session.connected := by
  induction run with
  | done => rfl
  | next _ induction => exact induction

theorem events_eq (run : Exchanges server session exchanges final) :
    final.events = session.events ++ exchanges.flatMap Exchange.events := by
  induction run with
  | done => rw [List.flatMap_nil, List.append_nil]
  | next _ induction =>
      rw [induction, List.flatMap_cons]
      simp [afterSending, events, note, Exchange.events]

/-- Every statement is answered by its number. -/
theorem answer_eq (run : Exchanges server session exchanges final) :
    ∀ entry ∈ exchanges.zipIdx session.statements,
      entry.1.answer = server.answering entry.2 entry.1.request := by
  induction run with
  | done => exact List.forall_mem_nil _
  | next _ induction =>
      rw [List.zipIdx_cons, List.forall_mem_cons]
      exact ⟨rfl, induction⟩

end Exchanges

/-! ## Sessions for an action -/

/-- The session after an attempt to connect. -/
def tried (place : Address) (session : Session) : Session :=
  { session.note (.connect place) with attempts := session.attempts + 1 }

/-- The session after an attempt to connect that succeeded. -/
def opened (place : Address) (session : Session) : Session :=
  { session.tried place with connected := true }

/-- What a fault means for an attempt to connect. -/
def connectionProblem (fault : Fault) : SessionProblem :=
  if fault.preventsConnection then .unreachable fault else .fault fault

variable {Problem Result : Type}

/--
A session for an action ends in one of three ways: the address is none, there is no connection, or
the action is carried out and the session is closed.
-/
theorem within_cases
    (server : Server)
    (address : Text)
    (wrap : SessionProblem → Problem)
    (action : Session → Except Problem Result × Session)
    (session : Session) :
    (∃ problem, Address.parse address = .error problem ∧
      session.within server address wrap action = (.error (wrap (.address problem)), session)) ∨
    (∃ place fault, Address.parse address = .ok place ∧
      server.connecting session.attempts = some fault ∧
      session.within server address wrap action =
        (.error (wrap (connectionProblem fault)), session.tried place)) ∨
    ∃ place, Address.parse address = .ok place ∧
      server.connecting session.attempts = none ∧
      session.within server address wrap action =
        ((action (session.opened place)).1, (action (session.opened place)).2.close) := by
  unfold within connect
  cases parsed : Address.parse address with
  | error problem => exact Or.inl ⟨problem, rfl, rfl⟩
  | ok place =>
      cases reached : server.connecting session.attempts with
      | some fault =>
          refine Or.inr (Or.inl ⟨place, fault, rfl, rfl, ?_⟩)
          unfold connectionProblem
          cases prevented : fault.preventsConnection <;> simp [prevented, tried]
      | none => exact Or.inr (Or.inr ⟨place, rfl, rfl, rfl⟩)

theorem events_close {session : Session} (connected : session.connected = true) :
    session.close.events = session.events ++ [.close] := by
  rw [close, if_pos connected]
  simp [events, note]

end Session

end ProcedureAudit
