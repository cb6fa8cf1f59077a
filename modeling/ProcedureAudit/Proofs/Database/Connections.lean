import ProcedureAudit.Proofs.Database.Session

/-!
# The connections of a session

A session refers to one connection at most.  Opening a connection while it refers to another one
lets go of the earlier connection without closing it, and nothing else does: whatever is done with
a session, the connections that were opened are those that were closed, the one that the session
refers to, and those that were superseded.

The account is kept on the events.  Attempts to connect are numbered from zero, and an attempt
opens a connection if the server has no fault for its number.
-/

namespace ProcedureAudit

def Event.isAttempt : Event → Bool
  | .connect _ => true
  | _ => false

namespace Session

/-! ## Operations -/

/-- What can be done with a session; `enter` and `leave` are the two ends of a scope. -/
inductive Operation where
  | connect
  | close
  | fetch (request : Request)
  | execute (request : Request)
  | explain (query : Text)
  | version
  | enter
  | leave
deriving DecidableEq, Repr

/-- The session after an operation, whether it succeeds or fails. -/
def perform (server : Server) (address : Text) (operation : Operation) (session : Session) :
    Session :=
  match operation with
  | .connect | .enter => (session.connect server address).2
  | .close | .leave => session.close
  | .fetch request => (session.fetch server request).2
  | .execute request => (session.execute server request).2
  | .explain query => (session.explain server query).2
  | .version => (session.version server).2

/-- The session after operations in a row. -/
def run (server : Server) (address : Text) (operations : List Operation) (session : Session) :
    Session :=
  operations.foldl (fun current operation => current.perform server address operation) session

section Accounts

variable (server : Server) (address : Text)

/-- How many attempts to connect have opened a connection. -/
def openings (session : Session) : Nat :=
  (List.range (session.events.countP Event.isAttempt)).countP fun number =>
    (server.connecting number).isNone

/-- How many connections were closed. -/
def closings (session : Session) : Nat :=
  session.events.count .close

/-- No connection is open but the one that the session refers to. -/
def Balanced (session : Session) : Prop :=
  openings server session = session.closings + session.connected.toNat

instance (session : Session) : Decidable (Balanced server session) :=
  inferInstanceAs (Decidable (_ = _))

/-- Whether a connection is opened between two states, of which the first refers to another one. -/
def supersedes (session next : Session) : Bool :=
  session.connected && decide (openings server session < openings server next)

/-- How many of the operations in a row supersede a connection. -/
def superseded : Session → List Operation → Nat
  | _, [] => 0
  | session, operation :: later =>
    let next := session.perform server address operation
    (supersedes server session next).toNat + superseded next later

end Accounts

/-! ## What one operation does -/

/-- The ways in which an operation changes a session. -/
inductive Step (server : Server) (session : Session) : Session → Prop where
  | idle : Step server session session
  | sent (wanted : Cursor) (request : Request) :
      Step server session (session.afterSending wanted request)
  | failed {fault : Fault} (place : Address)
      (fails : server.connecting session.attempts = some fault) :
      Step server session (session.tried place)
  | opened (place : Address) (opens : server.connecting session.attempts = none) :
      Step server session (session.opened place)
  | closed : Step server session session.close

variable {server : Server} {address : Text} {session : Session}

theorem step_connect : Step server session (session.connect server address).2 := by
  unfold connect
  cases Address.parse address with
  | error problem => exact .idle
  | ok place =>
      cases reached : server.connecting session.attempts with
      | none => exact .opened place reached
      | some fault =>
          have failed : Step server session (session.tried place) := .failed place reached
          dsimp only
          split <;> exact failed

theorem step_send (wanted : Cursor) (request : Request) :
    Step server session (session.send server wanted request).2 := by
  cases connected : session.connected with
  | true =>
      rw [send_of_connected connected]
      exact .sent wanted request
  | false =>
      rw [send, if_neg (by simp [connected])]
      exact .idle

theorem step_explain (query : Text) :
    Step server session (session.explain server query).2 := by
  have fetched : Step server session (session.fetch server (explainRequest query)).2 :=
    step_send .rows (explainRequest query)
  unfold explain
  split
  · rename_i answered
    rw [answered] at fetched
    split
    · exact fetched
    · split <;> exact fetched
  · exact fetched

theorem step_version : Step server session (session.version server).2 := by
  have fetched : Step server session (session.fetch server versionRequest).2 :=
    step_send .rows versionRequest
  unfold version
  split
  · rename_i answered
    rw [answered] at fetched
    exact fetched
  · rename_i answered
    rw [answered] at fetched
    exact fetched
  · rename_i answered
    rw [answered] at fetched
    split <;> exact fetched

theorem step_perform (operation : Operation) :
    Step server session (session.perform server address operation) := by
  cases operation with
  | connect => exact step_connect
  | close => exact .closed
  | fetch request => exact step_send .rows request
  | execute request => exact step_send .count request
  | explain query => exact step_explain query
  | version => exact step_version
  | enter => exact step_connect
  | leave => exact .closed

/-! ## Closing -/

theorem connected_close : session.close.connected = false := by
  cases connected : session.connected <;> simp [close, connected]

theorem attempts_close : session.close.attempts = session.attempts := by
  cases connected : session.connected <;> simp [close, connected, note]

theorem countP_close :
    session.close.events.countP Event.isAttempt = session.events.countP Event.isAttempt := by
  cases connected : session.connected <;> simp [close, connected, events, note, Event.isAttempt]

theorem closings_close :
    session.close.closings = session.closings + session.connected.toNat := by
  cases connected : session.connected <;> simp [close, connected, closings, events, note]

/-! ## The account of connections -/

/-- Every connection that was opened is closed, referred to, or one of `lost`. -/
structure Account (server : Server) (session : Session) (lost : Nat) : Prop where
  numbered : session.attempts = session.events.countP Event.isAttempt
  balance : openings server session = session.closings + session.connected.toNat + lost

namespace Account

variable {next : Session} {lost : Nat}

theorem initial (server : Server) : Account server {} 0 where
  numbered := rfl
  balance := rfl

/-- A step that opens no connection loses none. -/
theorem of_openings_eq
    (account : Account server session lost)
    (numbered : next.attempts = next.events.countP Event.isAttempt)
    (same : openings server next = openings server session)
    (balance : next.closings + next.connected.toNat =
      session.closings + session.connected.toNat) :
    Account server next (lost + (supersedes server session next).toNat) := by
  have none : supersedes server session next = false := by
    simp [supersedes, same]
  rw [none]
  constructor
  · exact numbered
  · rw [same, account.balance, balance]
    rfl

theorem of_attempts_eq
    (account : Account server session lost)
    (attempts : next.attempts = session.attempts)
    (count : next.events.countP Event.isAttempt = session.events.countP Event.isAttempt)
    (balance : next.closings + next.connected.toNat =
      session.closings + session.connected.toNat) :
    Account server next (lost + (supersedes server session next).toNat) := by
  apply account.of_openings_eq
  · rw [attempts, count, account.numbered]
  · rw [openings, count, openings]
  · exact balance

theorem numbered_tried (account : Account server session lost) (place : Address) :
    (session.tried place).attempts = (session.tried place).events.countP Event.isAttempt := by
  have count : (session.tried place).events.countP Event.isAttempt =
      session.events.countP Event.isAttempt + 1 := by
    simp [tried, events, note, Event.isAttempt]
  rw [count, ← account.numbered]
  rfl

/-- An attempt opens a connection if the server has no fault for its number. -/
theorem openings_tried (account : Account server session lost) (place : Address) :
    openings server (session.tried place) =
      openings server session + (server.connecting session.attempts).isNone.toNat := by
  have attempts : (session.tried place).attempts = session.attempts + 1 := rfl
  rw [openings, ← account.numbered_tried, attempts, List.range_succ, List.countP_append, openings,
    ← account.numbered, List.countP_singleton]
  cases server.connecting session.attempts <;> rfl

theorem failed
    (account : Account server session lost)
    {fault : Fault}
    (place : Address)
    (fails : server.connecting session.attempts = some fault) :
    Account server (session.tried place)
      (lost + (supersedes server session (session.tried place)).toNat) := by
  apply account.of_openings_eq
  · exact account.numbered_tried place
  · rw [account.openings_tried, fails]
    rfl
  · simp [closings, events, tried, note]

/-- The connection that the session referred to, if any, is lost when another one is opened. -/
theorem opened
    (account : Account server session lost)
    (place : Address)
    (opens : server.connecting session.attempts = none) :
    Account server (session.opened place)
      (lost + (supersedes server session (session.opened place)).toNat) := by
  have more : openings server (session.opened place) = openings server session + 1 := by
    have tried := account.openings_tried place
    rw [opens] at tried
    exact tried
  have whenConnected : supersedes server session (session.opened place) = session.connected := by
    simp [supersedes, more]
  rw [whenConnected]
  constructor
  · exact account.numbered_tried place
  · have closings : (session.opened place).closings = session.closings := by
      simp [Session.closings, events, Session.opened, tried, note]
    have connected : (session.opened place).connected.toNat = 1 := rfl
    rw [more, account.balance, closings, connected]
    omega

/-- One step adds to what is lost what it supersedes. -/
theorem step
    (account : Account server session lost)
    (stepped : Step server session next) :
    Account server next (lost + (supersedes server session next).toNat) := by
  cases stepped with
  | idle => exact account.of_attempts_eq rfl rfl rfl
  | sent wanted request =>
      refine account.of_attempts_eq rfl ?_ ?_
      · simp [events, afterSending, note, Event.isAttempt]
      · simp [closings, events, afterSending, note]
  | failed place fails => exact account.failed place fails
  | opened place opens => exact account.opened place opens
  | closed =>
      refine account.of_attempts_eq attempts_close countP_close ?_
      rw [closings_close, connected_close]
      rfl

theorem run
    (account : Account server session lost)
    (address : Text)
    (operations : List Operation) :
    Account server (session.run server address operations)
      (lost + superseded server address session operations) := by
  induction operations generalizing session lost with
  | nil => exact account
  | cons operation later induction =>
      rw [superseded, ← Nat.add_assoc]
      exact induction (account.step (step_perform operation))

end Account

/-! ## Superseded connections -/

theorem run_append (first second : List Operation) :
    session.run server address (first ++ second) =
      (session.run server address first).run server address second :=
  List.foldl_append

theorem run_concat (earlier : List Operation) (operation : Operation) :
    session.run server address (earlier ++ [operation]) =
      (session.run server address earlier).perform server address operation :=
  run_append earlier [operation]

theorem superseded_append (first second : List Operation) :
    superseded server address session (first ++ second) =
      superseded server address session first +
        superseded server address (session.run server address first) second := by
  induction first generalizing session with
  | nil => exact (Nat.zero_add _).symm
  | cons operation first induction =>
      rw [List.cons_append, superseded, superseded, induction, Nat.add_assoc]
      rfl

theorem superseded_eq_zero_iff {operations : List Operation} :
    superseded server address session operations = 0 ↔
      ∀ earlier operation, earlier ++ [operation] <+: operations →
        supersedes server (session.run server address earlier)
          (session.run server address (earlier ++ [operation])) = false := by
  induction operations generalizing session with
  | nil =>
      refine ⟨fun _ earlier operation begins => ?_, fun _ => rfl⟩
      simp at begins
  | cons first operations induction =>
      rw [superseded, Nat.add_eq_zero_iff, induction]
      constructor
      · rintro ⟨now, later⟩ earlier operation begins
        cases earlier with
        | nil =>
            obtain ⟨rfl, -⟩ := List.cons_prefix_cons.1 begins
            exact Bool.toNat_eq_zero.1 now
        | cons second earlier =>
            obtain ⟨rfl, laterBegins⟩ := List.cons_prefix_cons.1 begins
            exact later earlier operation laterBegins
      · intro never
        constructor
        · have now := never [] first (List.prefix_append [first] operations)
          exact Bool.toNat_eq_zero.2 now
        · intro earlier operation begins
          exact never (first :: earlier) operation (List.cons_prefix_cons.2 ⟨rfl, begins⟩)

theorem balanced_run_iff {operations : List Operation} :
    Balanced server (({} : Session).run server address operations) ↔
      superseded server address {} operations = 0 := by
  have account := (Account.initial server).run address operations
  rw [Balanced, account.balance]
  omega

/--
The connections that operations have opened are those that are closed, the one that the session
refers to, and the superseded ones.  So no connection is ever left open behind the session's back
exactly if no operation opens one while the session refers to another; and closing the session or
leaving its scope leaves nothing open but superseded connections.
-/
theorem openings_run (server : Server) (address : Text) (operations : List Operation) :
    let final := ({} : Session).run server address operations
    openings server final =
        final.closings + final.connected.toNat + superseded server address {} operations ∧
      ((∀ earlier, earlier <+: operations →
          Balanced server (({} : Session).run server address earlier)) ↔
        ∀ earlier operation, earlier ++ [operation] <+: operations →
          supersedes server (({} : Session).run server address earlier)
            (({} : Session).run server address (earlier ++ [operation])) = false) ∧
      ∀ last ∈ [Operation.close, Operation.leave],
        let ended := ({} : Session).run server address (operations ++ [last])
        ended.connected = false ∧
          openings server ended = ended.closings + superseded server address {} operations := by
  intro final
  have account (performed : List Operation) :=
    (Account.initial server).run address performed
  refine ⟨?_, ?_, ?_⟩
  · simpa using (account operations).balance
  · rw [← superseded_eq_zero_iff]
    constructor
    · intro balanced
      exact balanced_run_iff.1 (balanced operations (List.prefix_refl _))
    · rintro none earlier ⟨later, rfl⟩
      rw [superseded_append] at none
      exact balanced_run_iff.2 (Nat.eq_zero_of_add_eq_zero_right none)
  · intro last member ended
    have closed : ended = final.close := by
      rcases List.mem_pair.1 member with rfl | rfl <;> exact run_concat operations _
    have same : openings server ended = openings server final := by
      rw [openings, closed, countP_close, openings]
    refine ⟨closed ▸ connected_close, ?_⟩
    rw [same, closed, closings_close]
    simpa using (account operations).balance

/-- A server that accepts every connection. -/
def acceptingServer : Server where
  connecting _ := none
  answering _ _ := .ok {}

/-- To connect twice leaves the first connection open, and nothing closes it any more. -/
theorem exists_unbalanced_run :
    ¬ ∀ (server : Server) (address : Text) (operations : List Operation),
      Balanced server (({} : Session).run server address operations) := by
  intro balanced
  have twice := balanced acceptingServer "mysql://localhost".toList [.connect, .connect]
  exact absurd twice (by decide)

/-! ## Scopes -/

/--
A scope is entered, and it is left if entering it has succeeded, however the action ends that is
carried out in it.
-/
theorem exists_run_within
    {Problem Result : Type}
    (wrap : SessionProblem → Problem)
    {action : Session → Except Problem Result × Session}
    (performs : ∀ current, ∃ operations,
      (action current).2 = current.run server address operations) :
    (session.within server address wrap action).2 = session.run server address [.enter] ∨
      ∃ operations, (session.within server address wrap action).2 =
        session.run server address (.enter :: operations ++ [.leave]) := by
  cases entered : session.connect server address with
  | mk outcome current =>
      have afterwards : session.perform server address .enter = current := congrArg Prod.snd entered
      cases outcome with
      | error problem =>
          left
          simp only [within, entered]
          exact afterwards.symm
      | ok connected =>
          right
          obtain ⟨operations, performed⟩ := performs current
          refine ⟨operations, ?_⟩
          have inside : session.run server address (.enter :: operations) = (action current).2 := by
            rw [performed, ← afterwards]
            rfl
          simp only [within, entered]
          rw [run_concat, inside]
          rfl

end Session

end ProcedureAudit
