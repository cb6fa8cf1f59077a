import ProcedureAudit.Database.Address
import ProcedureAudit.Database.Fault
import ProcedureAudit.Plan

/-!
# Sessions with a server

A session holds at most one connection to a server and sends statements over it.  The server is
given by what it does at each attempt to connect and at each statement; the session keeps the
events of its life, in order.
-/

namespace ProcedureAudit

/-- A statement as it is sent. -/
structure Request where
  sql : Text
  parameters : List Value := []
deriving DecidableEq, Repr

/-- What a server returns for a statement: rows, and how many rows were affected. -/
structure Reply where
  rows : List Row := []
  count : Int := 0
deriving DecidableEq, Repr

/-- A server: the fault of each attempt to connect, if any, and the answer to each statement. -/
structure Server where
  connecting : Nat → Option Fault
  answering : Nat → Request → Except Fault Reply

/-- How the rows of an answer are wanted. -/
inductive Cursor where
  /-- As rows with named columns. -/
  | rows
  /-- As the number of affected rows. -/
  | count
deriving DecidableEq, Repr

/-- Something that happens between a session and its server. -/
inductive Event where
  | connect (address : Address)
  | cursor (wanted : Cursor)
  | execute (request : Request)
  | close
deriving DecidableEq, Repr

/-- Why a session could not do what it was asked for. -/
inductive SessionProblem where
  | address (problem : AddressProblem)
  | unreachable (cause : Fault)
  | notConnected
  | refused (reason : Text)
  | noRows
  | noColumn (name : Text)
  | fault (cause : Fault)

/-- A problem in words. -/
def SessionProblem.message : SessionProblem → Text
  | .address problem => problem.message
  | .unreachable cause =>
    "Failed to connect to database: " ++ cause.message ++ "\nCheck your DATABASE_URL in .env"
  | .notConnected => "MySQLPlanner is not connected"
  | .refused reason => reason
  | .noRows => "list index out of range"
  | .noColumn name => Text.quoted name
  | .fault cause => cause.message

/-- The state of a session. -/
structure Session where
  connected : Bool := false
  /-- How often a connection was attempted. -/
  attempts : Nat := 0
  /-- How many statements were sent. -/
  statements : Nat := 0
  /-- What happened so far, the latest event first. -/
  trace : List Event := []
deriving DecidableEq, Repr

namespace Session

/-- The events in the order in which they happened. -/
def events (session : Session) : List Event :=
  session.trace.reverse

/-- Note an event. -/
def note (event : Event) (session : Session) : Session :=
  { session with trace := event :: session.trace }

/-- Open a connection to the database of an address. -/
def connect
    (server : Server)
    (address : Text)
    (session : Session) :
    Except SessionProblem Unit × Session :=
  match Address.parse address with
  | .error problem => (.error (.address problem), session)
  | .ok address =>
    let tried := { session.note (.connect address) with attempts := session.attempts + 1 }
    match server.connecting session.attempts with
    | none => (.ok (), { tried with connected := true })
    | some fault =>
      if fault.preventsConnection then
        (.error (.unreachable fault), tried)
      else
        (.error (.fault fault), tried)

/-- Close the connection, if there is one. -/
def close (session : Session) : Session :=
  if session.connected then
    { session.note .close with connected := false }
  else
    session

/-- Send a statement over the connection. -/
def send
    (server : Server)
    (wanted : Cursor)
    (request : Request)
    (session : Session) :
    Except SessionProblem Reply × Session :=
  if session.connected then
    let sent :=
      { (session.note (.cursor wanted)).note (.execute request) with
        statements := session.statements + 1 }
    match server.answering session.statements request with
    | .ok reply => (.ok reply, sent)
    | .error fault => (.error (.fault fault), sent)
  else
    (.error .notConnected, session)

/-- The rows that a statement returns. -/
def fetch
    (server : Server)
    (request : Request)
    (session : Session) :
    Except SessionProblem (List Row) × Session :=
  let (outcome, session) := session.send server .rows request
  (outcome.map Reply.rows, session)

/-- The number of rows that a statement affects. -/
def execute
    (server : Server)
    (request : Request)
    (session : Session) :
    Except SessionProblem Int × Session :=
  let (outcome, session) := session.send server .count request
  (outcome.map Reply.count, session)

/-- The statement that asks for the plan of a query. -/
def explainRequest (query : Text) : Request where
  sql := "EXPLAIN " ++ query

/-- The plan of a query; a fault of the database means that the query is refused. -/
def explain
    (server : Server)
    (query : Text)
    (session : Session) :
    Except SessionProblem (List Row) × Session :=
  match session.fetch server (explainRequest query) with
  | (.error (.fault fault), session) =>
    if fault.category = .database then
      (.error (.refused fault.reason), session)
    else if fault.category = .refusal then
      (.error (.refused fault.message), session)
    else
      (.error (.fault fault), session)
  | answer => answer

/-- The statement that asks for the version of the server. -/
def versionRequest : Request where
  sql := "SELECT VERSION() AS version"

/-- The version of the server. -/
def version (server : Server) (session : Session) : Except SessionProblem Value × Session :=
  match session.fetch server versionRequest with
  | (.error problem, session) => (.error problem, session)
  | (.ok [], session) => (.error .noRows, session)
  | (.ok (row :: _), session) =>
    match row.lookup "version".toList with
    | some value => (.ok value, session)
    | none => (.error (.noColumn "version"), session)

/--
Connect, do something, and close the connection again, whatever comes of it.  `wrap` says how a
failure to connect counts among the failures of the action.
-/
def within
    {Problem Result : Type}
    (server : Server)
    (address : Text)
    (wrap : SessionProblem → Problem)
    (action : Session → Except Problem Result × Session)
    (session : Session) :
    Except Problem Result × Session :=
  match session.connect server address with
  | (.error problem, session) => (.error (wrap problem), session)
  | (.ok _, session) =>
    let (outcome, session) := action session
    (outcome, session.close)

end Session

end ProcedureAudit
