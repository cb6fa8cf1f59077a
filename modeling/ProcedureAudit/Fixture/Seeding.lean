import ProcedureAudit.Fixture.Statement
import ProcedureAudit.Query.Registry

/-!
# Seeding

Seeding creates accounts with a full set of tokens, so that the values of arguments can be found
in the tables.  One session token serves as token of every kind, and what was drawn for the first
account is recorded as known arguments.

Random octets, random numbers and times are drawn from sources by number: the draws of an account
follow those of the account before it.
-/

namespace ProcedureAudit.Fixture

/-- Where random values and times come from; the first argument counts the draws. -/
structure Sources where
  /-- Random octets, as many as wanted. -/
  octets : Nat → Nat → List UInt8
  /-- A random number below a bound. -/
  below : Nat → Nat → Nat
  /-- The time in seconds, which is finite. -/
  seconds : Nat → Binary64

/-- What the device of a user says about itself. -/
structure Agent where
  browser : Value
  browserVersion : Value
  system : Value
  systemVersion : Value
  deviceType : Value
deriving DecidableEq, Repr

/-- The device that the known arguments describe. -/
def Agent.ofRegistry (registry : Registry) : Agent where
  browser := registry.getD "uabrowser" .null
  browserVersion := registry.getD "uabrowserversion" .null
  system := registry.getD "uaos" .null
  systemVersion := registry.getD "uaosversion" .null
  deviceType := registry.getD "uadevicetype" .null

/-- One step of seeding. -/
inductive Step where
  /-- Record a known argument, unless its name is known already. -/
  | record (name : String) (value : Value)
  | execute (statement : Statement)
deriving DecidableEq, Repr

/-- The random draws that one account takes. -/
def drawsPerAccount : Nat :=
  22

/-- The times that one account takes. -/
def timesPerAccount : Nat :=
  8

/-- A random address of electronic mail. -/
def Sources.email (sources : Sources) (draw : Nat) : Text :=
  Text.padZeros 16 (Text.ofNat (sources.below draw (Nat.pow 10 16))) ++ "@example.com".toList

/-- A time in whole milliseconds; what is left over is dropped. -/
def Sources.milliseconds (sources : Sources) (draw : Nat) : Int :=
  (((sources.seconds draw).mul (Binary64.ofInt 1000)).truncate?).getD 0

/-- The draws of one account. -/
structure Draws where
  octets : Nat → Nat → Value
  email : Nat → Text
  time : Nat → Value

/-- The draws of the account with a number, counted from zero. -/
def Sources.draws (sources : Sources) (account : Nat) : Draws where
  octets draw count := .bytes (sources.octets (account * drawsPerAccount + draw) count)
  email draw := sources.email (account * drawsPerAccount + draw)
  time draw := .integer (sources.milliseconds (account * timesPerAccount + draw))

namespace Draws

/-- The identifier of the user. -/
def user (draws : Draws) : Value :=
  draws.octets 2 16

/-- The session token, which serves as token of every kind. -/
def token (draws : Draws) : Value :=
  draws.octets 9 32

/-- The account and its two addresses. -/
def accountSteps (draws : Draws) : List Step :=
  let email := draws.email 0
  let code := draws.octets 1 16
  let normalized := Text.lower email
  let created := draws.time 0
  let second := draws.email 7
  [ .record "email" (.text email),
    .record "emailcode" code,
    .record "normalizedemail" (.text normalized),
    .record "uid" draws.user,
    .execute (.insert .accounts
      [ draws.user, .text normalized, .text email, code, .boolean true, draws.octets 3 32,
        draws.octets 4 32, draws.octets 5 32, .integer 1, draws.octets 6 32, created, created,
        .text "en_US" ]),
    .execute (.insert .emails
      [ .text normalized, .text email, draws.user, code, .boolean true, .boolean true, created,
        created ]),
    .execute (.insert .emails
      [ .text (Text.lower second), .text second, draws.user, draws.octets 8 16, .boolean true,
        .boolean false, created, created ]) ]

/-- The session token and its verification. -/
def sessionSteps (agent : Agent) (draws : Draws) : List Step :=
  let verification := draws.octets 10 16
  let created := draws.time 1
  [ .record "sessiontokenid" draws.token,
    .record "tokenid" draws.token,
    .record "tokenverificationid" verification,
    .execute (.insert .sessionTokens
      [ draws.token, draws.octets 11 32, draws.user, created, agent.browser,
        agent.browserVersion, agent.system, agent.systemVersion, agent.deviceType, created ]),
    .execute (.insert .unverifiedTokens
      [draws.token, verification, draws.user, .boolean true]) ]

/-- The device of the session. -/
def deviceSteps (agent : Agent) (draws : Draws) : List Step :=
  let device := draws.octets 12 16
  [ .record "deviceid" device,
    .record "id" device,
    .execute (.insert .devices
      [ draws.user, device, draws.token, .text "fake device name", agent.deviceType,
        draws.time 2 ]) ]

/-- A token for forgotten passwords, which replaces those of the user. -/
def forgotSteps (draws : Draws) (token : Value) (draw time : Nat) : List Step :=
  [ .execute (.deleteUser .passwordForgotTokens draws.user),
    .execute (.insert .passwordForgotTokens
      [ token, draws.octets draw 32, draws.user, draws.octets (draw + 1) 16, draws.time time,
        .integer 0 ]) ]

/-- The tokens for keys, for changed passwords, and for forgotten passwords. -/
def tokenSteps (draws : Draws) : List Step :=
  [ .execute (.insert .keyFetchTokens
      [draws.token, draws.octets 13 32, draws.user, draws.octets 14 96, draws.time 3]),
    .execute (.deleteUser .passwordChangeTokens draws.user),
    .execute (.insert .passwordChangeTokens
      [draws.token, draws.octets 15 32, draws.user, draws.time 4]) ] ++
    draws.forgotSteps draws.token 16 5

/-- The token for a reset, for which another token for a forgotten password is given up. -/
def resetSteps (draws : Draws) : List Step :=
  let forgot := draws.octets 18 32
  draws.forgotSteps forgot 19 6 ++
    [ .execute (.deleteToken .passwordForgotTokens forgot),
      .execute (.deleteUser .accountResetTokens draws.user),
      .execute (.insert .accountResetTokens
        [draws.token, draws.octets 21 32, draws.user, draws.time 7]) ]

/-- All steps for one account. -/
def steps (agent : Agent) (draws : Draws) : List Step :=
  draws.accountSteps ++ sessionSteps agent draws ++ deviceSteps agent draws ++
    draws.tokenSteps ++ draws.resetSteps

end Draws

/-! ## Running -/

/-- What came of some steps: the outcome, the known arguments, and the state of the performer. -/
structure SeedingRun (State Problem : Type) where
  outcome : Except Problem Unit
  registry : Registry
  state : State

/--
Carry out steps until a statement fails.  The performer is given as a function from a statement
and its state to its outcome and its next state.
-/
def runSteps
    {State Problem : Type}
    (perform : Statement → State → Except Problem Unit × State) :
    List Step → Registry → State → SeedingRun State Problem
  | [], registry, state => { outcome := .ok (), registry, state }
  | .record name value :: steps, registry, state =>
    runSteps perform steps (registry.record name value) state
  | .execute statement :: steps, registry, state =>
    match perform statement state with
    | (.ok _, state) => runSteps perform steps registry state
    | (.error problem, state) => { outcome := .error problem, registry, state }

/-- Create accounts with the given numbers, until a statement fails. -/
def runAccounts
    {State Problem : Type}
    (perform : Statement → State → Except Problem Unit × State)
    (sources : Sources)
    (agent : Agent) :
    List Nat → Registry → State → SeedingRun State Problem
  | [], registry, state => { outcome := .ok (), registry, state }
  | account :: accounts, registry, state =>
    let run := runSteps perform ((sources.draws account).steps agent) registry state
    match run.outcome with
    | .ok _ => runAccounts perform sources agent accounts run.registry run.state
    | .error _ => run

/-- How many accounts are created if no number is given. -/
def defaultCount : Int :=
  100

/-- Why seeding stopped. -/
inductive SeedingProblem where
  /-- A statement failed. -/
  | statement (cause : SessionProblem)
  /-- The program was to stop, or someone said already that seeding had failed. -/
  | stopped (cause : Fault)

/-- A problem in words. -/
def SeedingProblem.message : SeedingProblem → Text
  | .statement cause => "Failed to seed fixture records: " ++ cause.message
  | .stopped cause => cause.message

/-- What a failed statement means for seeding. -/
def SeedingProblem.ofSession : SessionProblem → SeedingProblem
  | .fault cause =>
    if cause.category = .seeding ∨ cause.isError = false then
      .stopped cause
    else
      .statement (.fault cause)
  | problem => .statement problem

/-- Create as many accounts as wanted, a negative number standing for none. -/
def seed
    {State : Type}
    (perform : Statement → State → Except SessionProblem Unit × State)
    (sources : Sources)
    (count : Int)
    (registry : Registry)
    (state : State) :
    SeedingRun State SeedingProblem :=
  let run :=
    runAccounts perform sources (Agent.ofRegistry registry) (List.range count.toNat) registry state
  { run with outcome := run.outcome.mapError SeedingProblem.ofSession }

end ProcedureAudit.Fixture
