import ProcedureAudit.Proofs.Fixture.Attempts
import ProcedureAudit.Proofs.Query.Registry

/-!
# The script of seeding

For each account the same sixteen statements are executed in the same order, with one user and one
session token throughout; only the reset of the password makes up another token, which it inserts
and gives up again.  A run in which no statement fails executes the scripts of all accounts, and
what it records are the values of the first one.
-/

namespace ProcedureAudit.Fixture

/-! ## Parameters by column -/

/-- The columns that the parameters of a statement belong to, in order. -/
def Statement.columns : Statement → List String
  | .insert table _ => table.columns
  | .deleteUser _ _ => ["uid"]
  | .deleteToken _ _ => ["tokenId"]

/-- The parameter of a statement for a column, if it has that column. -/
def Statement.parameter? (column : String) (statement : Statement) : Option Value :=
  (statement.columns.zip statement.request.parameters).lookup column

/-! ## The script of one account -/

/-- The texts of the statements for one account. -/
def scriptTexts : List Text :=
  [ Statement.insertText .accounts,
    Statement.insertText .emails,
    Statement.insertText .emails,
    Statement.insertText .sessionTokens,
    Statement.insertText .unverifiedTokens,
    Statement.insertText .devices,
    Statement.insertText .keyFetchTokens,
    Statement.deleteText .passwordChangeTokens "uid",
    Statement.insertText .passwordChangeTokens,
    Statement.deleteText .passwordForgotTokens "uid",
    Statement.insertText .passwordForgotTokens,
    Statement.deleteText .passwordForgotTokens "uid",
    Statement.insertText .passwordForgotTokens,
    Statement.deleteText .passwordForgotTokens "tokenId",
    Statement.deleteText .accountResetTokens "uid",
    Statement.insertText .accountResetTokens ]

/-- The token that the reset of the password inserts and gives up again. -/
def Draws.givenUp (draws : Draws) : Value :=
  draws.octets 18 32

/-- The known arguments that an account has to offer. -/
def Draws.arguments (draws : Draws) : List (Text × Value) :=
  [ ("email", .text (draws.email 0)),
    ("emailcode", draws.octets 1 16),
    ("normalizedemail", .text (Text.lower (draws.email 0))),
    ("uid", draws.user),
    ("sessiontokenid", draws.token),
    ("tokenid", draws.token),
    ("tokenverificationid", draws.octets 10 16),
    ("deviceid", draws.octets 12 16),
    ("id", draws.octets 12 16) ]

/-- Where the values of the known arguments are inserted: the statement and the column of each. -/
def argumentPlaces : List (Nat × String) :=
  [ (0, "email"), (0, "emailCode"), (0, "normalizedEmail"), (0, "uid"), (3, "tokenId"),
    (3, "tokenId"), (4, "tokenVerificationId"), (5, "id"), (5, "id") ]

/-- The statements follow the script with the draws of an account. -/
structure Draws.Scripted (draws : Draws) (statements : List Statement) : Prop where
  texts : statements.map (fun statement => statement.request.sql) = scriptTexts
  /-- Each column has its parameter. -/
  complete : ∀ statement ∈ statements,
    statement.request.parameters.length = statement.columns.length
  /-- The primary address comes before the secondary one. -/
  primary : statements.map (Statement.parameter? "isPrimary") =
    none :: some (.boolean true) :: some (.boolean false) :: List.replicate 13 none
  users : ∀ statement ∈ statements, ∀ user ∈ statement.parameter? "uid", user = draws.user
  /-- All tokens but those of the second insertion for forgotten passwords and its deletion. -/
  tokens : ∀ statement ∈ statements.take 12 ++ statements.drop 14,
    ∀ column ∈ ["tokenId", "sessionTokenId"], ∀ token ∈ statement.parameter? column,
      token = draws.token
  otherTokens : ((statements.drop 12).take 2).map (Statement.parameter? "tokenId") =
    [some draws.givenUp, some draws.givenUp]
  /-- The values of the known arguments are those that were inserted. -/
  inserted : argumentPlaces.map (fun (number, column) =>
      statements[number]?.bind (Statement.parameter? column)) =
    draws.arguments.map fun argument => some argument.2

theorem forall_parameter?_of_map_eq
    {column : String}
    {statements : List Statement}
    {expected : Value}
    (parameters : List (Option Value))
    (listed : statements.map (Statement.parameter? column) = parameters)
    (same : ∀ parameter ∈ parameters, ∀ value ∈ parameter, value = expected) :
    ∀ statement ∈ statements, ∀ value ∈ statement.parameter? column, value = expected := by
  intro statement member
  exact same _ (listed ▸ List.mem_map_of_mem member)

theorem scripted_steps (agent : Agent) (draws : Draws) :
    draws.Scripted (statements (draws.steps agent)) where
  texts := rfl
  complete := by
    have counted : (statements (draws.steps agent)).map
          (fun statement => statement.request.parameters.length) =
        (statements (draws.steps agent)).map (fun statement => statement.columns.length) :=
      rfl
    exact List.map_inj_left.1 counted
  primary := rfl
  users := by
    refine forall_parameter?_of_map_eq
      (List.replicate 13 (some draws.user) ++ none :: List.replicate 2 (some draws.user)) rfl ?_
    simp
  tokens := by
    have identifiers : ∀ statement ∈
        (statements (draws.steps agent)).take 12 ++ (statements (draws.steps agent)).drop 14,
        ∀ token ∈ statement.parameter? "tokenId", token = draws.token := by
      refine forall_parameter?_of_map_eq
        [ none, none, none, some draws.token, some draws.token, none, some draws.token, none,
          some draws.token, none, some draws.token, none, none, some draws.token ] rfl ?_
      simp
    have sessions : ∀ statement ∈
        (statements (draws.steps agent)).take 12 ++ (statements (draws.steps agent)).drop 14,
        ∀ token ∈ statement.parameter? "sessionTokenId", token = draws.token := by
      refine forall_parameter?_of_map_eq
        (List.replicate 5 none ++ some draws.token :: List.replicate 8 none) rfl ?_
      simp
    intro statement member
    simp only [List.forall_mem_cons]
    exact ⟨identifiers statement member, sessions statement member,
      fun _ none => (List.not_mem_nil none).elim⟩
  otherTokens := rfl
  inserted := rfl

/-! ## Records -/

theorem entries_steps (agent : Agent) (draws : Draws) :
    entries (draws.steps agent) = draws.arguments :=
  rfl

theorem keyed_arguments (draws : Draws) : Registry.keyed draws.arguments = draws.arguments :=
  rfl

/-- The names of the known arguments, which are the same for each account. -/
def argumentNames : List Text :=
  [ "email", "emailcode", "normalizedemail", "uid", "sessiontokenid", "tokenid",
    "tokenverificationid", "deviceid", "id" ]

theorem map_fst_arguments (draws : Draws) : draws.arguments.map Prod.fst = argumentNames :=
  rfl

theorem nodup_argumentNames : argumentNames.Nodup := by
  decide

/-- The accounts after the first one have no names to offer that it does not bind. -/
theorem recordAll_entries_stepsOfAccounts
    (registry : Registry)
    (sources : Sources)
    (agent : Agent)
    (account : Nat)
    (accounts : List Nat) :
    registry.recordAll (entries (stepsOfAccounts sources agent (account :: accounts))) =
      registry.extendedBy (sources.draws account).arguments := by
  have bound : ∀ entry ∈ entries (stepsOfAccounts sources agent accounts),
      (registry.recordAll (sources.draws account).arguments).contains entry.1 = true := by
    intro entry member
    rw [entries, stepsOfAccounts, List.filterMap_flatMap] at member
    rcases List.mem_flatMap.1 member with ⟨later, -, offered⟩
    have name : entry.1 ∈ (sources.draws later).arguments.map Prod.fst :=
      List.mem_map_of_mem offered
    rw [map_fst_arguments, ← map_fst_arguments (sources.draws account)] at name
    rcases List.mem_map.1 name with ⟨argument, argumentMember, same⟩
    rw [← same]
    exact Registry.contains_recordAll argumentMember registry
  calc
    registry.recordAll (entries (stepsOfAccounts sources agent (account :: accounts))) =
        (registry.recordAll (sources.draws account).arguments).recordAll
          (entries (stepsOfAccounts sources agent accounts)) := by
      rw [stepsOfAccounts, List.flatMap_cons, entries, List.filterMap_append,
        Registry.recordAll_append]
      rfl
    _ = registry.recordAll (sources.draws account).arguments :=
      Registry.recordAll_of_forall_contains bound
    _ = registry.extendedBy (sources.draws account).arguments :=
      Registry.recordAll_eq_extendedBy (keyed_arguments _) nodup_argumentNames registry

/-! ## All accounts -/

/-- Among parts of one size, put one after the other, each is found by its number. -/
theorem take_drop_flatMap
    {Item Part : Type}
    {parts : Item → List Part}
    {size : Nat}
    (sized : ∀ item, (parts item).length = size)
    {items : List Item}
    {number : Nat}
    {item : Item}
    (here : items[number]? = some item) :
    ((items.flatMap parts).drop (size * number)).take size = parts item := by
  induction items generalizing number with
  | nil => contradiction
  | cons first items induction =>
      rw [List.flatMap_cons]
      cases number with
      | zero =>
          obtain rfl := Option.some.inj here
          rw [Nat.mul_zero, List.drop_zero, ← sized first, List.take_left]
      | succ number =>
          have beyond : size * (number + 1) = (parts first).length + size * number := by
            rw [sized, Nat.mul_succ, Nat.add_comm]
          rw [beyond, ← List.drop_drop, List.drop_left]
          exact induction here

theorem statements_stepsOfAccounts (sources : Sources) (agent : Agent) (accounts : List Nat) :
    statements (stepsOfAccounts sources agent accounts) =
      accounts.flatMap fun account => statements ((sources.draws account).steps agent) :=
  List.filterMap_flatMap

theorem scripted_take_drop
    (sources : Sources)
    (agent : Agent)
    {account accounts : Nat}
    (within : account < accounts) :
    (sources.draws account).Scripted
      (((statements (stepsOfAccounts sources agent (List.range accounts))).drop
        (statementsPerAccount * account)).take statementsPerAccount) := by
  rw [statements_stepsOfAccounts,
    take_drop_flatMap (fun account => length_statements_steps agent (sources.draws account))
      (List.getElem?_range within)]
  exact scripted_steps agent (sources.draws account)

theorem registry_of_seed
    {State : Type}
    {respond : Statement → State → Except SessionProblem Unit × State}
    {sources : Sources}
    {count : Int}
    {registry : Registry}
    {state : State}
    {run : SeedingRun (List (Attempt SessionProblem) × State) SeedingProblem}
    (seeded : seed (recording respond) sources count registry ([], state) = run)
    (succeeded : ∀ attempt ∈ run.state.1, attempt.outcome.isOk = true)
    (positive : 1 ≤ count) :
    run.registry = registry.extendedBy (sources.draws 0).arguments := by
  rw [(completed_of_seed seeded succeeded).2.1, seedingSteps, range_toNat_of_pos positive]
  exact recordAll_entries_stepsOfAccounts registry sources _ 0 _

/--
Seeding in which no statement fails succeeds and executes sixteen statements for each account, which
follow the script with the draws of that account.  If there is an account, the known arguments are
extended by those of the first one that were not bound, however many accounts there are.
-/
theorem seed_follows_script
    {State : Type}
    {respond : Statement → State → Except SessionProblem Unit × State}
    {sources : Sources}
    {count : Int}
    {registry : Registry}
    {state : State}
    {run : SeedingRun (List (Attempt SessionProblem) × State) SeedingProblem}
    (seeded : seed (recording respond) sources count registry ([], state) = run)
    (succeeded : ∀ attempt ∈ run.state.1, attempt.outcome.isOk = true) :
    run.outcome = .ok () ∧
      ((executed run.state.1).length : Int) = 16 * max count 0 ∧
      (∀ account < count.toNat,
        (sources.draws account).Scripted (((executed run.state.1).drop (16 * account)).take 16)) ∧
      (1 ≤ count →
        run.registry = registry.extendedBy (sources.draws 0).arguments ∧
          ∀ (more : Int) (other : SeedingRun (List (Attempt SessionProblem) × State) SeedingProblem),
            1 ≤ more →
            seed (recording respond) sources more registry ([], state) = other →
            (∀ attempt ∈ other.state.1, attempt.outcome.isOk = true) →
            other.registry = run.registry) := by
  rcases completed_of_seed seeded succeeded with ⟨outcome, -, made⟩
  rw [made, executed_map_success]
  refine ⟨outcome, ?_, ?_, ?_⟩
  · rw [length_statements_seedingSteps, statementsPerAccount]
    omega
  · intro account within
    exact scripted_take_drop sources (Agent.ofRegistry registry) within
  · intro positive
    refine ⟨registry_of_seed seeded succeeded positive, ?_⟩
    intro more other morePositive otherSeeded otherSucceeded
    rw [registry_of_seed seeded succeeded positive,
      registry_of_seed otherSeeded otherSucceeded morePositive]

/-- A registry that binds one of the names that an account has to offer. -/
def emailBound : Registry :=
  Registry.ofList [("EMAIL", .text "user@example.org")]

/-- Some accounts, with a server that accepts every statement. -/
def acceptedRun (count : Int) : SeedingRun (List (Attempt SessionProblem) × Unit) SeedingProblem :=
  seed (recording fun _ _ => (.ok (), ())) countingSources count emailBound ([], ())

theorem seed_follows_script_acceptedRun :
    (∀ attempt ∈ (acceptedRun 2).state.1, attempt.outcome.isOk = true) ∧
      (acceptedRun 2).outcome = .ok () ∧
      ((executed (acceptedRun 2).state.1).length : Int) = 16 * max 2 0 ∧
      (∀ account < 2,
        (countingSources.draws account).Scripted
          (((executed (acceptedRun 2).state.1).drop (16 * account)).take 16)) ∧
      emailBound.contains "email" = true ∧
      (acceptedRun 2).registry = emailBound.extendedBy (countingSources.draws 0).arguments ∧
      (acceptedRun 1).registry = (acceptedRun 2).registry := by
  have succeeded : ∀ attempt ∈ (acceptedRun 2).state.1, attempt.outcome.isOk = true :=
    List.all_eq_true.1 rfl
  have fewer : ∀ attempt ∈ (acceptedRun 1).state.1, attempt.outcome.isOk = true :=
    List.all_eq_true.1 rfl
  rcases seed_follows_script rfl succeeded with ⟨outcome, length, scripted, registry⟩
  rcases registry (by decide) with ⟨extended, same⟩
  exact ⟨succeeded, outcome, length, scripted, by decide +kernel, extended,
    same 1 (acceptedRun 1) (by decide) rfl fewer⟩

end ProcedureAudit.Fixture
