import Mathlib.Data.List.Nodup
import ProcedureAudit.Proofs.Fixture.Attempts
import ProcedureAudit.Proofs.Fixture.Tables

/-!
# One token for each user

Three tables hold at most one token of each user.  Seeding keeps them so at every moment, wherever
it fails and however users repeat: a token comes into such a table only by replacement, right after
the tokens of its user were deleted.
-/

namespace ProcedureAudit.Fixture

/-- The tables that hold at most one token of each user. -/
def singleTokenTables : List Table :=
  [.passwordChangeTokens, .passwordForgotTokens, .accountResetTokens]

/-- No two rows of a table have the same user. -/
def Table.OnePerUser (table : Table) (rows : List (List Value)) : Prop :=
  (rows.filterMap fun row => table.cell row "uid").Nodup

instance (table : Table) (rows : List (List Value)) : Decidable (table.OnePerUser rows) :=
  inferInstanceAs (Decidable (List.Nodup _))

/-- Each of the tables with single tokens has at most one row for each user. -/
def Tables.Single (tables : Tables) : Prop :=
  ∀ table ∈ singleTokenTables, table.OnePerUser (tables table)

instance (tables : Tables) : Decidable tables.Single :=
  have (table : Table) : Decidable (table.OnePerUser (tables table)) := inferInstance
  List.decidableBAll _ singleTokenTables

/-! ## Statements -/

section Statements

variable {table : Table} {rows : List (List Value)} {row : List Value} {user : Value}
  {tables : Tables}

theorem Table.OnePerUser.deleted
    (single : table.OnePerUser rows)
    (column : String)
    (value : Value) :
    table.OnePerUser (deleted table column value rows) :=
  single.sublist (List.filter_sublist.filterMap _)

/-- A row replaces the rows of its user. -/
theorem Table.OnePerUser.replaced
    (single : table.OnePerUser rows)
    (own : table.cell row "uid" = some user) :
    table.OnePerUser (Fixture.deleted table "uid" user rows ++ [row]) := by
  have gone : user ∉ (Fixture.deleted table "uid" user rows).filterMap
      fun row => table.cell row "uid" := by
    intro member
    rcases List.mem_filterMap.1 member with ⟨left, present, same⟩
    exact (mem_deleted_iff.1 present).2 same
  rw [Table.OnePerUser, List.filterMap_append, List.filterMap_cons]
  rw [own, List.nodup_append]
  refine ⟨single.deleted "uid" user, List.nodup_singleton user, ?_⟩
  rintro other member same isOwn rfl
  exact gone (List.mem_singleton.1 isOwn ▸ member)

theorem Table.OnePerUser.onRows
    (single : table.OnePerUser rows)
    {statement : Statement}
    (other : ∀ row, statement ≠ .insert table row) :
    table.OnePerUser (statement.onRows table rows) := by
  cases statement with
  | insert into row =>
      have apart : into ≠ table := fun same => other row (congrArg (Statement.insert · row) same)
      rwa [Statement.onRows, if_neg apart]
  | deleteUser into user =>
      rw [Statement.onRows]
      split
      · exact single.deleted "uid" user
      · exact single
  | deleteToken into token =>
      rw [Statement.onRows]
      split
      · exact single.deleted "tokenId" token
      · exact single

end Statements

/-- Statements by which tokens come into the tables with single tokens only as replacements. -/
inductive Replacing : List Statement → Prop where
  | nil : Replacing []
  /-- A statement that does not insert into a table with single tokens. -/
  | other
      {statement : Statement}
      {statements : List Statement}
      (other : ∀ table ∈ singleTokenTables, ∀ row, statement ≠ .insert table row)
      (rest : Replacing statements) :
      Replacing (statement :: statements)
  /-- A token that is inserted right after the tokens of its user were deleted. -/
  | token
      {table : Table}
      {row : List Value}
      {user : Value}
      {statements : List Statement}
      (own : table.cell row "uid" = some user)
      (rest : Replacing statements) :
      Replacing (.deleteUser table user :: .insert table row :: statements)

namespace Replacing

variable {first second statements : List Statement} {table : Table} {row : List Value}

theorem append (begins : Replacing first) (goesOn : Replacing second) :
    Replacing (first ++ second) := by
  induction begins with
  | nil => exact goesOn
  | other other _ induction => exact .other other induction
  | token own _ induction => exact .token own induction

theorem insert (apart : table ∉ singleTokenTables) (rest : Replacing statements) :
    Replacing (.insert table row :: statements) := by
  refine .other ?_ rest
  rintro table member row ⟨⟩
  exact apart member

theorem deleteToken {token : Value} (rest : Replacing statements) :
    Replacing (.deleteToken table token :: statements) := by
  refine .other ?_ rest
  rintro table member row ⟨⟩

/-- The tables stay single through any first part of the statements. -/
theorem single_foldl
    {tables : Tables}
    {done : List Statement}
    (replacing : Replacing statements)
    (isPrefix : done <+: statements)
    (single : tables.Single) :
    (done.foldl Tables.apply tables).Single := by
  induction replacing generalizing done tables with
  | nil =>
      rw [List.prefix_nil.1 isPrefix]
      exact single
  | other other _ induction =>
      rcases List.prefix_cons_iff.1 isPrefix with rfl | ⟨after, rfl, afterPrefix⟩
      · exact single
      · rw [List.foldl_cons]
        refine induction afterPrefix ?_
        intro table member
        exact (single table member).onRows (other table member)
  | @token into row user _ own _ induction =>
      rcases List.prefix_cons_iff.1 isPrefix with rfl | ⟨after, rfl, afterPrefix⟩
      · exact single
      -- Between the two statements, rows were only deleted.
      have cleared : (tables.apply (.deleteUser into user)).Single := by
        intro table member
        refine (single table member).onRows ?_
        rintro row ⟨⟩
      rcases List.prefix_cons_iff.1 afterPrefix with rfl | ⟨last, rfl, lastPrefix⟩
      · exact cleared
      -- Only the table of the token changes again, and in it no row of the user is left.
      rw [List.foldl_cons, List.foldl_cons]
      refine induction lastPrefix ?_
      intro table member
      by_cases same : into = table
      · subst same
        have replaced := (single into member).replaced own
        simpa [Tables.apply, Statement.onRows] using replaced
      · refine (cleared table member).onRows ?_
        rintro other ⟨⟩
        exact same rfl

end Replacing

/-- Each account replaces the tokens of its user, twice in the table of forgotten passwords. -/
theorem replacing_steps (agent : Agent) (draws : Draws) :
    Replacing (statements (draws.steps agent)) :=
  .insert (by decide) <| .insert (by decide) <| .insert (by decide) <|
  .insert (by decide) <| .insert (by decide) <| .insert (by decide) <| .insert (by decide) <|
  .token rfl <| .token rfl <| .token rfl <| .deleteToken <| .token rfl .nil

theorem replacing_stepsOfAccounts (sources : Sources) (agent : Agent) (accounts : List Nat) :
    Replacing (statements (stepsOfAccounts sources agent accounts)) := by
  induction accounts with
  | nil => exact .nil
  | cons account accounts induction =>
      rw [stepsOfAccounts, List.flatMap_cons, statements, List.filterMap_append]
      exact (replacing_steps agent (sources.draws account)).append induction

/-! ## Seeding -/

/--
At every moment of seeding, each table with single tokens has at most one row for each user, if it
was so before.
-/
theorem tables_single_during_seed
    {State : Type}
    {respond : Statement → State → Except SessionProblem Unit × State}
    {sources : Sources}
    {count : Int}
    {registry : Registry}
    {state : State}
    {run : SeedingRun (List (Attempt SessionProblem) × State) SeedingProblem}
    {tables : Tables}
    {attempts : List (Attempt SessionProblem)}
    (single : tables.Single)
    (seeded : seed (recording respond) sources count registry ([], state) = run)
    (made : attempts <+: run.state.1) :
    ((executed attempts).foldl Tables.apply tables).Single := by
  have begins : executed attempts <+: executed run.state.1 :=
    (made.filter _).map _
  exact (replacing_stepsOfAccounts ..).single_foldl
    (begins.trans (executed_isPrefix_of_seed seeded)) single

/-- Sources from which every account draws the same user and the same tokens. -/
def constantSources : Sources where
  octets _ size := List.replicate size 7
  below _ _ := 3
  seconds _ := Binary64.ofInt 1500000000

/-- Tables with a row of the user of the constant sources and a row of another user. -/
def occupiedTables : Tables := fun table =>
  [(constantSources.draws 0).user, .bytes (List.replicate 16 8)].map fun user =>
    table.columns.map fun column => if column = "uid" then user else .null

/-- Three accounts, of which the last one is not finished: the statement after 42 others fails. -/
def repeatedRun : SeedingRun (List (Attempt SessionProblem) × Nat) SeedingProblem :=
  seed
    (recording fun _ left =>
      match left with
      | 0 => (.error (.fault (Fault.ofName "OperationalError" [])), 0)
      | left + 1 => (.ok (), left))
    constantSources 3 (Registry.ofList []) ([], 42)

theorem tables_single_during_seed_repeatedRun :
    occupiedTables.Single ∧
      repeatedRun.state.1.length = 43 ∧
      ∀ moment, ((executed (repeatedRun.state.1.take moment)).foldl Tables.apply
        occupiedTables).Single := by
  have single : occupiedTables.Single := by decide +kernel
  refine ⟨single, rfl, ?_⟩
  intro moment
  exact tables_single_during_seed single rfl (List.take_prefix moment _)

end ProcedureAudit.Fixture
