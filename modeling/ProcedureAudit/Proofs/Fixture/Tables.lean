import Mathlib.Data.List.Basic
import ProcedureAudit.Proofs.Fixture.Running

/-!
# Tables of rows

A database is read as one list of rows for each table.  A statement then changes the rows of its
own table, and the statements of an account have a net effect on each table: its rows from other
users stay, and all but one table keep a row that joins the session token to the user.  The table
of tokens for forgotten passwords keeps no row of the account at all.
-/

namespace ProcedureAudit.Fixture

def Tables : Type :=
  Table → List (List Value)

/-- The value of a row in a column. -/
def Table.cell (table : Table) (row : List Value) (column : String) : Option Value :=
  (table.columns.zip row).lookup column

/-- What is left of some rows when those with a value in a column are deleted. -/
def deleted (table : Table) (column : String) (value : Value) (rows : List (List Value)) :
    List (List Value) :=
  rows.filter fun row => table.cell row column ≠ some value

/-- The rows of a table after a statement. -/
def Statement.onRows (table : Table) (rows : List (List Value)) : Statement → List (List Value)
  | .insert other row => if other = table then rows ++ [row] else rows
  | .deleteUser other user => if other = table then deleted table "uid" user rows else rows
  | .deleteToken other token => if other = table then deleted table "tokenId" token rows else rows

def Tables.apply (tables : Tables) (statement : Statement) : Tables :=
  fun table => statement.onRows table (tables table)

/-- The rows of a table after the statements of one account. -/
def Draws.rowsAfter
    (agent : Agent)
    (draws : Draws)
    (table : Table)
    (rows : List (List Value)) :
    List (List Value) :=
  (statements (draws.steps agent)).foldl (Statement.onRows table) rows

/-! ## Deleting -/

theorem mem_deleted_iff
    {table : Table}
    {column : String}
    {value : Value}
    {rows : List (List Value)}
    {row : List Value} :
    row ∈ deleted table column value rows ↔ row ∈ rows ∧ table.cell row column ≠ some value := by
  simp [deleted]

/-- A row that was just inserted is deleted again by its own value. -/
theorem deleted_append_own
    {table : Table}
    {column : String}
    {value : Value}
    {own : List Value}
    (has : table.cell own column = some value)
    (rows : List (List Value)) :
    deleted table column value (rows ++ [own]) = deleted table column value rows := by
  simp [deleted, has]

/-! ## Many statements -/

/-- The tables change independently of one another. -/
theorem foldl_apply (statements : List Statement) (tables : Tables) (table : Table) :
    statements.foldl Tables.apply tables table =
      statements.foldl (Statement.onRows table) (tables table) := by
  induction statements generalizing tables with
  | nil => rfl
  | cons statement statements induction => exact induction (tables.apply statement)

/-- The accounts change a table one after the other. -/
theorem foldl_onRows_stepsOfAccounts
    (sources : Sources)
    (agent : Agent)
    (accounts : List Nat)
    (table : Table)
    (rows : List (List Value)) :
    (statements (stepsOfAccounts sources agent accounts)).foldl (Statement.onRows table) rows =
      accounts.foldl (fun rows account => (sources.draws account).rowsAfter agent table rows)
        rows := by
  rw [statements, stepsOfAccounts, List.filterMap_flatMap, List.foldl_flatMap]
  rfl

/-! ## The net effect of one account -/

section Account

variable {agent : Agent} {draws : Draws} {table : Table} {rows : List (List Value)}
  {row : List Value}

/-- Each token table but one holds a row of the account with the session token. -/
theorem exists_mem_rowsAfter
    (agent : Agent)
    (draws : Draws)
    (rows : List (List Value))
    (named : "tokenId" ∈ table.columns)
    (other : table ≠ .passwordForgotTokens) :
    ∃ row ∈ draws.rowsAfter agent table rows,
      table.cell row "tokenId" = some draws.token ∧ table.cell row "uid" = some draws.user := by
  cases table with
  | accounts | emails | devices => exact absurd named (by decide)
  | passwordForgotTokens => exact (other rfl).elim
  | sessionTokens | unverifiedTokens | keyFetchTokens | passwordChangeTokens
  | accountResetTokens =>
      exact ⟨_, List.mem_append_right _ (List.mem_singleton.2 rfl), rfl, rfl⟩

/-- In each table but one, a row that belongs to another user stays. -/
theorem mem_rowsAfter_of_ne
    (present : row ∈ rows)
    (foreign : table.cell row "uid" ≠ some draws.user)
    (other : table ≠ .passwordForgotTokens) :
    row ∈ draws.rowsAfter agent table rows := by
  have kept : row ∈ deleted table "uid" draws.user rows := mem_deleted_iff.2 ⟨present, foreign⟩
  cases table with
  | passwordForgotTokens => exact (other rfl).elim
  | emails => exact List.mem_append_left _ (List.mem_append_left _ present)
  | accounts | sessionTokens | unverifiedTokens | devices | keyFetchTokens =>
      exact List.mem_append_left _ present
  | passwordChangeTokens | accountResetTokens => exact List.mem_append_left _ kept

/--
Of the tokens for forgotten passwords, those stay that belong to another user and are not the one
given up.  The account adds none: the row with its session token goes when the token to be given
up takes its place.
-/
theorem mem_rowsAfter_passwordForgotTokens_iff :
    row ∈ draws.rowsAfter agent .passwordForgotTokens rows ↔
      row ∈ rows ∧
        Table.cell .passwordForgotTokens row "uid" ≠ some draws.user ∧
        Table.cell .passwordForgotTokens row "tokenId" ≠ some (draws.octets 18 32) := by
  have cells (token data code time : Value) :
      Table.cell .passwordForgotTokens [token, data, draws.user, code, time, .integer 0] "tokenId" =
          some token ∧
        Table.cell .passwordForgotTokens [token, data, draws.user, code, time, .integer 0] "uid" =
          some draws.user :=
    ⟨rfl, rfl⟩
  calc
    row ∈ draws.rowsAfter agent .passwordForgotTokens rows ↔
        row ∈ deleted .passwordForgotTokens "tokenId" (draws.octets 18 32)
          (deleted .passwordForgotTokens "uid" draws.user
            (deleted .passwordForgotTokens "uid" draws.user rows ++
              [[draws.token, draws.octets 16 32, draws.user, draws.octets 17 16, draws.time 5,
                .integer 0]]) ++
            [[draws.octets 18 32, draws.octets 19 32, draws.user, draws.octets 20 16,
              draws.time 6, .integer 0]]) :=
      Iff.rfl
    _ ↔ row ∈ deleted .passwordForgotTokens "tokenId" (draws.octets 18 32)
          (deleted .passwordForgotTokens "uid" draws.user
            (deleted .passwordForgotTokens "uid" draws.user rows)) := by
      rw [deleted_append_own (cells ..).1, deleted_append_own (cells ..).2]
    _ ↔ _ := by
      simp only [mem_deleted_iff, and_assoc, and_self_left]

end Account

end ProcedureAudit.Fixture
