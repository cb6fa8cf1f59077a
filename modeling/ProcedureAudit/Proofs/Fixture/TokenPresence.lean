import Mathlib.Data.List.Nodup
import ProcedureAudit.Proofs.Fixture.Script
import ProcedureAudit.Proofs.Fixture.Tables

/-!
# The seeded token in the token tables

The known argument for token identifiers is the session token of the first account.  After seeding
it is the identifier of some row in each token table but that of the tokens for forgotten
passwords: there the reset of the password deletes the row again, and the token is only found if
it stood there before, with a user that is none of the accounts.
-/

namespace ProcedureAudit.Fixture

/-! ## Random octets -/

/-- The draws of random octets for one account: the number of the draw and how many are wanted. -/
def octetDraws : List (Nat × Nat) :=
  [ (1, 16), (2, 16), (3, 32), (4, 32), (5, 32), (6, 32), (8, 16), (9, 32), (10, 16), (11, 32),
    (12, 16), (13, 32), (14, 96), (15, 32), (16, 32), (17, 16), (18, 32), (19, 32), (20, 16),
    (21, 32) ]

/-- The draws of random octets for as many accounts. -/
def octetDrawsOf (accounts : Nat) : List (Nat × Nat) :=
  (List.range accounts).flatMap fun account =>
    octetDraws.map fun (draw, size) => (account * drawsPerAccount + draw, size)

/-- No two draws for the accounts give the same octets. -/
def Sources.Distinct (sources : Sources) (accounts : Nat) : Prop :=
  ((octetDrawsOf accounts).map fun (draw, size) => sources.octets draw size).Nodup

instance (sources : Sources) (accounts : Nat) : Decidable (sources.Distinct accounts) :=
  inferInstanceAs (Decidable (List.Nodup _))

theorem Sources.Distinct.draw_eq
    {sources : Sources}
    {accounts first second firstDraw secondDraw firstSize secondSize : Nat}
    (distinct : sources.Distinct accounts)
    (firstWithin : first < accounts)
    (firstDrawn : (firstDraw, firstSize) ∈ octetDraws)
    (secondWithin : second < accounts)
    (secondDrawn : (secondDraw, secondSize) ∈ octetDraws)
    (same : (sources.draws first).octets firstDraw firstSize =
      (sources.draws second).octets secondDraw secondSize) :
    first * drawsPerAccount + firstDraw = second * drawsPerAccount + secondDraw := by
  have drawn {account draw size : Nat} (within : account < accounts)
      (member : (draw, size) ∈ octetDraws) :
      (account * drawsPerAccount + draw, size) ∈ octetDrawsOf accounts :=
    List.mem_flatMap.2
      ⟨account, List.mem_range.2 within, List.mem_map.2 ⟨(draw, size), member, rfl⟩⟩
  have pair := List.inj_on_of_nodup_map distinct (drawn firstWithin firstDrawn)
    (drawn secondWithin secondDrawn) (Value.bytes.inj same)
  exact congrArg Prod.fst pair

theorem Sources.Distinct.user_ne
    {sources : Sources}
    {accounts first second : Nat}
    (distinct : sources.Distinct accounts)
    (firstWithin : first < accounts)
    (secondWithin : second < accounts)
    (differ : first ≠ second) :
    (sources.draws first).user ≠ (sources.draws second).user := by
  intro same
  have draw := distinct.draw_eq firstWithin (by decide) secondWithin (by decide) same
  unfold drawsPerAccount at draw
  omega

/-- No token is the one that an account gives up. -/
theorem Sources.Distinct.token_ne
    {sources : Sources}
    {accounts first second : Nat}
    (distinct : sources.Distinct accounts)
    (firstWithin : first < accounts)
    (secondWithin : second < accounts) :
    (sources.draws first).token ≠ (sources.draws second).octets 18 32 := by
  intro same
  have draw := distinct.draw_eq firstWithin (by decide) secondWithin (by decide) same
  unfold drawsPerAccount at draw
  omega

/-! ## Records -/

/-- The first account records its session token, unless a token is known already. -/
theorem get?_recordAll_stepsOfAccounts
    {registry : Registry}
    (unbound : registry.get? "tokenid" = none)
    (sources : Sources)
    (agent : Agent)
    (account : Nat)
    (accounts : List Nat) :
    (registry.recordAll (entries (stepsOfAccounts sources agent (account :: accounts)))).get?
        "tokenid" =
      some (sources.draws account).token := by
  have recorded : (Registry.keyed (entries ((sources.draws account).steps agent))).lookup
      (Registry.key "tokenid") = some (sources.draws account).token := by
    rw [entries_steps, keyed_arguments]
    rfl
  rw [Registry.get?_recordAll, unbound, Option.none_or, stepsOfAccounts, List.flatMap_cons, entries,
    List.filterMap_append, Registry.keyed, List.map_append, List.lookup_append]
  exact (congrArg (Option.or · _) recorded).trans Option.some_or

/-! ## Rows -/

section Accounts

variable {sources : Sources} {agent : Agent} {accounts : List Nat} {table : Table}
  {rows : List (List Value)} {row : List Value}

/-- In each table but one, a row stays if its user is none of the accounts. -/
theorem mem_foldl_rowsAfter_of_ne
    (present : row ∈ rows)
    (foreign : ∀ account ∈ accounts, table.cell row "uid" ≠ some (sources.draws account).user)
    (other : table ≠ .passwordForgotTokens) :
    row ∈ accounts.foldl
      (fun rows account => (sources.draws account).rowsAfter agent table rows) rows := by
  induction accounts generalizing rows with
  | nil => exact present
  | cons account accounts induction =>
      rw [List.forall_mem_cons] at foreign
      exact induction (mem_rowsAfter_of_ne present foreign.1 other) foreign.2

/-- The token of the first account stays in each token table but one. -/
theorem exists_mem_foldl_rowsAfter
    (account : Nat)
    (rows : List (List Value))
    (foreign : ∀ later ∈ accounts, (sources.draws account).user ≠ (sources.draws later).user)
    (named : "tokenId" ∈ table.columns)
    (other : table ≠ .passwordForgotTokens) :
    ∃ row ∈ (account :: accounts).foldl
        (fun rows account => (sources.draws account).rowsAfter agent table rows) rows,
      table.cell row "tokenId" = some (sources.draws account).token := by
  rcases exists_mem_rowsAfter agent (sources.draws account) rows named other with
    ⟨row, present, token, user⟩
  refine ⟨row, ?_, token⟩
  rw [List.foldl_cons]
  refine mem_foldl_rowsAfter_of_ne present ?_ other
  intro later member same
  rw [user] at same
  exact foreign later member (Option.some.inj same)

/-- The tokens for forgotten passwords that are left are those that no account has removed. -/
theorem mem_foldl_rowsAfter_passwordForgotTokens_iff :
    row ∈ accounts.foldl
        (fun rows account => (sources.draws account).rowsAfter agent .passwordForgotTokens rows)
        rows ↔
      row ∈ rows ∧ ∀ account ∈ accounts,
        Table.cell .passwordForgotTokens row "uid" ≠ some (sources.draws account).user ∧
          Table.cell .passwordForgotTokens row "tokenId" ≠
            some ((sources.draws account).octets 18 32) := by
  induction accounts generalizing rows with
  | nil => simp
  | cons account accounts induction =>
      rw [List.foldl_cons, induction, mem_rowsAfter_passwordForgotTokens_iff,
        List.forall_mem_cons, and_assoc]

end Accounts

/-! ## The known token -/

/-- A token is the identifier of some row of a table. -/
def Tables.HoldToken (tables : Tables) (table : Table) (token : Value) : Prop :=
  ∃ row ∈ tables table, table.cell row "tokenId" = some token

/--
After seeding, the known token stands in each token table but one.  It stands among the tokens for
forgotten passwords exactly if it did so before, in a row of a user who is none of the accounts.
-/
theorem token_held_after_seed
    {State : Type}
    {respond : Statement → State → Except SessionProblem Unit × State}
    {sources : Sources}
    {count : Int}
    {registry : Registry}
    {tables : Tables}
    {state : State}
    {run : SeedingRun (Tables × State) SeedingProblem}
    (positive : 1 ≤ count)
    (distinct : sources.Distinct count.toNat)
    (unbound : registry.get? "tokenid" = none)
    (seeded : seed (watching Tables.apply respond) sources count registry (tables, state) = run)
    (succeeded : run.outcome = .ok ()) :
    ∃ token, run.registry.get? "tokenid" = some token ∧
      (∀ table, "tokenId" ∈ Table.columns table → table ≠ .passwordForgotTokens →
        run.state.1.HoldToken table token) ∧
      (run.state.1.HoldToken .passwordForgotTokens token ↔
        ∃ row ∈ tables .passwordForgotTokens,
          Table.cell .passwordForgotTokens row "tokenId" = some token ∧
            ∀ account < count.toNat,
              Table.cell .passwordForgotTokens row "uid" ≠ some (sources.draws account).user) := by
  subst seeded
  rcases after_seed_of_ok Tables.apply succeeded with ⟨records, effects⟩
  have rowsAt (table : Table) :
      (seed (watching Tables.apply respond) sources count registry (tables, state)).state.1 table =
        (List.range count.toNat).foldl (fun rows account =>
          (sources.draws account).rowsAfter (Agent.ofRegistry registry) table rows)
          (tables table) := by
    rw [effects, foldl_apply, seedingSteps, foldl_onRows_stepsOfAccounts]
  have nonempty : 0 < count.toNat := by omega
  have first := range_toNat_of_pos positive
  refine ⟨(sources.draws 0).token, ?_, ?_, ?_⟩
  · rw [records, seedingSteps, first]
    exact get?_recordAll_stepsOfAccounts unbound _ _ _ _
  · -- The first account inserts the row; the later accounts have other users and let it stay.
    intro table named other
    unfold Tables.HoldToken
    rw [rowsAt, first]
    refine exists_mem_foldl_rowsAfter 0 (tables table) ?_ named other
    intro later member
    rcases List.mem_map.1 member with ⟨earlier, within, rfl⟩
    have within := List.mem_range.1 within
    exact distinct.user_ne nonempty (by omega) (Nat.succ_ne_zero earlier).symm
  · unfold Tables.HoldToken
    simp only [rowsAt, mem_foldl_rowsAfter_passwordForgotTokens_iff, List.mem_range]
    constructor
    · rintro ⟨row, ⟨present, kept⟩, token⟩
      exact ⟨row, present, token, fun account within => (kept account within).1⟩
    · rintro ⟨row, present, token, foreign⟩
      refine ⟨row, ⟨present, fun account within => ⟨foreign account within, ?_⟩⟩, token⟩
      intro givenUp
      rw [token] at givenUp
      exact distinct.token_ne nonempty within (Option.some.inj givenUp)

/-- One account in empty tables, with a server that accepts every statement. -/
def countingRun : SeedingRun (Tables × Unit) SeedingProblem :=
  seed (watching Tables.apply fun _ _ => (.ok (), ())) countingSources 1
    (Registry.withFixedArguments []) (fun _ => [], ())

theorem token_held_after_seed_countingRun :
    countingSources.Distinct 1 ∧
      (Registry.withFixedArguments []).get? "tokenid" = none ∧
      countingRun.outcome = .ok () ∧
      ∃ token, countingRun.registry.get? "tokenid" = some token ∧
        (∀ table, "tokenId" ∈ Table.columns table → table ≠ .passwordForgotTokens →
          countingRun.state.1.HoldToken table token) ∧
        (countingRun.state.1.HoldToken .passwordForgotTokens token ↔
          ∃ row ∈ ([] : List (List Value)),
            Table.cell .passwordForgotTokens row "tokenId" = some token ∧
              ∀ account < 1,
                Table.cell .passwordForgotTokens row "uid" ≠
                  some (countingSources.draws account).user) := by
  have distinct : countingSources.Distinct 1 := by decide +kernel
  have unbound : (Registry.withFixedArguments []).get? "tokenid" = none := by decide +kernel
  exact ⟨distinct, unbound, rfl, token_held_after_seed (by decide) distinct unbound rfl rfl⟩

/-- One account in empty tables leaves no token for forgotten passwords. -/
theorem known_token_not_held_countingRun :
    countingSources.Distinct 1 ∧
      (Registry.withFixedArguments []).get? "tokenid" = none ∧
      countingRun.outcome = .ok () ∧
      countingRun.registry.get? "tokenid" = some (countingSources.draws 0).token ∧
      ¬countingRun.state.1.HoldToken .passwordForgotTokens (countingSources.draws 0).token := by
  have distinct : countingSources.Distinct 1 := by decide +kernel
  have unbound : (Registry.withFixedArguments []).get? "tokenid" = none := by decide +kernel
  have noRows : countingRun.state.1 .passwordForgotTokens = [] := by decide +kernel
  refine ⟨distinct, unbound, rfl, by decide +kernel, ?_⟩
  rintro ⟨row, present, -⟩
  rw [noRows] at present
  exact List.not_mem_nil present

end ProcedureAudit.Fixture
