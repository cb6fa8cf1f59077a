import Mathlib.Data.List.Basic
import ProcedureAudit.Fixture.Seeding
import ProcedureAudit.Proofs.Database.Session

/-!
# Runs of seeding steps

However the statements are performed, a run carries out the steps in order up to the first
statement that fails.  What it leaves behind is therefore what the steps before that statement
record and what their statements do; the accounts are one list of steps.
-/

namespace ProcedureAudit.Fixture

/-! ## Steps apart into records and statements -/

def Step.entry? : Step → Option (Text × Value)
  | .record name value => some (name, value)
  | .execute _ => none

def Step.statement? : Step → Option Statement
  | .record _ _ => none
  | .execute statement => some statement

/-- What some steps record, in order. -/
def entries (steps : List Step) : List (Text × Value) :=
  steps.filterMap Step.entry?

/-- The statements of some steps, in order. -/
def statements (steps : List Step) : List Statement :=
  steps.filterMap Step.statement?

/-- The steps for the accounts with the given numbers. -/
def stepsOfAccounts (sources : Sources) (agent : Agent) (accounts : List Nat) : List Step :=
  accounts.flatMap fun account => (sources.draws account).steps agent

/-- The steps of all accounts that are wanted. -/
def seedingSteps (sources : Sources) (count : Int) (registry : Registry) : List Step :=
  stepsOfAccounts sources (Agent.ofRegistry registry) (List.range count.toNat)

/-- The accounts that are wanted are the first one and those after it. -/
theorem range_toNat_of_pos {count : Int} (positive : 1 ≤ count) :
    List.range count.toNat = 0 :: (List.range (count.toNat - 1)).map Nat.succ := by
  rw [← List.range_succ_eq_map, Nat.sub_add_cancel (by omega)]

/--
Sources whose octets tell apart all draws of an account, with a clock that goes on by a quarter of
a second at each look.
-/
def countingSources : Sources where
  octets draw size := (List.range size).map fun index => .ofNat (31 * draw + 7 * index)
  below draw bound := draw * 7919000000007 % bound
  seconds draw := (Binary64.ofInt 1500000000).add (Binary64.ofFraction false draw 4)

/-! ## The number of statements -/

/-- How many statements one account takes. -/
def statementsPerAccount : Nat :=
  16

theorem length_statements_steps (agent : Agent) (draws : Draws) :
    (statements (draws.steps agent)).length = statementsPerAccount :=
  rfl

theorem length_statements_stepsOfAccounts
    (sources : Sources)
    (agent : Agent)
    (accounts : List Nat) :
    (statements (stepsOfAccounts sources agent accounts)).length =
      statementsPerAccount * accounts.length := by
  induction accounts with
  | nil => rfl
  | cons account accounts induction =>
      rw [stepsOfAccounts, List.flatMap_cons, statements, List.filterMap_append,
        List.length_append, List.length_cons, Nat.mul_succ, Nat.add_comm]
      exact congrArg₂ _ induction (length_statements_steps agent (sources.draws account))

theorem length_statements_seedingSteps
    (sources : Sources)
    (count : Int)
    (registry : Registry) :
    (statements (seedingSteps sources count registry)).length =
      statementsPerAccount * count.toNat := by
  rw [seedingSteps, length_statements_stepsOfAccounts, List.length_range]

/-! ## Steps one after the other -/

section Running

variable {State Problem : Type}
  (perform : Statement → State → Except Problem Unit × State)

theorem runSteps_append
    (first second : List Step)
    (registry : Registry)
    (state : State) :
    runSteps perform (first ++ second) registry state =
      match (runSteps perform first registry state).outcome with
      | .ok _ =>
        runSteps perform second (runSteps perform first registry state).registry
          (runSteps perform first registry state).state
      | .error _ => runSteps perform first registry state := by
  induction first generalizing registry state with
  | nil => rfl
  | cons step first induction =>
      cases step with
      | record name value => exact induction (registry.record name value) state
      | execute statement =>
          rw [List.cons_append, runSteps, runSteps]
          rcases perform statement state with ⟨outcome, next⟩
          cases outcome with
          | ok done => exact induction registry next
          | error problem => rfl

/-- The accounts are created by one run of all their steps. -/
theorem runAccounts_eq_runSteps
    (sources : Sources)
    (agent : Agent)
    (accounts : List Nat)
    (registry : Registry)
    (state : State) :
    runAccounts perform sources agent accounts registry state =
      runSteps perform (stepsOfAccounts sources agent accounts) registry state := by
  induction accounts generalizing registry state with
  | nil => rfl
  | cons account accounts induction =>
      rw [stepsOfAccounts, List.flatMap_cons, runSteps_append, runAccounts]
      cases (runSteps perform ((sources.draws account).steps agent) registry state).outcome with
      | ok done => exact induction _ _
      | error problem => rfl

end Running

section Seeding

variable
    {State : Type}
    (perform : Statement → State → Except SessionProblem Unit × State)
    (sources : Sources)
    (count : Int)
    (registry : Registry)
    (state : State)

/-- Seeding is a run of all steps; only the words of a failure differ. -/
theorem seed_eq_runSteps :
    seed perform sources count registry state =
      { runSteps perform (seedingSteps sources count registry) registry state with
        outcome :=
          (runSteps perform (seedingSteps sources count registry) registry state).outcome.mapError
            SeedingProblem.ofSession } := by
  rw [seed, runAccounts_eq_runSteps]
  rfl

theorem outcome_seed_eq_ok_iff :
    (seed perform sources count registry state).outcome = .ok () ↔
      (runSteps perform (seedingSteps sources count registry) registry state).outcome = .ok () := by
  rw [seed_eq_runSteps]
  exact mapError_eq_ok_iff

end Seeding

/-- A demand on the program is not taken for a failure of seeding. -/
theorem ofSession_eq_stopped
    {cause : Fault}
    (demand : cause.isError = false) :
    SeedingProblem.ofSession (.fault cause) = .stopped cause :=
  if_pos (Or.inr demand)

/-! ## Runs that are watched -/

section Watching

variable {State Problem Seen : Type}

/--
A performer that is watched: what is seen changes with each statement that succeeds, and a
statement that fails leaves it unchanged.
-/
def watching
    (observe : Seen → Statement → Seen)
    (perform : Statement → State → Except Problem Unit × State)
    (statement : Statement)
    (state : Seen × State) :
    Except Problem Unit × Seen × State :=
  match perform statement state.2 with
  | (.ok done, next) => (.ok done, observe state.1 statement, next)
  | (.error problem, next) => (.error problem, state.1, next)

/-- What a watched run leaves behind when it carried out the given steps. -/
structure SeedingRun.After
    (run : SeedingRun (Seen × State) Problem)
    (observe : Seen → Statement → Seen)
    (registry : Registry)
    (seen : Seen)
    (steps : List Step) : Prop where
  records : run.registry = registry.recordAll (entries steps)
  effects : run.state.1 = (statements steps).foldl observe seen

variable (observe : Seen → Statement → Seen)
  (perform : Statement → State → Except Problem Unit × State)

/-- A run carries out the first steps, and all of them if it succeeds. -/
theorem exists_after_runSteps
    (steps : List Step)
    (registry : Registry)
    (seen : Seen)
    (state : State) :
    ∃ done, done <+: steps ∧
      (runSteps (watching observe perform) steps registry (seen, state)).After
        observe registry seen done ∧
      ((runSteps (watching observe perform) steps registry (seen, state)).outcome = .ok () →
        done = steps) := by
  induction steps generalizing registry seen state with
  | nil => exact ⟨[], List.prefix_refl _, ⟨rfl, rfl⟩, fun _ => rfl⟩
  | cons step steps induction =>
      cases step with
      | record name value =>
          rcases induction (registry.record name value) seen state with
            ⟨done, isPrefix, after, complete⟩
          refine ⟨.record name value :: done, ?_, ⟨after.records, after.effects⟩, ?_⟩
          · exact List.cons_prefix_cons.2 ⟨rfl, isPrefix⟩
          · intro succeeded
            rw [complete succeeded]
      | execute statement =>
          rw [runSteps, watching]
          rcases perform statement state with ⟨outcome, next⟩
          cases outcome with
          | error problem =>
              exact ⟨[], List.nil_prefix, ⟨rfl, rfl⟩, fun succeeded => by contradiction⟩
          | ok done =>
              rcases induction registry (observe seen statement) next with
                ⟨done, isPrefix, after, complete⟩
              refine ⟨.execute statement :: done, ?_, ⟨after.records, after.effects⟩, ?_⟩
              · exact List.cons_prefix_cons.2 ⟨rfl, isPrefix⟩
              · intro succeeded
                rw [complete succeeded]

/-- A run that succeeds has carried out all steps. -/
theorem after_seed_of_ok
    {perform : Statement → State → Except SessionProblem Unit × State}
    {sources : Sources}
    {count : Int}
    {registry : Registry}
    {seen : Seen}
    {state : State}
    (succeeded :
      (seed (watching observe perform) sources count registry (seen, state)).outcome = .ok ()) :
    (seed (watching observe perform) sources count registry (seen, state)).After
      observe registry seen (seedingSteps sources count registry) := by
  obtain ⟨done, -, after, complete⟩ := exists_after_runSteps observe perform
    (seedingSteps sources count registry) registry seen state
  have all := complete ((outcome_seed_eq_ok_iff ..).1 succeeded)
  subst all
  rw [seed_eq_runSteps]
  exact ⟨after.records, after.effects⟩

end Watching

end ProcedureAudit.Fixture
