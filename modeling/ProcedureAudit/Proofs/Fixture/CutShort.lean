import ProcedureAudit.Proofs.Fixture.Script

/-!
# Seeding that is cut short

A failing statement ends seeding where it stands and changes nothing of what came before it.  So
the run is compared with the one in which nothing fails: it executes the statements before the
failing one, and it records a beginning of what the whole run records.
-/

namespace ProcedureAudit.Fixture

section CutShort

variable {State Problem : Type}

/-- A performer that takes down its attempts, of which the one with the given number fails. -/
def failingAt
    (number : Nat)
    (problem : Problem)
    (perform : Statement → State → Except Problem Unit × State)
    (statement : Statement)
    (state : List (Attempt Problem) × State) :
    Except Problem Unit × List (Attempt Problem) × State :=
  if state.1.length = number then
    (.error problem, state.1 ++ [.failure problem statement], state.2)
  else
    recording perform statement state

variable (perform : Statement → State → Except Problem Unit × State)

/-- Nothing changes before the attempt that is to fail. -/
theorem runSteps_failingAt_of_le
    {number : Nat}
    (problem : Problem)
    {steps : List Step}
    {attempts : List (Attempt Problem)}
    (early : attempts.length + (statements steps).length ≤ number)
    (registry : Registry)
    (state : State) :
    runSteps (failingAt number problem perform) steps registry (attempts, state) =
      runSteps (recording perform) steps registry (attempts, state) := by
  induction steps generalizing attempts registry state with
  | nil => rfl
  | cons step steps induction =>
      cases step with
      | record name value => exact induction early (registry.record name value) state
      | execute statement =>
          have later : attempts.length + ((statements steps).length + 1) ≤ number := early
          have passed : failingAt number problem perform statement (attempts, state) =
              recording perform statement (attempts, state) :=
            if_neg fun (reached : attempts.length = number) => by omega
          rw [runSteps, runSteps, passed, recording]
          rcases perform statement state with ⟨outcome, next⟩
          cases outcome with
          | error cause => rfl
          | ok done =>
              refine induction ?_ registry next
              simp only [List.length_append, List.length_singleton]
              omega

theorem exists_execute_of_lt
    {number : Nat}
    {steps : List Step}
    (within : number < (statements steps).length) :
    ∃ before statement after,
      steps = before ++ .execute statement :: after ∧ (statements before).length = number := by
  induction steps generalizing number with
  | nil => contradiction
  | cons step steps induction =>
      cases step with
      | record name value =>
          rcases induction within with ⟨before, statement, after, split, count⟩
          exact ⟨.record name value :: before, statement, after,
            congrArg (List.cons _) split, count⟩
      | execute first =>
          cases number with
          | zero => exact ⟨[], first, steps, rfl, rfl⟩
          | succ number =>
              rcases induction (Nat.lt_of_succ_lt_succ within) with
                ⟨before, statement, after, split, count⟩
              exact ⟨.execute first :: before, statement, after, congrArg (List.cons _) split,
                congrArg (· + 1) count⟩

theorem completed_of_append
    {before after : List Step}
    {registry : Registry}
    {state : State}
    (succeeded :
      (runSteps (recording perform) (before ++ after) registry ([], state)).outcome = .ok ()) :
    (runSteps (recording perform) before registry ([], state)).outcome = .ok () := by
  rw [runSteps_append] at succeeded
  split at succeeded
  · assumption
  · assumption

/-- The run stops at the statement that fails, with what the steps before it recorded. -/
theorem runSteps_failingAt
    (problem : Problem)
    {before : List Step}
    (statement : Statement)
    (after : List Step)
    {registry : Registry}
    {state : State}
    (succeeded : (runSteps (recording perform) before registry ([], state)).outcome = .ok ()) :
    let run := runSteps (failingAt (statements before).length problem perform)
      (before ++ .execute statement :: after) registry ([], state)
    run.outcome = .error problem ∧
      run.registry = registry.recordAll (entries before) ∧
      run.state.1 = (statements before).map .success ++ [.failure problem statement] := by
  have early : ([] : List (Attempt Problem)).length + (statements before).length ≤
      (statements before).length := by
    simp
  rcases (ends_runSteps perform before registry [] state).completed_of_ok succeeded with
    ⟨records, made⟩
  have reached : (runSteps (recording perform) before registry ([], state)).state.1.length =
      (statements before).length := by
    rw [made, List.nil_append, List.length_map]
  rw [runSteps_append, runSteps_failingAt_of_le perform problem early, succeeded]
  simp only [runSteps, failingAt, if_pos reached]
  refine ⟨trivial, records, ?_⟩
  rw [made, List.nil_append]

end CutShort

/-! ## Seeding -/

/-- The problem is no error but a demand on the program, such as that the user wants it to stop. -/
def IsDemand (problem : SessionProblem) : Prop :=
  ∃ cause, problem = .fault cause ∧ cause.isError = false

/-- Someone says already that seeding has failed. -/
def ReportsSeeding (problem : SessionProblem) : Prop :=
  ∃ cause, problem = .fault cause ∧ cause.category = .seeding

theorem ofSession_eq_statement
    {problem : SessionProblem}
    (noDemand : ¬ IsDemand problem)
    (notSeeding : ¬ ReportsSeeding problem) :
    SeedingProblem.ofSession problem = .statement problem := by
  cases problem with
  | fault cause =>
      refine if_neg ?_
      rintro (seeding | demand)
      · exact notSeeding ⟨cause, rfl, seeding⟩
      · exact noDemand ⟨cause, rfl, demand⟩
  | address problem => rfl
  | unreachable cause => rfl
  | notConnected => rfl
  | refused reason => rfl
  | noRows => rfl
  | noColumn name => rfl

section Seeding

variable {State : Type}

/--
What seeding leaves behind when the statement with a number fails, as compared with the whole run
in which none fails.
-/
structure CutShort
    (number : Nat)
    (problem : SessionProblem)
    (registry : Registry)
    (whole cut : SeedingRun (List (Attempt SessionProblem) × State) SeedingProblem) : Prop where
  reported : ¬ IsDemand problem →
    cut.outcome = .error (.statement problem) ∧
      (SeedingProblem.statement problem).message =
        "Failed to seed fixture records: ".toList ++ problem.message
  passedOn : ∀ cause : Fault, problem = .fault cause → cause.isError = false →
    cut.outcome = .error (.stopped cause)
  executed : executed cut.state.1 = (executed whole.state.1).take number
  kept : registry.entries <+: cut.registry.entries
  within : cut.registry.entries <+: whole.registry.entries

/--
If the statement with a number fails, seeding fails with the problem of that statement, has executed
exactly the statements before it, and has recorded a beginning of what it would have recorded.  The
problem is reported as a failure of seeding, unless it is a demand on the program.  If there are not
so many statements, it is seeding in which none fails.
-/
theorem seed_failingAt
    {respond : Statement → State → Except SessionProblem Unit × State}
    {sources : Sources}
    {count : Int}
    {registry : Registry}
    {state : State}
    {whole cut : SeedingRun (List (Attempt SessionProblem) × State) SeedingProblem}
    {number : Nat}
    {problem : SessionProblem}
    (seeded : seed (recording respond) sources count registry ([], state) = whole)
    (succeeded : ∀ attempt ∈ whole.state.1, attempt.outcome.isOk = true)
    (notSeeding : ¬ ReportsSeeding problem)
    (failing : seed (failingAt number problem respond) sources count registry ([], state) = cut) :
    ((number : Int) < 16 * count → CutShort number problem registry whole cut) ∧
      (16 * count ≤ number → cut = whole) := by
  rcases completed_of_seed seeded succeeded with ⟨outcome, records, made⟩
  have statementCount : (statements (seedingSteps sources count registry)).length =
      16 * count.toNat :=
    length_statements_seedingSteps sources count registry
  subst seeded failing
  rw [seed_eq_runSteps] at outcome
  constructor
  · intro early
    have within : number < (statements (seedingSteps sources count registry)).length := by omega
    rcases exists_execute_of_lt within with ⟨before, statement, after, split, reached⟩
    rw [split] at records made outcome
    have first := completed_of_append respond (mapError_eq_ok_iff.1 outcome)
    rcases runSteps_failingAt respond problem statement after first with
      ⟨failed, cutRecords, cutMade⟩
    rw [reached, ← split] at failed cutRecords cutMade
    have cutEnds := seed_eq_runSteps (failingAt number problem respond) sources count registry
      ([], state)
    rw [failed] at cutEnds
    constructor
    · intro noDemand
      refine ⟨?_, rfl⟩
      rw [cutEnds, ← ofSession_eq_statement noDemand notSeeding]
      rfl
    · rintro cause rfl demand
      rw [cutEnds, ← ofSession_eq_stopped demand]
      rfl
    · -- The statements of the steps before the failing one come first in the whole run.
      rw [made, executed_map_success, cutEnds, cutMade, executed_append, executed_map_success,
        executed_failure, List.append_nil, statements, statements, List.filterMap_append,
        ← reached, statements, List.take_left]
    · rw [cutEnds, cutRecords]
      exact Registry.entries_isPrefix_recordAll registry (entries before)
    · rw [records, cutEnds, cutRecords, entries, entries, List.filterMap_append,
        Registry.recordAll_append]
      exact Registry.entries_isPrefix_recordAll _ _
  · intro late
    rw [seed_eq_runSteps, seed_eq_runSteps,
      runSteps_failingAt_of_le respond problem _ registry state]
    simp only [List.length_nil, statementCount]
    omega

end Seeding

/-- A fault of the database that comes up in the middle of seeding. -/
def lostConnection : SessionProblem :=
  .fault
    (Fault.ofName "OperationalError" [.value (.integer 2013), .value (.text "Lost connection")])

/-- Two accounts, the statement with a number being lost. -/
def lostRun (number : Nat) : SeedingRun (List (Attempt SessionProblem) × Unit) SeedingProblem :=
  seed (failingAt number lostConnection fun _ _ => (.ok (), ())) countingSources 2 emailBound
    ([], ())

theorem seed_failingAt_lostRun :
    (∀ attempt ∈ (acceptedRun 2).state.1, attempt.outcome.isOk = true) ∧
      ¬ ReportsSeeding lostConnection ∧
      ¬ IsDemand lostConnection ∧
      CutShort 17 lostConnection emailBound (acceptedRun 2) (lostRun 17) ∧
      lostRun 32 = acceptedRun 2 := by
  have succeeded : ∀ attempt ∈ (acceptedRun 2).state.1, attempt.outcome.isOk = true :=
    List.all_eq_true.1 rfl
  have category : (Fault.ofName "OperationalError"
      [.value (.integer 2013), .value (.text "Lost connection")]).category = .database := by
    decide +kernel
  have notSeeding : ¬ ReportsSeeding lostConnection := by
    rintro ⟨cause, same, seeding⟩
    obtain rfl := SessionProblem.fault.inj same
    rw [category] at seeding
    contradiction
  have noDemand : ¬ IsDemand lostConnection := by
    rintro ⟨cause, same, demand⟩
    obtain rfl := SessionProblem.fault.inj same
    rw [Fault.isError, category] at demand
    contradiction
  exact ⟨succeeded, notSeeding, noDemand,
    (seed_failingAt rfl succeeded notSeeding rfl).1 (by decide),
    (seed_failingAt rfl succeeded notSeeding rfl).2 (by decide)⟩

/-- Not every failing statement is reported as a failure of seeding: a demand is passed on. -/
theorem exists_seed_failingAt_passed_on :
    ¬ ∀ (sources : Sources) (count : Int) (registry : Registry) (number : Nat)
        (problem : SessionProblem),
        ¬ ReportsSeeding problem → (number : Int) < 16 * count →
          (seed (failingAt number problem fun _ _ => (.ok (), ())) sources count registry
            ([], ())).outcome = .error (.statement problem) := by
  intro reported
  have category : (Fault.ofName "KeyboardInterrupt" []).category = .interrupt := by
    decide +kernel
  have notSeeding : ¬ ReportsSeeding (.fault (Fault.ofName "KeyboardInterrupt" [])) := by
    rintro ⟨cause, same, seeding⟩
    obtain rfl := SessionProblem.fault.inj same
    rw [category] at seeding
    contradiction
  have wrapped : SeedingProblem.ofSession (.fault (Fault.ofName "KeyboardInterrupt" [])) =
      .statement (.fault (Fault.ofName "KeyboardInterrupt" [])) :=
    Except.error.inj (reported countingSources 1 emailBound 1 _ notSeeding (by decide))
  rw [ofSession_eq_stopped (by rw [Fault.isError, category]; rfl)] at wrapped
  contradiction

end ProcedureAudit.Fixture
