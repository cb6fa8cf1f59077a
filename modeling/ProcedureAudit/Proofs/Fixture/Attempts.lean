import ProcedureAudit.Proofs.Fixture.Running

/-!
# Attempts of a seeding run

A performer can take down every statement that it is asked to perform, with what came of it.  The
record of a run has one of two shapes: all statements were performed and every attempt succeeded,
or the last attempt failed, all attempts before it succeeded, and nothing came after it.
-/

namespace ProcedureAudit.Fixture

/-- A statement that was to be performed, and what came of it. -/
structure Attempt (Problem : Type) where
  statement : Statement
  outcome : Except Problem Unit

section Attempts

variable {State Problem : Type}

def Attempt.success (statement : Statement) : Attempt Problem where
  statement := statement
  outcome := .ok ()

def Attempt.failure (problem : Problem) (statement : Statement) : Attempt Problem where
  statement := statement
  outcome := .error problem

/-- The statements of the attempts that succeeded, in order. -/
def executed (attempts : List (Attempt Problem)) : List Statement :=
  (attempts.filter fun attempt => attempt.outcome.isOk).map Attempt.statement

@[simp]
theorem executed_append (first second : List (Attempt Problem)) :
    executed (first ++ second) = executed first ++ executed second := by
  simp [executed]

@[simp]
theorem executed_map_success (statements : List Statement) :
    executed (statements.map .success : List (Attempt Problem)) = statements := by
  induction statements with
  | nil => rfl
  | cons statement statements induction => exact congrArg (List.cons statement) induction

@[simp]
theorem executed_failure (problem : Problem) (statement : Statement) :
    executed [Attempt.failure problem statement] = [] :=
  rfl

/-- A performer that takes down its attempts. -/
def recording
    (perform : Statement → State → Except Problem Unit × State)
    (statement : Statement)
    (state : List (Attempt Problem) × State) :
    Except Problem Unit × List (Attempt Problem) × State :=
  let (outcome, next) := perform statement state.2
  (outcome, state.1 ++ [{ statement, outcome }], next)

/-! ## What a run comes to -/

/-- How a run of some steps ends, which began with a registry and with attempts made before. -/
inductive SeedingRun.Ends
    (run : SeedingRun (List (Attempt Problem) × State) Problem)
    (attempts : List (Attempt Problem))
    (registry : Registry)
    (steps : List Step) : Prop where
  /-- All steps were carried out. -/
  | completed
      (outcome : run.outcome = .ok ())
      (records : run.registry = registry.recordAll (entries steps))
      (made : run.state.1 = attempts ++ (statements steps).map .success)
  /-- The steps up to a statement that failed were carried out. -/
  | stopped
      (before after : List Step)
      {statement : Statement}
      {problem : Problem}
      (split : steps = before ++ .execute statement :: after)
      (outcome : run.outcome = .error problem)
      (records : run.registry = registry.recordAll (entries before))
      (made : run.state.1 =
        attempts ++ (statements before).map .success ++ [.failure problem statement])

variable (perform : Statement → State → Except Problem Unit × State)

theorem ends_runSteps
    (steps : List Step)
    (registry : Registry)
    (attempts : List (Attempt Problem))
    (state : State) :
    (runSteps (recording perform) steps registry (attempts, state)).Ends
      attempts registry steps := by
  induction steps generalizing registry attempts state with
  | nil => exact .completed rfl rfl (List.append_nil _).symm
  | cons step steps induction =>
      cases step with
      | record name value =>
          cases induction (registry.record name value) attempts state with
          | completed outcome records made => exact .completed outcome records made
          | stopped before after split outcome records made =>
              exact .stopped (.record name value :: before) after
                (congrArg (List.cons _) split) outcome records made
      | execute statement =>
          rw [runSteps, recording]
          rcases perform statement state with ⟨outcome, next⟩
          cases outcome with
          | error problem =>
              -- Nothing of the later steps is carried out, not even their records.
              exact .stopped [] steps rfl rfl rfl (by simp [statements, Attempt.failure])
          | ok done =>
              cases induction registry (attempts ++ [.success statement]) next with
              | completed outcome records made =>
                  refine .completed outcome records (made.trans ?_)
                  simp [statements, Step.statement?]
              | stopped before after split outcome records made =>
                  refine .stopped (.execute statement :: before) after
                    (congrArg (List.cons _) split) outcome records (made.trans ?_)
                  simp [statements, Step.statement?]

theorem SeedingRun.Ends.completed_of_ok
    {run : SeedingRun (List (Attempt Problem) × State) Problem}
    {attempts : List (Attempt Problem)}
    {registry : Registry}
    {steps : List Step}
    (ends : run.Ends attempts registry steps)
    (succeeded : run.outcome = .ok ()) :
    run.registry = registry.recordAll (entries steps) ∧
      run.state.1 = attempts ++ (statements steps).map .success := by
  cases ends with
  | completed outcome records made => exact ⟨records, made⟩
  | stopped before after split outcome records made =>
      rw [succeeded] at outcome
      contradiction

theorem SeedingRun.Ends.completed_of_forall
    {run : SeedingRun (List (Attempt Problem) × State) Problem}
    {registry : Registry}
    {steps : List Step}
    (ends : run.Ends [] registry steps)
    (succeeded : ∀ attempt ∈ run.state.1, attempt.outcome.isOk = true) :
    run.outcome = .ok () ∧
      run.registry = registry.recordAll (entries steps) ∧
      run.state.1 = (statements steps).map .success := by
  cases ends with
  | completed outcome records made => exact ⟨outcome, records, made⟩
  | @stopped before after statement problem split outcome records made =>
      have failed := succeeded (.failure problem statement) (by simp [made])
      contradiction

/-- However a run ends, what it executed is a beginning of the statements of the steps. -/
theorem SeedingRun.Ends.executed_isPrefix
    {run : SeedingRun (List (Attempt Problem) × State) Problem}
    {registry : Registry}
    {steps : List Step}
    (ends : run.Ends [] registry steps) :
    executed run.state.1 <+: statements steps := by
  cases ends with
  | completed outcome records made =>
      have all : executed run.state.1 = statements steps := by
        rw [made, List.nil_append, executed_map_success]
      exact all ▸ List.prefix_refl _
  | stopped before after split outcome records made =>
      rw [made, split, List.nil_append, executed_append, executed_map_success, executed_failure,
        List.append_nil, statements, statements, List.filterMap_append]
      exact List.prefix_append ..

end Attempts

/-! ## Seeding -/

section Recorded

variable
    {State : Type}
    {respond : Statement → State → Except SessionProblem Unit × State}
    {sources : Sources}
    {count : Int}
    {registry : Registry}
    {state : State}
    {run : SeedingRun (List (Attempt SessionProblem) × State) SeedingProblem}
    (seeded : seed (recording respond) sources count registry ([], state) = run)

include seeded

theorem completed_of_seed
    (succeeded : ∀ attempt ∈ run.state.1, attempt.outcome.isOk = true) :
    run.outcome = .ok () ∧
      run.registry = registry.recordAll (entries (seedingSteps sources count registry)) ∧
      run.state.1 = (statements (seedingSteps sources count registry)).map .success := by
  subst seeded
  rw [seed_eq_runSteps] at succeeded ⊢
  rcases (ends_runSteps respond _ registry [] state).completed_of_forall succeeded with
    ⟨outcome, records, made⟩
  exact ⟨mapError_eq_ok_iff.2 outcome, records, made⟩

theorem executed_isPrefix_of_seed :
    executed run.state.1 <+: statements (seedingSteps sources count registry) := by
  subst seeded
  rw [seed_eq_runSteps]
  exact (ends_runSteps respond _ registry [] state).executed_isPrefix

end Recorded

end ProcedureAudit.Fixture
