import ProcedureAudit.Files.Path
import ProcedureAudit.Proofs.Text.Basic

/-!
# Writing and reading paths

What is read between the slashes of a text are proper steps: not empty, without a slash, and not
the step to the place itself.  A path from the top with proper steps is read back from the text
that it is written as.
-/

namespace ProcedureAudit.FilePath

/-- A step that can be written between slashes and read again. -/
structure IsProperStep (step : Text) : Prop where
  nonempty : step ≠ []
  moves : step ≠ ['.']
  whole : '/' ∉ step

instance (step : Text) : Decidable (IsProperStep step) :=
  decidable_of_iff (step ≠ [] ∧ step ≠ ['.'] ∧ '/' ∉ step)
    ⟨fun ⟨nonempty, moves, whole⟩ => ⟨nonempty, moves, whole⟩,
      fun proper => ⟨proper.nonempty, proper.moves, proper.whole⟩⟩

theorem isProperStep_of_mem_stepsOf
    {text step : Text}
    (member : step ∈ stepsOf text) :
    IsProperStep step := by
  rcases List.mem_filter.1 member with ⟨part, kept⟩
  rw [Bool.not_eq_true', Bool.or_eq_false_iff, decide_eq_false_iff_not,
    decide_eq_false_iff_not] at kept
  exact ⟨kept.1, kept.2, Text.not_mem_of_mem_splitOn part⟩

section Steps

variable {steps : List Text} (proper : ∀ step ∈ steps, IsProperStep step)

include proper

theorem startOf_slash_joinWith : startOf ('/' :: Text.joinWith ['/'] steps) = .top := by
  cases steps with
  | nil => rfl
  | cons step steps =>
      rw [List.forall_mem_cons] at proper
      rcases proper.1 with ⟨nonempty, -, whole⟩
      cases step with
      | nil => exact (nonempty rfl).elim
      | cons first step =>
          -- A second slash would announce another start.
          have single : first ≠ '/' := fun same => whole (same ▸ List.mem_cons_self ..)
          cases steps <;> simp [Text.joinWith, startOf, single]

theorem stepsOf_slash_joinWith : stepsOf ('/' :: Text.joinWith ['/'] steps) = steps := by
  have kept : steps.filter (fun step => !(step = [] || step = ['.'])) = steps := by
    rw [List.filter_eq_self]
    intro step member
    simp [(proper step member).nonempty, (proper step member).moves]
  have slash (text : Text) : stepsOf ('/' :: text) = stepsOf text := rfl
  rw [slash]
  cases steps with
  | nil => rfl
  | cons step steps =>
      rw [stepsOf, Text.splitOn_joinWith (List.cons_ne_nil step steps)
        fun step member => (proper step member).whole]
      exact kept

theorem parse_render_absolute : parse (absolute steps).render = absolute steps := by
  have written : (absolute steps).render = '/' :: Text.joinWith ['/'] steps := rfl
  rw [written, parse, startOf_slash_joinWith proper, stepsOf_slash_joinWith proper, absolute]

end Steps

/-! ## Steps to parent directories -/

/-- Carrying out the steps to parent directories adds no steps. -/
theorem mem_settleFrom
    {taken steps : List Text}
    {step : Text}
    (member : step ∈ settleFrom taken steps) :
    step ∈ taken ∨ step ∈ steps := by
  induction steps generalizing taken with
  | nil => exact Or.inl (List.mem_reverse.1 member)
  | cons first steps induction =>
      rw [settleFrom] at member
      split at member
      · rcases induction member with earlier | later
        · exact Or.inl (List.mem_of_mem_tail earlier)
        · exact Or.inr (List.mem_cons_of_mem first later)
      · rcases induction member with earlier | later
        · rcases List.mem_cons.1 earlier with rfl | earlier
          · exact Or.inr (List.mem_cons_self ..)
          · exact Or.inl earlier
        · exact Or.inr (List.mem_cons_of_mem first later)

theorem mem_settle
    {steps : List Text}
    {step : Text}
    (member : step ∈ settle steps) :
    step ∈ steps := by
  rcases mem_settleFrom member with taken | given
  · exact (List.not_mem_nil taken).elim
  · exact given

end ProcedureAudit.FilePath
