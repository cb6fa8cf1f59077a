import ProcedureAudit.Proofs.Fixture.Script
import ProcedureAudit.Proofs.Query.Literal
import ProcedureAudit.Proofs.Text.LetterCase

/-!
# What seeding records

Wherever seeding stops, each value of the registry that it leaves was known before or belongs to
what an account has to offer: octets, an address of electronic mail, and its lower-case form, which
is the address itself.
-/

namespace ProcedureAudit.Fixture

section Recorded

variable {property : Value → Prop} {registry : Registry}
  (known : ∀ entry ∈ registry.entries, property entry.2)

include known

theorem forall_entries_runSteps
    {State Problem : Type}
    (perform : Statement → State → Except Problem Unit × State)
    {steps : List Step}
    (recorded : ∀ entry ∈ entries steps, property entry.2)
    (state : State) :
    ∀ entry ∈ (runSteps perform steps registry state).registry.entries, property entry.2 := by
  induction steps generalizing registry state with
  | nil => exact known
  | cons step steps induction =>
      cases step with
      | record name value =>
          rcases List.forall_mem_cons.1 recorded with ⟨first, later⟩
          exact induction (Registry.forall_entries_record known name first) later state
      | execute statement =>
          rw [runSteps]
          rcases perform statement state with ⟨outcome, next⟩
          cases outcome with
          | ok done => exact induction known recorded next
          | error problem => exact known

theorem forall_entries_seed
    {sources : Sources}
    (offered : ∀ account, ∀ entry ∈ (sources.draws account).arguments, property entry.2)
    {State : Type}
    (perform : Statement → State → Except SessionProblem Unit × State)
    (count : Int)
    (state : State) :
    ∀ entry ∈ (seed perform sources count registry state).registry.entries, property entry.2 := by
  rw [seed_eq_runSteps]
  apply forall_entries_runSteps known
  intro entry member
  rw [entries, seedingSteps, stepsOfAccounts, List.filterMap_flatMap] at member
  rcases List.mem_flatMap.1 member with ⟨account, -, offer⟩
  exact offered account entry offer

end Recorded

/-! ## Addresses -/

theorem mem_email
    {sources : Sources}
    {draw : Nat}
    {character : Char}
    (member : character ∈ sources.email draw) :
    character.isDigit = true ∨ character ∈ "@example.com".toList := by
  rw [Sources.email, Text.padZeros, List.mem_append, List.mem_append] at member
  rcases member with (zero | digit) | place
  · rw [List.eq_of_mem_replicate zero]
    exact Or.inl rfl
  · exact Or.inl (Nat.isDigit_of_mem_toDigits (by decide) (by decide) digit)
  · exact Or.inr place

theorem lower_email (sources : Sources) (draw : Nat) :
    Text.lower (sources.email draw) = sources.email draw := by
  have place : "@example.com".toList.all
      (fun character => character.toNat < 128 && !Text.isCapital character) = true := by
    decide
  apply Text.lower_eq_self
  intro character member
  rcases mem_email member with digit | placed
  · have noLetter := isLetter_eq_false_of_isDigit digit
    rw [Text.isLetter, Bool.or_eq_false_iff] at noLetter
    refine ⟨?_, noLetter.1⟩
    simp only [Char.isDigit, Bool.and_eq_true, decide_eq_true_eq, UInt32.le_iff_toNat_le] at digit
    exact Nat.lt_of_le_of_lt digit.2 (by decide)
  · simpa using List.all_eq_true.1 place character placed

end ProcedureAudit.Fixture
