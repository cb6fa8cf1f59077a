import Mathlib.Data.List.Basic
import ProcedureAudit.Query.Normal

/-!
# Where arguments occur in a text

Reading a text from the left and taking each argument where the first one begins parts the text
into gaps and arguments.  The text determines the parts, and filling the arguments in changes
nothing in the gaps.
-/

namespace ProcedureAudit.Query

/-! ## Pieces -/

theorem pieces_of_eq_none
    {form : PlaceholderForm}
    {character : Char}
    {rest : Text}
    (unrecognised : form.recognise? (character :: rest) = none) :
    pieces form (character :: rest) = .plain character :: pieces form rest := by
  rw [pieces]
  split
  · rename_i recognised
    rw [unrecognised] at recognised
    contradiction
  · rfl

theorem pieces_of_eq_some
    {form : PlaceholderForm}
    {text : Text}
    {found : Placeholder}
    (recognised : form.recognise? text = some found) :
    pieces form text = .argument found.delimiter found.name :: pieces form found.rest := by
  cases text with
  | nil => exact absurd (form.shorter recognised) (Nat.not_lt_zero _)
  | cons character rest =>
      rw [pieces]
      split
      · rename_i same
        obtain rfl := Option.some.inj (recognised.symm.trans same)
        rfl
      · rename_i unrecognised
        rw [recognised] at unrecognised
        contradiction

/-! ## Dissections -/

/-- An argument where it occurs: how it is written, what it says, and the gap up to the next one. -/
structure Occurrence where
  written : Text
  delimiter : Char
  name : Text
  gap : Text
deriving DecidableEq, Repr

/--
A text parted into a gap and the arguments with the gaps after them.  A character belongs to a gap
if no argument begins at it, so every argument is the leftmost one in what is left of the text.
-/
inductive Dissects (At : Text → Placeholder → Prop) : Text → Text → List Occurrence → Prop where
  | nothing : Dissects At [] [] []
  | plain {character : Char} {rest gap : Text} {occurrences : List Occurrence}
      (outside : ∀ found, ¬ At (character :: rest) found)
      (dissected : Dissects At rest gap occurrences) :
      Dissects At (character :: rest) (character :: gap) occurrences
  | argument {text written gap : Text} {found : Placeholder} {occurrences : List Occurrence}
      (recognised : At text found)
      (split : text = written ++ found.rest)
      (dissected : Dissects At found.rest gap occurrences) :
      Dissects At text [] (⟨written, found.delimiter, found.name, gap⟩ :: occurrences)

/-- The parts with a literal in the place of each argument; the gaps are kept. -/
def filled (registry : Registry) (gap : Text) (occurrences : List Occurrence) : Text :=
  gap ++ occurrences.flatMap fun occurrence =>
    occurrence.delimiter :: (registry.getD occurrence.name .null).literal ++ occurrence.gap

namespace Dissects

variable (form : PlaceholderForm) {At : Text → Placeholder → Prop}
variable (describes : ∀ {text found}, form.recognise? text = some found ↔ At text found)
variable {text gap : Text} {occurrences : List Occurrence}

include describes

/-- Nothing is recognised in the empty text. -/
theorem not_at_nil {found : Placeholder} :
    ¬ At [] found := by
  intro recognised
  exact absurd (form.shorter (describes.2 recognised)) (Nat.not_lt_zero _)

/-- A text has one dissection. -/
theorem unique
    (dissected : Dissects At text gap occurrences)
    {otherGap : Text}
    {others : List Occurrence}
    (other : Dissects At text otherGap others) :
    otherGap = gap ∧ others = occurrences := by
  induction dissected generalizing otherGap others with
  | nothing =>
      cases other with
      | nothing => exact ⟨rfl, rfl⟩
      | argument recognised _ _ => exact (not_at_nil form describes recognised).elim
  | plain outside _ induction =>
      cases other with
      | plain _ dissected =>
          rcases induction dissected with ⟨rfl, rfl⟩
          exact ⟨rfl, rfl⟩
      | argument recognised _ _ => exact (outside _ recognised).elim
  | argument recognised split _ induction =>
      cases other with
      | nothing => exact (not_at_nil form describes recognised).elim
      | plain outside _ => exact (outside _ recognised).elim
      | argument otherRecognised otherSplit dissected =>
          -- The same argument is read here, and so what it is written like is the same.
          obtain rfl := Option.some.inj
            ((describes.2 recognised).symm.trans (describes.2 otherRecognised))
          obtain rfl := List.append_cancel_right (split.symm.trans otherSplit)
          rcases induction dissected with ⟨rfl, rfl⟩
          exact ⟨rfl, rfl⟩

/-- Every text has a dissection. -/
theorem exists_of
    (suffix : ∀ {text found}, At text found → found.rest <:+ text)
    (text : Text) :
    ∃ gap occurrences, Dissects At text gap occurrences := by
  induction text using pieces.induct form with
  | case1 => exact ⟨[], [], .nothing⟩
  | case2 character rest found recognised induction =>
      rcases induction with ⟨gap, occurrences, dissected⟩
      rcases suffix (describes.1 recognised) with ⟨written, split⟩
      exact ⟨[], _, .argument (describes.1 recognised) split.symm dissected⟩
  | case3 character rest unrecognised induction =>
      rcases induction with ⟨gap, occurrences, dissected⟩
      refine ⟨character :: gap, occurrences, .plain ?_ dissected⟩
      intro found recognised
      rw [describes.2 recognised] at unrecognised
      contradiction

/-- Replacing the arguments of a form fills in the parts of the dissection. -/
theorem substituteForm_eq
    (registry : Registry)
    (dissected : Dissects At text gap occurrences) :
    substituteForm form registry text = filled registry gap occurrences := by
  unfold substituteForm filled
  induction dissected with
  | nothing => rw [pieces]; rfl
  | plain outside _ induction =>
      have unrecognised := Option.eq_none_iff_forall_ne_some.2 fun found recognised =>
        outside found (describes.1 recognised)
      rw [pieces_of_eq_none unrecognised, List.flatMap_cons, induction]
      rfl
  | argument recognised _ _ induction =>
      rw [pieces_of_eq_some (describes.2 recognised), List.flatMap_cons, induction,
        List.nil_append, List.flatMap_cons, List.append_assoc]
      rfl

end Dissects

end ProcedureAudit.Query
