import Mathlib.Data.List.TakeWhile
import ProcedureAudit.Proofs.Text.Basic
import ProcedureAudit.Proofs.Text.LetterCase
import ProcedureAudit.Routine.Line

/-!
# Comments and declarations of a source line

A source line holds no line feed, so that cutting its comment is cutting it at the first comment
delimiter.  The name that a line declares stands before every hyphen: cutting the comment neither
makes, removes nor renames a declaration.
-/

namespace ProcedureAudit.Routine

theorem lineFeed_not_mem_of_mem_sourceLines
    {source line : Text}
    (member : line ∈ sourceLines source) :
    '\n' ∉ line := by
  rcases List.mem_map.1 member with ⟨part, partMember, rfl⟩
  intro lineFeed
  exact Text.not_mem_of_mem_splitOn partMember (Text.mem_of_mem_dropEndWhile lineFeed)

/-! ## Comments -/

/-- The line before its first comment delimiter. -/
def beforeComment (line : Text) : Text :=
  match Text.splitAtFirst? ['-', '-'] line with
  | some (before, _) => before
  | none => line

theorem beforeComment_cons (character : Char) (rest : Text) :
    beforeComment (character :: rest) =
      if (Text.dropOpening? ['-', '-'] (character :: rest)).isSome then
        []
      else
        character :: beforeComment rest := by
  unfold beforeComment
  rw [Text.splitAtFirst?]
  cases Text.dropOpening? ['-', '-'] (character :: rest) with
  | some comment => rfl
  | none => cases Text.splitAtFirst? ['-', '-'] rest <;> rfl

theorem afterComment?_of_not_mem
    {rest : Text}
    (plain : '\n' ∉ rest) :
    afterComment? rest = some [] := by
  have dropped : rest.dropWhile (· ≠ '\n') = [] := by
    rw [List.dropWhile_eq_nil_iff]
    intro character member
    have differs : character ≠ '\n' := fun same => plain (same ▸ member)
    simpa using differs
  unfold afterComment?
  rw [dropped]

theorem stripComment_cons (character : Char) (rest : Text) :
    stripComment (character :: rest) =
      ((Text.dropOpening? "--".toList (character :: rest)).bind afterComment?).getD
        (character :: stripComment rest) := by
  rw [stripComment]
  cases (Text.dropOpening? "--".toList (character :: rest)).bind afterComment? <;> rfl

/-- On a line without line feeds, the comment begins at the first delimiter. -/
theorem stripComment_eq_beforeComment
    {line : Text}
    (plain : '\n' ∉ line) :
    stripComment line = beforeComment line := by
  induction line with
  | nil => rfl
  | cons character rest induction =>
      have restPlain : '\n' ∉ rest := fun member => plain (List.mem_cons_of_mem _ member)
      have delimiter : "--".toList = ['-', '-'] := rfl
      rw [stripComment_cons, beforeComment_cons, induction restPlain, delimiter]
      cases opened : Text.dropOpening? ['-', '-'] (character :: rest) with
      | none => rfl
      | some comment =>
          have within := Text.dropOpening?_eq_some_iff.1 opened
          have commentPlain : '\n' ∉ comment := by
            intro member
            exact plain (within ▸ List.mem_append_right _ member)
          simp [afterComment?_of_not_mem commentPlain]

/-- A line is its part before the comment, followed by nothing or by the comment. -/
theorem eq_beforeComment_append (line : Text) :
    ∃ comment, line = beforeComment line ++ comment ∧
      (comment = [] ∨ ∃ rest, comment = '-' :: '-' :: rest) := by
  induction line with
  | nil => exact ⟨[], rfl, Or.inl rfl⟩
  | cons character rest induction =>
      rw [beforeComment_cons]
      cases opened : Text.dropOpening? ['-', '-'] (character :: rest) with
      | some after =>
          have within := Text.dropOpening?_eq_some_iff.1 opened
          exact ⟨character :: rest, rfl, Or.inr ⟨after, within⟩⟩
      | none =>
          rcases induction with ⟨comment, split, shape⟩
          exact ⟨comment, congrArg (List.cons character) split, shape⟩

/-! ## Declarations -/

theorem dropBacktick_append_stop
    {stop : Char}
    (stops : stop ≠ '\x60')
    (before after : Text) :
    dropBacktick (before ++ stop :: after) = dropBacktick before ++ stop :: after := by
  cases before with
  | nil =>
      unfold dropBacktick
      split
      · rename_i same
        exact (stops (List.cons.inj same).1).elim
      · rfl
  | cons character before =>
      by_cases backtick : character = '\x60'
      · subst backtick
        rfl
      · unfold dropBacktick
        split
        · rename_i same
          exact (backtick (List.cons.inj same).1).elim
        · split
          · rename_i same
            exact (backtick (List.cons.inj same).1).elim
          · rfl

/-- No name goes on with the character, and no name begins with it. -/
structure StopsName (stop : Char) : Prop where
  letter : Text.isLetterVariant stop = false
  underscore : stop ≠ '_'
  digit : ('0' ≤ stop && stop ≤ '9') = false
  backtick : stop ≠ '\x60'

theorem stopsName_hyphen : StopsName '-' where
  letter := by decide
  underscore := by decide
  digit := by decide
  backtick := by decide

/-- A name ends before a character that is neither a letter, an underscore, nor a digit. -/
theorem leadingName?_append_stop {stop : Char} (stops : StopsName stop) (before after : Text) :
    leadingName? (before ++ stop :: after) = leadingName? before := by
  unfold leadingName?
  rw [Text.takeWhile_append_stop stops.letter, Text.dropWhile_append_stop stops.letter]
  cases before.dropWhile Text.isLetterVariant with
  | nil =>
      simp only [List.nil_append]
      split
      · rename_i same
        exact (stops.underscore (List.cons.inj same).1).elim
      · rfl
  | cons character rest =>
      by_cases underscore : character = '_'
      · subst underscore
        simp only [List.cons_append]
        rw [Text.takeWhile_append_stop stops.digit]
      · simp only [List.cons_append]
        split
        · rename_i same
          exact (underscore (List.cons.inj same).1).elim
        · split
          · rename_i same
            exact (underscore (List.cons.inj same).1).elim
          · rfl

/-- What a line declares stands before its first hyphen. -/
theorem declaredName?_append_hyphen (before after : Text) :
    declaredName? (before ++ '-' :: after) = declaredName? before := by
  unfold declaredName?
  rw [Text.dropKeyword?_append_stop (by decide)]
  cases Text.dropKeyword? "create procedure ".toList before with
  | none => rfl
  | some rest =>
      change leadingName? (dropBacktick (rest ++ '-' :: after)) =
        leadingName? (dropBacktick rest)
      rw [dropBacktick_append_stop stopsName_hyphen.backtick,
        leadingName?_append_stop stopsName_hyphen]

/-- Cutting the comment keeps the declaration of a line. -/
theorem declaredName?_beforeComment (line : Text) :
    declaredName? (beforeComment line) = declaredName? line := by
  rcases eq_beforeComment_append line with ⟨comment, split, rfl | ⟨rest, rfl⟩⟩
  · rw [List.append_nil] at split
    rw [← split]
  · calc
      declaredName? (beforeComment line) =
          declaredName? (beforeComment line ++ '-' :: '-' :: rest) :=
        (declaredName?_append_hyphen _ _).symm
      _ = declaredName? line := by rw [← split]

/-- A declared name begins with a letter. -/
theorem exists_cons_of_declaredName?
    {line name : Text}
    (declared : declaredName? line = some name) :
    ∃ first rest, name = first :: rest ∧ Text.isLetterVariant first = true := by
  unfold declaredName? at declared
  rcases Option.bind_eq_some_iff.1 declared with ⟨rest, -, leading⟩
  unfold leadingName? at leading
  split at leading
  · dsimp only at leading
    split at leading
    · contradiction
    · rename_i filled
      rw [← Option.some.inj leading]
      cases letters : (dropBacktick rest).takeWhile Text.isLetterVariant with
      | nil => simp [letters] at filled
      | cons first more =>
          have variant : first ∈ (dropBacktick rest).takeWhile Text.isLetterVariant :=
            letters ▸ List.mem_cons_self ..
          exact ⟨first, _, rfl, List.mem_takeWhile_imp variant⟩
  · contradiction

theorem ne_nil_of_declaredName?
    {line name : Text}
    (declared : declaredName? line = some name) :
    name ≠ [] := by
  rcases exists_cons_of_declaredName? declared with ⟨first, rest, rfl, -⟩
  exact List.cons_ne_nil first rest

end ProcedureAudit.Routine
