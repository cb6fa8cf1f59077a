import Mathlib.Data.List.Basic
import ProcedureAudit.Query.Parentheses

/-!
# What a repair of parentheses brings together

Removing surplus parentheses makes characters neighbours that were none before.  Two hyphens meet
exactly if all that stands between them is a run of parentheses of the surplus kind and the repair
removes the whole run: opening parentheses are removed from the left, so the run and what stands
before it must not exceed the surplus; closing ones from the right, so the run and what stands
after it must not.
-/

namespace ProcedureAudit.Query

/-! ## Removing the first occurrences -/

theorem dropFirst_zero (mark : Char) (text : Text) :
    dropFirst mark 0 text = text := by
  cases text <;> rfl

theorem dropFirst_cons_of_ne
    {mark character : Char}
    (differs : character ≠ mark)
    (surplus : Nat)
    (rest : Text) :
    dropFirst mark surplus (character :: rest) = character :: dropFirst mark surplus rest := by
  cases surplus with
  | zero => rw [dropFirst_zero, dropFirst_zero]
  | succ surplus => rw [dropFirst, if_neg differs]

theorem dropFirst_sublist (mark : Char) (surplus : Nat) (text : Text) :
    (dropFirst mark surplus text).Sublist text := by
  induction text generalizing surplus with
  | nil => cases surplus <;> exact List.Sublist.refl []
  | cons character rest induction =>
      cases surplus with
      | zero => rw [dropFirst_zero]
      | succ surplus =>
          rw [dropFirst]
          split
          · exact (induction surplus).cons character
          · exact (induction (surplus + 1)).cons_cons character

theorem dropFirst_append (mark : Char) (surplus : Nat) (first second : Text) :
    dropFirst mark surplus (first ++ second) =
      dropFirst mark surplus first ++ dropFirst mark (surplus - first.count mark) second := by
  induction first generalizing surplus with
  | nil => cases surplus <;> rfl
  | cons character first induction =>
      by_cases marked : character = mark
      · subst marked
        cases surplus with
        | zero => simp [dropFirst_zero]
        | succ surplus => simp [dropFirst, induction]
      · rw [List.cons_append, dropFirst_cons_of_ne marked, dropFirst_cons_of_ne marked, induction,
          List.count_cons_of_ne marked, List.cons_append]

/-- A run of marks within the surplus is removed as a whole. -/
theorem dropFirst_replicate_append
    {mark : Char}
    {run surplus : Nat}
    (within : run ≤ surplus)
    (rest : Text) :
    dropFirst mark surplus (List.replicate run mark ++ rest) =
      dropFirst mark (surplus - run) rest := by
  have removed : dropFirst mark surplus (List.replicate run mark) = [] := by
    induction run generalizing surplus with
    | zero => cases surplus <;> rfl
    | succ run induction =>
        obtain ⟨surplus, rfl⟩ : ∃ fewer, surplus = fewer + 1 := ⟨surplus - 1, by omega⟩
        rw [List.replicate_succ, dropFirst, if_pos rfl, induction (by omega)]
  rw [dropFirst_append, removed, List.count_replicate_self, List.nil_append]

/-! ## Tracing back what remains -/

/-- A character that remains stands after a run of marks that is removed. -/
theorem exists_of_dropFirst_eq_cons
    {mark character : Char}
    {surplus : Nat}
    {text rest : Text}
    (differs : character ≠ mark)
    (remains : dropFirst mark surplus text = character :: rest) :
    ∃ run after, text = List.replicate run mark ++ character :: after ∧
      run ≤ surplus ∧ dropFirst mark (surplus - run) after = rest := by
  induction text generalizing surplus with
  | nil => cases surplus <;> contradiction
  | cons first text induction =>
      by_cases marked : first = mark
      · subst marked
        cases surplus with
        | zero =>
            rw [dropFirst_zero] at remains
            exact (differs (List.cons.inj remains).1.symm).elim
        | succ surplus =>
            rw [dropFirst, if_pos rfl] at remains
            rcases induction remains with ⟨run, after, rfl, within, left⟩
            refine ⟨run + 1, after, rfl, by omega, ?_⟩
            rw [Nat.add_sub_add_right, left]
      · rw [dropFirst_cons_of_ne marked] at remains
        rcases List.cons.inj remains with ⟨rfl, left⟩
        exact ⟨0, text, rfl, Nat.zero_le _, left⟩

/-- What remains in two parts comes from a text in two parts. -/
theorem exists_append_of_dropFirst_eq_append
    {mark : Char}
    {surplus : Nat}
    {text left right : Text}
    (split : dropFirst mark surplus text = left ++ right) :
    ∃ first second, text = first ++ second ∧
      dropFirst mark (surplus - first.count mark) second = right := by
  induction text generalizing surplus left with
  | nil =>
      have none : right = [] := by
        cases surplus <;> exact (List.append_eq_nil_iff.1 split.symm).2
      exact ⟨[], [], rfl, by rw [none]; cases surplus <;> rfl⟩
  | cons character text induction =>
      cases left with
      | nil => exact ⟨[], character :: text, rfl, split⟩
      | cons head left =>
          by_cases marked : character = mark
          · subst marked
            cases surplus with
            | zero =>
                rw [dropFirst_zero] at split
                exact ⟨head :: left, right, split, by rw [Nat.zero_sub, dropFirst_zero]⟩
            | succ surplus =>
                rw [dropFirst, if_pos rfl] at split
                rcases induction split with ⟨first, second, rfl, remains⟩
                refine ⟨character :: first, second, rfl, ?_⟩
                rw [List.count_cons_self, Nat.add_sub_add_right, remains]
          · rw [dropFirst_cons_of_ne marked, List.cons_append] at split
            rcases induction (List.cons.inj split).2 with ⟨first, second, rfl, remains⟩
            refine ⟨character :: first, second, rfl, ?_⟩
            rw [List.count_cons_of_ne marked, remains]

/-! ## Characters that meet -/

/-- Two equal characters with only marks between them, all of which are among the first marks. -/
def PartedByFirst (mark character : Char) (surplus : Nat) (text : Text) : Prop :=
  ∃ before run after, 0 < run ∧
    text = before ++ character :: (List.replicate run mark ++ character :: after) ∧
    before.count mark + run ≤ surplus

/-- Two equal characters with only marks between them, all of which are among the last marks. -/
def PartedByLast (mark character : Char) (surplus : Nat) (text : Text) : Prop :=
  ∃ before run after, 0 < run ∧
    text = before ++ character :: (List.replicate run mark ++ character :: after) ∧
    after.count mark + run ≤ surplus

/-- The first marks are removed: what is next to each other stays so, and what they parted meets. -/
theorem pair_infix_dropFirst_iff
    {mark character : Char}
    (differs : character ≠ mark)
    {surplus : Nat}
    {text : Text} :
    [character, character] <:+: dropFirst mark surplus text ↔
      [character, character] <:+: text ∨ PartedByFirst mark character surplus text := by
  have meets (before after : Text) {run : Nat} (within : run ≤ surplus - before.count mark) :
      [character, character] <:+:
        dropFirst mark surplus
          (before ++ character :: (List.replicate run mark ++ character :: after)) := by
    rw [dropFirst_append, dropFirst_cons_of_ne differs, dropFirst_replicate_append within,
      dropFirst_cons_of_ne differs]
    exact ⟨dropFirst mark surplus before,
      dropFirst mark (surplus - before.count mark - run) after, by simp⟩
  constructor
  · rintro ⟨left, right, split⟩
    rw [List.append_assoc] at split
    rcases exists_append_of_dropFirst_eq_append split.symm with ⟨first, second, rfl, pair⟩
    -- Marks may have been removed in front of either character; only those between them part them.
    rcases exists_of_dropFirst_eq_cons differs pair with ⟨lead, tail, rfl, leadWithin, single⟩
    rcases exists_of_dropFirst_eq_cons differs single with ⟨run, after, rfl, within, -⟩
    rcases Nat.eq_zero_or_pos run with rfl | nonempty
    · exact Or.inl ⟨first ++ List.replicate lead mark, after, by simp⟩
    · refine Or.inr ⟨first ++ List.replicate lead mark, run, after, nonempty, by simp, ?_⟩
      rw [List.count_append, List.count_replicate_self]
      omega
  · rintro (⟨before, after, rfl⟩ | ⟨before, run, after, -, rfl, removed⟩)
    · simpa using meets before after (Nat.zero_le _)
    · exact meets before after (by omega)

/-- The last marks are removed, as the first ones are from the reversed text. -/
theorem pair_infix_dropLast_iff
    {mark character : Char}
    (differs : character ≠ mark)
    {surplus : Nat}
    {text : Text} :
    [character, character] <:+: dropLast mark surplus text ↔
      [character, character] <:+: text ∨ PartedByLast mark character surplus text := by
  have mirrored (other : Text) :
      [character, character] <:+: other.reverse ↔ [character, character] <:+: other :=
    @List.reverse_infix _ [character, character] other
  have parted : PartedByFirst mark character surplus text.reverse ↔
      PartedByLast mark character surplus text := by
    constructor
    · rintro ⟨before, run, after, nonempty, split, removed⟩
      refine ⟨after.reverse, run, before.reverse, nonempty, ?_, by rwa [List.count_reverse]⟩
      rw [← List.reverse_reverse text, split]
      simp
    · rintro ⟨before, run, after, nonempty, rfl, removed⟩
      exact ⟨after.reverse, run, before.reverse, nonempty, by simp, by rwa [List.count_reverse]⟩
  rw [dropLast, mirrored, pair_infix_dropFirst_iff differs, mirrored, parted]

/-! ## Whole repairs -/

/-- A repair only removes. -/
theorem balanceParentheses_sublist (select : Text) :
    (balanceParentheses select).Sublist select := by
  unfold balanceParentheses
  dsimp only
  split
  · have reversed := (dropFirst_sublist ')' (select.count ')' - select.count '(') select.reverse)
    simpa [dropLast] using reversed.reverse
  · exact dropFirst_sublist '(' (select.count '(' - select.count ')') select

/-- Two hyphens have only parentheses between them, and all of these are surplus. -/
def HyphensPartedBySurplus (select : Text) : Prop :=
  PartedByFirst '(' '-' (select.count '(' - select.count ')') select ∨
    PartedByLast ')' '-' (select.count ')' - select.count '(') select

/-- A repaired text has two hyphens in a row if it had them before, or if surplus parted them. -/
theorem hyphens_infix_balanceParentheses_iff {select : Text} :
    "--".toList <:+: balanceParentheses select ↔
      "--".toList <:+: select ∨ HyphensPartedBySurplus select := by
  have hyphens : "--".toList = ['-', '-'] := rfl
  unfold balanceParentheses HyphensPartedBySurplus
  rw [hyphens]
  dsimp only
  split
  · rename_i fewer
    have noFirst : ¬ PartedByFirst '(' '-' (select.count '(' - select.count ')') select := by
      rintro ⟨before, run, after, nonempty, -, within⟩
      omega
    rw [pair_infix_dropLast_iff (by decide)]
    simp only [noFirst, false_or]
  · rename_i notFewer
    have noLast : ¬ PartedByLast ')' '-' (select.count ')' - select.count '(') select := by
      rintro ⟨before, run, after, nonempty, -, within⟩
      omega
    rw [pair_infix_dropFirst_iff (by decide)]
    simp only [noLast, or_false]

end ProcedureAudit.Query
