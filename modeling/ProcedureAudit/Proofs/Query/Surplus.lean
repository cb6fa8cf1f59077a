import Mathlib.Data.List.Basic
import ProcedureAudit.Proofs.Query.Parentheses
import ProcedureAudit.Proofs.Text.Basic

/-!
# The surplus that a repair removes

A repair removes the surplus and nothing else: all marks of one kind in a beginning or in an end of
the text, which is as long as it takes to hold the surplus.

The surplus can also be searched for, one mark at a time, in what the removals before have left.
No search fails, and after every removal the text is the one from which that many marks are
missing.
-/

namespace ProcedureAudit.Query

/-! ## Texts without some of their marks -/

/-- The text without its first marks, as many as the surplus. -/
def WithoutFirst (mark : Char) (surplus : Nat) (text remaining : Text) : Prop :=
  ∃ front back, text = front ++ back ∧ front.count mark = surplus ∧
    remaining = front.filter (· ≠ mark) ++ back

/-- The text without its last marks, as many as the surplus. -/
def WithoutLast (mark : Char) (surplus : Nat) (text remaining : Text) : Prop :=
  ∃ front back, text = front ++ back ∧ back.count mark = surplus ∧
    remaining = front ++ back.filter (· ≠ mark)

section Marks

variable {mark : Char} {surplus : Nat} {text remaining : Text}

theorem withoutFirst_reverse_iff :
    WithoutFirst mark surplus text.reverse remaining.reverse ↔
      WithoutLast mark surplus text remaining := by
  constructor
  · rintro ⟨front, back, split, number, rest⟩
    refine ⟨back.reverse, front.reverse, ?_, by rwa [List.count_reverse], ?_⟩
    · rw [← List.reverse_inj, split]
      simp
    · rw [← List.reverse_inj, rest]
      simp
  · rintro ⟨front, back, rfl, number, rfl⟩
    exact ⟨back.reverse, front.reverse, by simp, by rwa [List.count_reverse], by simp⟩

/-- Nothing that a selection without the mark finds is missing. -/
theorem WithoutFirst.filter_eq
    (without : WithoutFirst mark surplus text remaining)
    {selects : Char → Bool}
    (leftOut : selects mark = false) :
    remaining.filter selects = text.filter selects := by
  rcases without with ⟨front, back, rfl, -, rfl⟩
  rw [List.filter_append, List.filter_append, List.filter_filter]
  congr 1
  apply List.filter_congr
  intro character _
  by_cases marked : character = mark
  · simp [marked, leftOut]
  · simp [marked]

theorem WithoutFirst.count_add (without : WithoutFirst mark surplus text remaining) :
    remaining.count mark + surplus = text.count mark := by
  rcases without with ⟨front, back, rfl, rfl, rfl⟩
  have none : (front.filter (· ≠ mark)).count mark = 0 := by
    rw [List.count_eq_zero]
    intro member
    simpa using List.of_mem_filter member
  rw [List.count_append, List.count_append, none]
  omega

theorem WithoutLast.filter_eq
    (without : WithoutLast mark surplus text remaining)
    {selects : Char → Bool}
    (leftOut : selects mark = false) :
    remaining.filter selects = text.filter selects := by
  have reversed := (withoutFirst_reverse_iff.2 without).filter_eq leftOut
  rwa [List.filter_reverse, List.filter_reverse, List.reverse_inj] at reversed

theorem WithoutFirst.count_eq_of_ne
    (without : WithoutFirst mark surplus text remaining)
    {other : Char}
    (differs : other ≠ mark) :
    remaining.count other = text.count other := by
  have leftOut : (mark == other) = false := beq_eq_false_iff_ne.2 (Ne.symm differs)
  rw [List.count, List.countP_eq_length_filter, without.filter_eq leftOut,
    ← List.countP_eq_length_filter, ← List.count]

theorem WithoutLast.count_add (without : WithoutLast mark surplus text remaining) :
    remaining.count mark + surplus = text.count mark := by
  have reversed := (withoutFirst_reverse_iff.2 without).count_add
  rwa [List.count_reverse, List.count_reverse] at reversed

theorem WithoutLast.count_eq_of_ne
    (without : WithoutLast mark surplus text remaining)
    {other : Char}
    (differs : other ≠ mark) :
    remaining.count other = text.count other := by
  have reversed := (withoutFirst_reverse_iff.2 without).count_eq_of_ne differs
  rwa [List.count_reverse, List.count_reverse] at reversed

/-! ## Marks in order -/

/-- A text with enough marks has a beginning with exactly as many. -/
theorem exists_append_of_le_count (enough : surplus ≤ text.count mark) :
    ∃ front back, text = front ++ back ∧ front.count mark = surplus := by
  induction text generalizing surplus with
  | nil =>
      rw [List.count_nil, Nat.le_zero] at enough
      exact ⟨[], [], rfl, enough.symm⟩
  | cons character text induction =>
      by_cases marked : character = mark
      · subst marked
        cases surplus with
        | zero => exact ⟨[], character :: text, rfl, rfl⟩
        | succ surplus =>
            rw [List.count_cons_self, Nat.add_le_add_iff_right] at enough
            rcases induction enough with ⟨front, back, rfl, number⟩
            exact ⟨character :: front, back, rfl, by rw [List.count_cons_self, number]⟩
      · rw [List.count_cons_of_ne marked] at enough
        rcases induction enough with ⟨front, back, rfl, number⟩
        exact ⟨character :: front, back, rfl, by rw [List.count_cons_of_ne marked, number]⟩

theorem dropFirst_count (mark : Char) (text : Text) :
    dropFirst mark (text.count mark) text = text.filter (· ≠ mark) := by
  induction text with
  | nil => rfl
  | cons character text induction =>
      by_cases marked : character = mark
      · subst marked
        rw [List.count_cons_self, dropFirst, if_pos rfl, induction]
        simp
      · rw [List.count_cons_of_ne marked, dropFirst_cons_of_ne marked, induction]
        simp [marked]

theorem dropFirst_eq_iff (enough : surplus ≤ text.count mark) :
    dropFirst mark surplus text = remaining ↔ WithoutFirst mark surplus text remaining := by
  have dropped (front back : Text) :
      dropFirst mark (front.count mark) (front ++ back) =
        front.filter (· ≠ mark) ++ back := by
    rw [dropFirst_append, dropFirst_count, Nat.sub_self, dropFirst_zero]
  constructor
  · rintro rfl
    rcases exists_append_of_le_count enough with ⟨front, back, rfl, rfl⟩
    exact ⟨front, back, rfl, rfl, dropped front back⟩
  · rintro ⟨front, back, rfl, rfl, rfl⟩
    exact dropped front back

theorem dropLast_eq_iff (enough : surplus ≤ text.count mark) :
    dropLast mark surplus text = remaining ↔ WithoutLast mark surplus text remaining := by
  rw [← List.count_reverse] at enough
  rw [dropLast, ← withoutFirst_reverse_iff, ← dropFirst_eq_iff enough, List.reverse_eq_iff]

end Marks

/-! ## Marks searched for one after the other -/

/-- The text without its first mark, if it has one. -/
def cutFirst? (mark : Char) (text : Text) : Option Text :=
  (Text.splitAtFirst? [mark] text).map fun (before, after) => before ++ after

/-- The text without its last mark, if it has one. -/
def cutLast? (mark : Char) (text : Text) : Option Text :=
  (Text.splitAtLast? mark text).map fun (before, after) => before ++ after

/-- Cut several times, each time from what is left; no cut may fail. -/
def cutTimes? (cut? : Text → Option Text) : Nat → Text → Option Text
  | 0, text => some text
  | times + 1, text => (cut? text).bind (cutTimes? cut? times)

/-- A cut takes one mark away, and what it leaves is what the drops count from. -/
def CutsLike (mark : Char) (cut? : Text → Option Text) (drop : Nat → Text → Text) : Prop :=
  ∀ text, mark ∈ text →
    ∃ cut, cut? text = some cut ∧ cut.count mark + 1 = text.count mark ∧
      ∀ surplus, drop (surplus + 1) text = drop surplus cut

/-- A step leaves what the drops count from, and so does a run of steps. -/
theorem CutsLike.cutTimes?_eq
    {mark : Char}
    {cut? : Text → Option Text}
    {drop : Nat → Text → Text}
    (cuts : CutsLike mark cut? drop)
    (drop_zero : ∀ text, drop 0 text = text)
    {surplus : Nat}
    {text : Text}
    (enough : surplus ≤ text.count mark) :
    cutTimes? cut? surplus text = some (drop surplus text) := by
  induction surplus generalizing text with
  | zero => rw [cutTimes?, drop_zero]
  | succ surplus induction =>
      have member : mark ∈ text := List.count_pos_iff.1 (Nat.lt_of_lt_of_le (Nat.succ_pos _) enough)
      rcases cuts text member with ⟨cut, found, fewer, dropped⟩
      rw [cutTimes?, found, Option.bind_some, induction (by omega), dropped]

theorem dropFirst_append_of_not_mem
    {mark : Char}
    {first : Text}
    (absent : mark ∉ first)
    (surplus : Nat)
    (second : Text) :
    dropFirst mark surplus (first ++ second) = first ++ dropFirst mark surplus second := by
  induction first with
  | nil => rfl
  | cons character first induction =>
      rw [List.mem_cons, not_or] at absent
      rw [List.cons_append, dropFirst_cons_of_ne (Ne.symm absent.1), induction absent.2,
        List.cons_append]

theorem cutsLike_dropFirst (mark : Char) :
    CutsLike mark (cutFirst? mark) (dropFirst mark) := by
  intro text member
  rcases List.eq_append_cons_of_mem member with ⟨before, after, rfl, absent⟩
  refine ⟨before ++ after, ?_, ?_, ?_⟩
  · rw [cutFirst?, Text.splitAtFirst?_append_cons absent]
    rfl
  · rw [List.count_append, List.count_append, List.count_cons_self, Nat.add_assoc]
  · intro surplus
    rw [dropFirst_append_of_not_mem absent, dropFirst_append_of_not_mem absent, dropFirst,
      if_pos rfl]

theorem cutsLike_dropLast (mark : Char) :
    CutsLike mark (cutLast? mark) (dropLast mark) := by
  intro text member
  rcases Text.exists_append_last_of_mem member with ⟨before, after, rfl, absent⟩
  refine ⟨before ++ after, ?_, ?_, ?_⟩
  · rw [cutLast?, Text.splitAtLast?_append_cons absent]
    rfl
  · rw [List.count_append, List.count_append, List.count_cons_self, Nat.add_assoc]
  · intro surplus
    have absentReversed : mark ∉ after.reverse := by rwa [List.mem_reverse]
    have reversed : (before ++ mark :: after).reverse =
        after.reverse ++ mark :: before.reverse := by simp
    rw [dropLast, dropLast, reversed, List.reverse_append,
      dropFirst_append_of_not_mem absentReversed, dropFirst_append_of_not_mem absentReversed,
      dropFirst, if_pos rfl]

/-! ## Repairs -/

def isParenthesis (character : Char) : Bool :=
  character = '(' || character = ')'

/-- What becomes of a text by a repair: only the surplus goes, from the end that is meant for it. -/
structure IsRepair (select repaired : Text) : Prop where
  closingSurplus : select.count '(' < select.count ')' →
    WithoutLast ')' (select.count ')' - select.count '(') select repaired
  openingSurplus : select.count ')' < select.count '(' →
    WithoutFirst '(' (select.count '(' - select.count ')') select repaired
  unchanged : select.count '(' = select.count ')' → repaired = select

theorem balanceParentheses_of_count_eq
    {select : Text}
    (balanced : select.count '(' = select.count ')') :
    balanceParentheses select = select := by
  unfold balanceParentheses
  dsimp only
  rw [balanced, if_neg (Nat.lt_irrefl _), Nat.sub_self, dropFirst_zero]

theorem isRepair_iff {select repaired : Text} :
    IsRepair select repaired ↔ repaired = balanceParentheses select := by
  rcases Nat.lt_trichotomy (select.count '(') (select.count ')') with fewer | equal | more
  · have closing : balanceParentheses select =
        dropLast ')' (select.count ')' - select.count '(') select := if_pos fewer
    rw [closing, eq_comm, dropLast_eq_iff (Nat.sub_le _ _)]
    constructor
    · intro repair
      exact repair.closingSurplus fewer
    · intro without
      exact ⟨fun _ => without, fun more => by omega, fun equal => by omega⟩
  · rw [balanceParentheses_of_count_eq equal]
    constructor
    · intro repair
      exact repair.unchanged equal
    · intro same
      exact ⟨fun fewer => by omega, fun more => by omega, fun _ => same⟩
  · have opening : balanceParentheses select =
        dropFirst '(' (select.count '(' - select.count ')') select := if_neg (Nat.lt_asymm more)
    rw [opening, eq_comm, dropFirst_eq_iff (Nat.sub_le _ _)]
    constructor
    · intro repair
      exact repair.openingSurplus more
    · intro without
      exact ⟨fun fewer => by omega, fun _ => without, fun equal => by omega⟩

theorem isRepair_balanceParentheses (select : Text) :
    IsRepair select (balanceParentheses select) :=
  isRepair_iff.2 rfl

section Repair

variable {select repaired : Text} (repair : IsRepair select repaired)

include repair

/-- The surplus kind comes down to the number of the other kind, which stays. -/
theorem IsRepair.count_eq_min :
    repaired.count '(' = min (select.count '(') (select.count ')') ∧
      repaired.count ')' = min (select.count '(') (select.count ')') := by
  rcases Nat.lt_trichotomy (select.count '(') (select.count ')') with fewer | equal | more
  · have without := repair.closingSurplus fewer
    have removed := without.count_add
    have kept : repaired.count '(' = select.count '(' := without.count_eq_of_ne (by decide)
    omega
  · rw [repair.unchanged equal]
    omega
  · have without := repair.openingSurplus more
    have removed := without.count_add
    have kept : repaired.count ')' = select.count ')' := without.count_eq_of_ne (by decide)
    omega

theorem IsRepair.filter_eq
    {selects : Char → Bool}
    (openingLeftOut : selects '(' = false)
    (closingLeftOut : selects ')' = false) :
    repaired.filter selects = select.filter selects := by
  rcases Nat.lt_trichotomy (select.count '(') (select.count ')') with fewer | equal | more
  · exact (repair.closingSurplus fewer).filter_eq closingLeftOut
  · rw [repair.unchanged equal]
  · exact (repair.openingSurplus more).filter_eq openingLeftOut

end Repair

theorem count_balanceParentheses_eq (select : Text) :
    (balanceParentheses select).count '(' = (balanceParentheses select).count ')' := by
  rcases (isRepair_balanceParentheses select).count_eq_min with ⟨opening, closing⟩
  rw [opening, closing]

/-- Search for the surplus one parenthesis at a time, in what the removals before have left. -/
def balanceBySearch? (select : Text) : Option Text :=
  let opening := select.count '('
  let closing := select.count ')'
  if opening < closing then
    cutTimes? (cutLast? ')') (closing - opening) select
  else
    cutTimes? (cutFirst? '(') (opening - closing) select

theorem balanceBySearch?_eq_some (select : Text) :
    balanceBySearch? select = some (balanceParentheses select) := by
  unfold balanceBySearch? balanceParentheses
  dsimp only
  split
  · apply (cutsLike_dropLast ')').cutTimes?_eq
    · intro text
      rw [dropLast, dropFirst_zero, List.reverse_reverse]
    · exact Nat.sub_le _ _
  · apply (cutsLike_dropFirst '(').cutTimes?_eq
    · exact dropFirst_zero '('
    · exact Nat.sub_le _ _

/--
A repair is the least removal from one side.  Searching for the surplus never fails and leads to
the repaired text, which has both kinds equally often; it is the only text that lacks exactly the
last closing or the first opening parentheses of the surplus; and repairing it changes nothing.
-/
theorem balanceParentheses_removes_surplus (select : Text) :
    let least := min (select.count '(') (select.count ')')
    let repaired := balanceParentheses select
    balanceBySearch? select = some repaired ∧
      (repaired.count '(' = least ∧ repaired.count ')' = least) ∧
      (∀ other, IsRepair select other ↔ other = repaired) ∧
      repaired.filter (!isParenthesis ·) = select.filter (!isParenthesis ·) ∧
      balanceParentheses repaired = repaired := by
  intro least repaired
  have repair := isRepair_balanceParentheses select
  refine ⟨balanceBySearch?_eq_some select, repair.count_eq_min, ?_, ?_, ?_⟩
  · intro other
    exact isRepair_iff
  · exact repair.filter_eq (by decide) (by decide)
  · exact balanceParentheses_of_count_eq (count_balanceParentheses_eq select)

end ProcedureAudit.Query
