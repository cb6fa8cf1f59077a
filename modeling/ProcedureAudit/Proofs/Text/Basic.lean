import ProcedureAudit.Text.Basic

/-!
# Laws of splitting and joining

The functions on texts are characterised by equations between texts: an opening that is dropped
is the beginning of the text, a part between two marks holds no mark, and a list of parts that
grows at its end is joined by one more glue.  The last sections say how a prefix that is read as
far as possible behaves when the text goes on with a character that stops the reading, where a
text is split at the first or the last occurrence of a mark, and how texts are ordered.
-/

namespace ProcedureAudit.Text

/-! ## Openings and parts -/

theorem dropOpening?_eq_some_iff {opening text rest : Text} :
    dropOpening? opening text = some rest ↔ text = opening ++ rest := by
  induction opening generalizing text with
  | nil =>
      simp [dropOpening?]
  | cons wanted opening induction =>
      cases text with
      | nil => simp [dropOpening?]
      | cons character text =>
          simp only [dropOpening?, List.cons_append, List.cons.injEq]
          split
          · simp [*]
          · simp [*]

/-- A text that is long enough for an opening begins with it or not, however it goes on. -/
theorem dropOpening?_append
    {opening text : Text}
    (long : opening.length ≤ text.length)
    (tail : Text) :
    dropOpening? opening (text ++ tail) = (dropOpening? opening text).map (· ++ tail) := by
  induction opening generalizing text with
  | nil => rfl
  | cons wanted opening induction =>
      cases text with
      | nil => exact absurd long (by simp)
      | cons character text =>
          rw [List.cons_append, dropOpening?, dropOpening?]
          split
          · exact induction (Nat.le_of_succ_le_succ long)
          · rfl

theorem beginsWith_iff {opening text : Text} :
    beginsWith opening text = true ↔ opening <+: text := by
  rw [beginsWith, Option.isSome_iff_exists]
  exact exists_congr fun _ => dropOpening?_eq_some_iff.trans eq_comm

/-- A part is found where it occurs, wherever that is. -/
theorem contains_iff {part text : Text} :
    contains part text = true ↔ part <:+: text := by
  unfold contains
  induction text with
  | nil =>
      unfold splitAtFirst?
      split
      · simp [*]
      · simp [*]
  | cons character rest induction =>
      rw [splitAtFirst?, List.infix_cons_iff]
      cases opened : dropOpening? part (character :: rest) with
      | some after =>
          have begins : part <+: character :: rest :=
            ⟨after, (dropOpening?_eq_some_iff.1 opened).symm⟩
          simp [begins]
      | none =>
          have differs : ¬ part <+: character :: rest := by
            rintro ⟨after, split⟩
            rw [dropOpening?_eq_some_iff.2 split.symm] at opened
            contradiction
          simp [differs, induction]

theorem splitOn_ne_nil (mark : Char) (text : Text) :
    splitOn mark text ≠ [] := by
  cases text with
  | nil => simp [splitOn]
  | cons character rest =>
      simp only [splitOn]
      split
      · simp
      · split <;> simp

/-- A part between two marks holds no mark. -/
theorem not_mem_of_mem_splitOn
    {mark : Char}
    {text part : Text}
    (member : part ∈ splitOn mark text) :
    mark ∉ part := by
  induction text generalizing part with
  | nil =>
      simp only [splitOn, List.mem_singleton] at member
      simp [member]
  | cons character rest induction =>
      simp only [splitOn] at member
      split at member
      · rcases List.mem_cons.1 member with rfl | later
        · simp
        · exact induction later
      · rename_i differs
        split at member
        · rename_i none
          exact (splitOn_ne_nil mark rest none).elim
        · rename_i first others parts
          rw [parts] at induction
          rcases List.mem_cons.1 member with rfl | later
          · have without := induction (List.mem_cons_self ..)
            simp only [List.mem_cons, not_or]
            exact ⟨Ne.symm differs, without⟩
          · exact induction (List.mem_cons_of_mem _ later)

theorem mem_of_mem_dropEndWhile
    {drops : Char → Bool}
    {text : Text}
    {character : Char}
    (member : character ∈ dropEndWhile drops text) :
    character ∈ text := by
  have reversed := List.mem_reverse.1 member
  exact List.mem_reverse.1 ((List.dropWhile_sublist drops).mem reversed)

theorem exists_dropEndWhile_append (drops : Char → Bool) (text : Text) :
    ∃ dropped, text = dropEndWhile drops text ++ dropped ∧
      ∀ character ∈ dropped, drops character = true := by
  refine ⟨(text.reverse.takeWhile drops).reverse, ?_, ?_⟩
  · rw [dropEndWhile, ← List.reverse_append, List.takeWhile_append_dropWhile,
      List.reverse_reverse]
  · intro character member
    exact List.all_eq_true.1 List.all_takeWhile character (List.mem_reverse.1 member)

theorem dropEndWhile_isPrefix (drops : Char → Bool) (text : Text) :
    dropEndWhile drops text <+: text := by
  rcases exists_dropEndWhile_append drops text with ⟨dropped, split, -⟩
  exact ⟨dropped, split.symm⟩

theorem dropEndWhile_eq_self
    {drops : Char → Bool}
    {text : Text}
    (kept : ∀ character ∈ text.getLast?, drops character = false) :
    dropEndWhile drops text = text := by
  rcases exists_dropEndWhile_append drops text with ⟨dropped, split, each⟩
  cases last : dropped.getLast? with
  | none =>
      rw [List.getLast?_eq_none_iff.1 last, List.append_nil] at split
      exact split.symm
  | some character =>
      have final : text.getLast? = some character := by
        rw [split, List.getLast?_append, last]
        rfl
      have drop := each character (List.mem_of_getLast? last)
      rw [kept character final] at drop
      contradiction

theorem dropEndWhile_append_of_forall
    {drops : Char → Bool}
    {ending : Text}
    (each : ∀ character ∈ ending, drops character = true)
    (text : Text) :
    dropEndWhile drops (text ++ ending) = dropEndWhile drops text := by
  have reversed : ∀ character ∈ ending.reverse, drops character = true :=
    fun character member => each character (List.mem_reverse.1 member)
  rw [dropEndWhile, List.reverse_append, List.dropWhile_append_of_pos reversed, dropEndWhile]

/-- What is dropped from the end need not be looked at when the beginning is trimmed. -/
theorem dropAround_append_of_forall
    {drops : Char → Bool}
    {ending : Text}
    (each : ∀ character ∈ ending, drops character = true)
    (text : Text) :
    dropAround drops (text ++ ending) = dropAround drops text := by
  rw [dropAround, dropAround, List.dropWhile_append]
  split
  · rename_i nothing
    have everything : (ending ++ []).dropWhile drops = [] :=
      List.dropWhile_append_of_pos each
    rw [List.append_nil] at everything
    rw [List.isEmpty_iff.1 nothing, everything]
  · exact dropEndWhile_append_of_forall each (text.dropWhile drops)

theorem trim_infix (text : Text) :
    trim text <:+: text :=
  (dropEndWhile_isPrefix isBlank _).isInfix.trans (List.dropWhile_suffix isBlank).isInfix

theorem joinWith_concat
    (glue : Text)
    {parts : List Text}
    (nonempty : parts ≠ [])
    (last : Text) :
    joinWith glue (parts ++ [last]) = joinWith glue parts ++ glue ++ last := by
  induction parts with
  | nil => exact (nonempty rfl).elim
  | cons part parts induction =>
      cases parts with
      | nil => simp [joinWith]
      | cons next parts =>
          have joined := induction (by simp)
          simp only [List.cons_append] at joined
          simp [joinWith, joined]

/-! ## Parts and what they are joined to -/

theorem splitOn_eq_splitOn (mark : Char) (text : Text) :
    splitOn mark text = List.splitOn mark text := by
  induction text with
  | nil => exact (List.splitOn_nil mark).symm
  | cons character rest induction =>
      rw [splitOn, induction, List.splitOn_cons_eq_if_modifyHead]
      cases parts : List.splitOn mark rest with
      | nil => exact (List.splitOn_ne_nil mark rest parts).elim
      | cons part parts => simp

theorem joinWith_eq_intercalate (glue : Text) (parts : List Text) :
    joinWith glue parts = glue.intercalate parts := by
  induction parts with
  | nil => rfl
  | cons part parts induction =>
      cases parts with
      | nil => exact List.intercalate_singleton.symm
      | cons next parts => rw [joinWith, induction, List.intercalate_cons_cons]

/-- A mark in the middle of a text separates the parts before it from those after it. -/
theorem splitOn_append_cons (mark : Char) (before after : Text) :
    splitOn mark (before ++ mark :: after) = splitOn mark before ++ splitOn mark after := by
  simp only [splitOn_eq_splitOn]
  exact List.splitOn_append_cons_self before after

theorem splitOn_append_of_not_mem
    {mark : Char}
    {before : Text}
    (absent : mark ∉ before)
    (after : Text) :
    splitOn mark (before ++ mark :: after) = before :: splitOn mark after := by
  simp only [splitOn_eq_splitOn]
  exact List.splitOn_append_cons_self_of_not_mem absent after

theorem splitOn_of_not_mem {mark : Char} {text : Text} (absent : mark ∉ text) :
    splitOn mark text = [text] := by
  rw [splitOn_eq_splitOn]
  exact List.splitOn_eq_singleton absent

/-- Parts without the mark are the parts of what they are joined to by it. -/
theorem splitOn_joinWith
    {mark : Char}
    {parts : List Text}
    (nonempty : parts ≠ [])
    (absent : ∀ part ∈ parts, mark ∉ part) :
    splitOn mark (joinWith [mark] parts) = parts := by
  rw [splitOn_eq_splitOn, joinWith_eq_intercalate]
  exact List.splitOn_intercalate mark absent nonempty

/-- Lines without the mark are the parts of the text in which each of them ends with it. -/
theorem splitOn_flatMap_concat
    {mark : Char}
    {lines : List Text}
    (absent : ∀ line ∈ lines, mark ∉ line) :
    splitOn mark (lines.flatMap (· ++ [mark])) = lines ++ [[]] := by
  induction lines with
  | nil => rfl
  | cons line lines induction =>
      rcases List.forall_mem_cons.1 absent with ⟨lineAbsent, linesAbsent⟩
      rw [List.flatMap_cons, List.append_assoc, List.singleton_append,
        splitOn_append_of_not_mem lineAbsent, induction linesAbsent, List.cons_append]

/-! ## Characters that stop a reading -/

theorem takeWhile_append_stop
    {continues : Char → Bool}
    {stop : Char}
    (stops : continues stop = false)
    (before after : Text) :
    (before ++ stop :: after).takeWhile continues = before.takeWhile continues := by
  induction before with
  | nil => simp [stops]
  | cons character before induction =>
      simp only [List.cons_append, List.takeWhile_cons, induction]

theorem dropWhile_append_stop
    {continues : Char → Bool}
    {stop : Char}
    (stops : continues stop = false)
    (before after : Text) :
    (before ++ stop :: after).dropWhile continues =
      before.dropWhile continues ++ stop :: after := by
  induction before with
  | nil => simp [stops]
  | cons character before induction =>
      simp only [List.cons_append, List.dropWhile_cons, induction]
      split <;> simp

/-- An opening without the stopping character is found before it or not at all. -/
theorem dropOpening?_append_stop
    {opening : Text}
    {stop : Char}
    (absent : stop ∉ opening)
    (before after : Text) :
    dropOpening? opening (before ++ stop :: after) =
      (dropOpening? opening before).map (· ++ stop :: after) := by
  induction opening generalizing before with
  | nil => rfl
  | cons wanted opening induction =>
      rw [List.mem_cons, not_or] at absent
      cases before with
      | nil => exact if_neg absent.1
      | cons character before =>
          rw [List.cons_append, dropOpening?, dropOpening?]
          split
          · exact induction absent.2 before
          · rfl

theorem takeWhile_append_of_head?
    {continues : Char → Bool}
    {word tail : Text}
    (inside : ∀ character ∈ word, continues character = true)
    (stops : ∀ character ∈ tail.head?, continues character = false) :
    (word ++ tail).takeWhile continues = word := by
  rw [List.takeWhile_append_of_pos inside]
  cases tail with
  | nil => simp
  | cons stop tail => simp [stops stop rfl]

theorem dropWhile_append_of_head?
    {continues : Char → Bool}
    {word tail : Text}
    (inside : ∀ character ∈ word, continues character = true)
    (stops : ∀ character ∈ tail.head?, continues character = false) :
    (word ++ tail).dropWhile continues = tail := by
  rw [List.dropWhile_append_of_pos inside]
  cases tail with
  | nil => simp
  | cons stop tail => simp [stops stop rfl]

/-- A part without the stopping character lies on one side of it. -/
theorem infix_append_cons_iff
    {part : Text}
    {stop : Char}
    (absent : stop ∉ part)
    {before after : Text} :
    part <:+: before ++ stop :: after ↔ part <:+: before ∨ part <:+: after := by
  have nothing {opening : Text} (without : stop ∉ opening) (begins : opening <+: stop :: after) :
      opening = [] := by
    rcases List.prefix_cons_iff.1 begins with empty | ⟨rest, rfl, -⟩
    · exact empty
    · exact (without (List.mem_cons_self ..)).elim
  constructor
  · intro within
    rcases List.infix_append_iff.1 within with left | right | ⟨first, second, rfl, ends, begins⟩
    · exact Or.inl left
    · rcases List.infix_cons_iff.1 right with begins | inside
      · rw [nothing absent begins]
        exact Or.inl (List.nil_infix ..)
      · exact Or.inr inside
    · have empty := nothing (fun member => absent (List.mem_append_right _ member)) begins
      rw [empty, List.append_nil]
      exact Or.inl ends.isInfix
  · rintro (left | right)
    · exact left.trans (List.prefix_append ..).isInfix
    · exact right.trans ((List.suffix_cons ..).trans (List.suffix_append ..)).isInfix

/-! ## The first and the last occurrence of a mark -/

section Occurrence

variable {mark : Char} {text : Text}

theorem splitAtFirst?_append_cons (absent : mark ∉ text) (after : Text) :
    splitAtFirst? [mark] (text ++ mark :: after) = some (text, after) := by
  induction text with
  | nil => simp [splitAtFirst?, dropOpening?]
  | cons character text induction =>
      rw [List.mem_cons, not_or] at absent
      have unopened : dropOpening? [mark] (character :: (text ++ mark :: after)) = none :=
        if_neg (Ne.symm absent.1)
      rw [List.cons_append, splitAtFirst?, unopened, induction absent.2]
      rfl

theorem exists_append_last_of_mem (member : mark ∈ text) :
    ∃ before after, text = before ++ mark :: after ∧ mark ∉ after := by
  obtain ⟨before, after, split, absent⟩ :=
    List.eq_append_cons_of_mem (List.mem_reverse.2 member)
  refine ⟨after.reverse, before.reverse, ?_, by simpa using absent⟩
  rw [← List.reverse_inj, split]
  simp

private theorem differs_of_mem_reverse (absent : mark ∉ text) :
    ∀ character ∈ text.reverse, decide (character ≠ mark) = true := by
  intro character member
  refine decide_eq_true fun same => absent ?_
  exact same ▸ List.mem_reverse.1 member

theorem splitAtLast?_append_cons (absent : mark ∉ text) (before : Text) :
    splitAtLast? mark (before ++ mark :: text) = some (before, text) := by
  have reversed : (before ++ mark :: text).reverse =
      text.reverse ++ mark :: before.reverse := by simp
  simp only [splitAtLast?, reversed]
  rw [takeWhile_append_of_head? (differs_of_mem_reverse absent) (by simp),
    dropWhile_append_of_head? (differs_of_mem_reverse absent) (by simp)]
  simp

theorem splitAtLast?_of_not_mem (absent : mark ∉ text) :
    splitAtLast? mark text = none := by
  have everything : (text.reverse ++ []).dropWhile (· ≠ mark) = [] :=
    dropWhile_append_of_head? (differs_of_mem_reverse absent) (by simp)
  rw [List.append_nil] at everything
  simp only [splitAtLast?, everything]

end Occurrence

/-! ## The order of texts -/

/-- Texts are ordered by the code points of their characters, and a beginning comes first. -/
theorem precedesOrEquals_iff {left right : Text} :
    precedesOrEquals left right = true ↔ left < right ∨ left = right := by
  induction left generalizing right with
  | nil => cases right <;> simp [precedesOrEquals]
  | cons first left induction =>
      cases right with
      | nil => simp [precedesOrEquals]
      | cons second right =>
          have smaller : first.toNat < second.toNat ↔ first < second := Iff.rfl
          rw [precedesOrEquals, Bool.or_eq_true, Bool.and_eq_true, decide_eq_true_iff,
            decide_eq_true_iff, induction, smaller, List.cons_lt_cons_iff, List.cons.injEq, or_assoc,
            and_or_left]

theorem lt_of_not_precedesOrEquals
    {left right : Text}
    (follows : ¬ precedesOrEquals left right = true) :
    right < left := by
  rw [precedesOrEquals_iff, not_or, List.not_lt] at follows
  exact Decidable.byContradiction fun unordered =>
    follows.2 (List.le_antisymm (List.not_lt.1 unordered) follows.1)

end ProcedureAudit.Text
