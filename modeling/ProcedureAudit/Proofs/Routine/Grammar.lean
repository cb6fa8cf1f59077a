import ProcedureAudit.Proofs.Routine.Scan

/-!
# The grammar of statements

Which lines form a statement can be said without a scanner, by positions of lines alone.  A body
opens at a line that declares a procedure asked for while no body is open, and it is open up to
the next line that closes a body.  A statement opens at a line of a body that begins with `SELECT`
while no statement is open, and it runs through the first line with an end mark, or else to the
end of its body.

The main theorem says that the scanner yields exactly these statements, in source order.  Its
proof relates the place of the scanner before a line to what is open there; the statements that
remain to be found at that line are the ones that the rest of the scan yields.
-/

namespace ProcedureAudit.Routine

/-! ## Positions -/

/-- The line at a position has a property; beyond the last line no property holds. -/
def At (property : Text → Prop) (lines : List Text) (position : Nat) : Prop :=
  ∃ line, lines[position]? = some line ∧ property line

/-- No line from one position up to another one, that one excluded, has a property. -/
def Free (property : Text → Prop) (lines : List Text) (first last : Nat) : Prop :=
  ∀ position, first ≤ position → position < last → ¬ At property lines position

/-- Whether the procedure of a name is asked for; without a name to ask for, every one is. -/
def AskedFor (procedure : Option Text) (name : Text) : Prop :=
  match procedure with
  | none => True
  | some [] => True
  | some asked => Text.lower name = Text.lower asked

/-- The line declares a procedure that is asked for. -/
def Declares (procedure : Option Text) (line : Text) : Prop :=
  ∃ name, declaredName? line = some name ∧ AskedFor procedure name

/-- The line closes a body: it is `END;` in any letter case, and blanks. -/
def Closes (line : Text) : Prop :=
  ∃ keyword blanks, line = keyword ++ blanks ∧ Text.fold keyword = "end;".toList ∧
    ∀ character ∈ blanks, Text.isBlank character = true

/-- The line begins with `SELECT` in any letter case, after blanks. -/
def Selects (line : Text) : Prop :=
  ∃ blanks keyword rest, line = blanks ++ keyword ++ rest ∧
    (∀ character ∈ blanks, Text.isBlank character = true) ∧ Text.fold keyword = "select".toList

/-- The line holds the end mark of a statement. -/
def Marked (line : Text) : Prop :=
  ';' ∈ line

/-! ## Bodies and statements -/

section Grammar

variable (procedure : Option Text) (lines : List Text)

/-- A body opens at a position: a declaration stands there while no body is open. -/
def BodyOpens (position : Nat) : Prop :=
  At (Declares procedure) lines position ∧
    ¬ ∃ opener, ∃ _ : opener < position,
      BodyOpens opener ∧ Free Closes lines (opener + 1) position
termination_by position

/-- A body is open before the line at a position. -/
def BodyOpen (position : Nat) : Prop :=
  ∃ opener, opener < position ∧ BodyOpens procedure lines opener ∧
    Free Closes lines (opener + 1) position

/-- A statement opens at a position: inside a body, while no statement is open. -/
def StatementOpens (position : Nat) : Prop :=
  BodyOpen procedure lines position ∧ ¬ At Closes lines position ∧
    At Selects lines position ∧
    ¬ ∃ opener, ∃ _ : opener < position,
      StatementOpens opener ∧ Free Marked lines opener position ∧
        Free Closes lines (opener + 1) position
termination_by position

/-- The statement that opens at a position is still open before the line at another position. -/
def OpenSince (opener position : Nat) : Prop :=
  opener < position ∧ StatementOpens procedure lines opener ∧
    Free Marked lines opener position ∧ Free Closes lines (opener + 1) position

/-- A run of lines: the first one, and the one after the last. -/
structure Span where
  start : Nat
  stop : Nat
deriving DecidableEq, Repr

/-- The lines of a span, without the blanks around each, joined with single spaces. -/
def Span.text (span : Span) : Text :=
  Text.joinWith [' '] (((lines.take span.stop).drop span.start).map Text.trim)

/--
A span is a statement: a line opens it, and it runs through the first line with an end mark, or
else to the end of its body, which is the line that closes it or the end of the input.
-/
structure IsStatement (span : Span) : Prop where
  opens : StatementOpens procedure lines span.start
  nonempty : span.start < span.stop
  within : span.stop ≤ lines.length
  inBody : Free Closes lines (span.start + 1) span.stop
  unmarked : Free Marked lines span.start (span.stop - 1)
  finished :
    At Marked lines (span.stop - 1) ∨ At Closes lines span.stop ∨ span.stop = lines.length

end Grammar

variable {procedure : Option Text} {lines : List Text}

/-! ## The decisions about one line -/

theorem opensBody_iff {line : Text} :
    opensBody (wantedKey procedure) line = true ↔ Declares procedure line := by
  have asked (name : Text) :
      isWanted (wantedKey procedure) name = true ↔ AskedFor procedure name := by
    rcases procedure with - | - | ⟨first, others⟩ <;>
      simp [wantedKey, AskedFor, isWanted]
  unfold opensBody Declares
  cases declaredName? line with
  | none => simp
  | some name => simp [asked]

theorem endsBody_iff {line : Text} :
    endsBody line = true ↔ Closes line := by
  unfold endsBody
  constructor
  · intro ends
    split at ends
    · rename_i rest dropped
      rcases Text.dropKeyword?_eq_some_iff.1 dropped with ⟨keyword, folded, rfl⟩
      exact ⟨keyword, rest, rfl, folded, List.all_eq_true.1 ends⟩
    · contradiction
  · rintro ⟨keyword, blanks, rfl, folded, blank⟩
    rw [Text.dropKeyword?_eq_some_iff.2 ⟨keyword, folded, rfl⟩]
    exact List.all_eq_true.2 blank

theorem opensSelect_iff {line : Text} :
    opensSelect line = true ↔ Selects line := by
  unfold opensSelect
  rw [Option.isSome_iff_exists]
  constructor
  · rintro ⟨rest, dropped⟩
    rcases Text.dropKeyword?_eq_some_iff.1 dropped with ⟨keyword, folded, split⟩
    refine ⟨line.takeWhile Text.isBlank, keyword, rest, ?_, ?_, folded⟩
    · rw [List.append_assoc, ← split, List.takeWhile_append_dropWhile]
    · intro character member
      exact List.mem_takeWhile_imp member
  · rintro ⟨blanks, keyword, rest, rfl, blank, folded⟩
    refine ⟨rest, Text.dropKeyword?_eq_some_iff.2 ⟨keyword, folded, ?_⟩⟩
    cases keyword with
    | nil => contradiction
    | cons first keyword =>
        have letter : Text.foldLetter first = 's' := (List.cons.inj folded).1
        have solid : Text.isBlank first ≠ true := by
          intro firstBlank
          rw [Text.foldLetter_of_isBlank firstBlank] at letter
          rw [letter] at firstBlank
          contradiction
        rw [List.append_assoc, List.dropWhile_append_of_pos blank, List.cons_append,
          List.dropWhile_cons_of_neg solid]

theorem endsStatement_iff {line : Text} :
    endsStatement line = true ↔ Marked line :=
  decide_eq_true_iff

/-! ## What is open before a line -/

theorem at_iff {property : Text → Prop} {position : Nat} {line : Text}
    (found : lines[position]? = some line) :
    At property lines position ↔ property line := by
  constructor
  · rintro ⟨other, same, holds⟩
    rw [found] at same
    exact Option.some.inj same ▸ holds
  · intro holds
    exact ⟨line, found, holds⟩

theorem lt_length_of_at {property : Text → Prop} {position : Nat}
    (holds : At property lines position) :
    position < lines.length := by
  rcases holds with ⟨line, found, -⟩
  exact (List.getElem?_eq_some_iff.1 found).1

theorem Free.anti {property : Text → Prop} {first later earlier last : Nat}
    (free : Free property lines first last)
    (starts : first ≤ later)
    (stops : earlier ≤ last) :
    Free property lines later earlier :=
  fun position afterStart beforeStop =>
    free position (Nat.le_trans starts afterStart) (Nat.lt_of_lt_of_le beforeStop stops)

theorem Free.empty {property : Text → Prop} {first last : Nat}
    (nothing : last ≤ first) :
    Free property lines first last :=
  fun position starts stops => by omega

theorem free_succ_iff {property : Text → Prop} {first last : Nat}
    (nonempty : first ≤ last) :
    Free property lines first (last + 1) ↔
      Free property lines first last ∧ ¬ At property lines last := by
  constructor
  · intro free
    exact ⟨free.anti (Nat.le_refl _) (Nat.le_succ _), free last nonempty (Nat.lt_succ_self _)⟩
  · rintro ⟨free, atLast⟩ position starts stops
    rcases Nat.lt_succ_iff_lt_or_eq.1 stops with before | rfl
    · exact free position starts before
    · exact atLast

/-- The recursion of the definition runs through the bodies that are open. -/
theorem bodyOpens_iff {position : Nat} :
    BodyOpens procedure lines position ↔
      At (Declares procedure) lines position ∧ ¬ BodyOpen procedure lines position := by
  rw [BodyOpens, BodyOpen]
  simp only [exists_prop]

theorem statementOpens_iff {position : Nat} :
    StatementOpens procedure lines position ↔
      BodyOpen procedure lines position ∧ ¬ At Closes lines position ∧
        At Selects lines position ∧ ∀ opener, ¬ OpenSince procedure lines opener position := by
  rw [StatementOpens]
  simp only [exists_prop, not_exists, OpenSince]

theorem not_bodyOpen_zero : ¬ BodyOpen procedure lines 0 := by
  rintro ⟨opener, before, -⟩
  omega

/-- Outside of a body only a declaration opens one. -/
theorem bodyOpen_succ_of_not {position : Nat}
    (outside : ¬ BodyOpen procedure lines position) :
    BodyOpen procedure lines (position + 1) ↔ At (Declares procedure) lines position := by
  constructor
  · rintro ⟨opener, before, opens, free⟩
    rcases Nat.lt_succ_iff_lt_or_eq.1 before with earlier | rfl
    · exact (outside ⟨opener, earlier, opens, free.anti (Nat.le_refl _) (Nat.le_succ _)⟩).elim
    · exact (bodyOpens_iff.1 opens).1
  · intro declares
    exact ⟨position, Nat.lt_succ_self _, bodyOpens_iff.2 ⟨declares, outside⟩,
      Free.empty (Nat.le_refl _)⟩

/-- An open body stays open up to a line that closes it. -/
theorem bodyOpen_succ_of_open {position : Nat}
    (inside : BodyOpen procedure lines position) :
    BodyOpen procedure lines (position + 1) ↔ ¬ At Closes lines position := by
  constructor
  · rintro ⟨opener, before, opens, free⟩
    rcases Nat.lt_succ_iff_lt_or_eq.1 before with earlier | rfl
    · exact ((free_succ_iff earlier).1 free).2
    · exact ((bodyOpens_iff.1 opens).2 inside).elim
  · intro stays
    rcases inside with ⟨opener, before, opens, free⟩
    exact ⟨opener, Nat.lt_succ_of_lt before, opens, (free_succ_iff before).2 ⟨free, stays⟩⟩

theorem OpenSince.bodyOpen {opener position : Nat}
    (since : OpenSince procedure lines opener position) :
    BodyOpen procedure lines position := by
  rcases since with ⟨before, opens, -, free⟩
  rcases statementOpens_iff.1 opens with ⟨⟨bodyOpener, earlier, bodyOpens, bodyFree⟩, stays, -⟩
  refine ⟨bodyOpener, by omega, bodyOpens, ?_⟩
  intro between starts stops
  rcases Nat.lt_trichotomy between opener with less | rfl | greater
  · exact bodyFree between starts less
  · exact stays
  · exact free between greater stops

/-- The line at a position is part of the statement that opens at `opener`. -/
def PartOf (procedure : Option Text) (lines : List Text) (opener position : Nat) : Prop :=
  (opener = position ∧ StatementOpens procedure lines position) ∨
    (OpenSince procedure lines opener position ∧ ¬ At Closes lines position)

theorem openSince_succ_iff {opener position : Nat} :
    OpenSince procedure lines opener (position + 1) ↔
      PartOf procedure lines opener position ∧ ¬ At Marked lines position := by
  constructor
  · rintro ⟨before, opens, unmarked, free⟩
    have lastUnmarked := unmarked position (Nat.lt_succ_iff.1 before) (Nat.lt_succ_self _)
    rcases Nat.lt_succ_iff_lt_or_eq.1 before with earlier | rfl
    · have parts := (free_succ_iff earlier).1 free
      exact ⟨Or.inr ⟨⟨earlier, opens, unmarked.anti (Nat.le_refl _) (Nat.le_succ _), parts.1⟩,
        parts.2⟩, lastUnmarked⟩
    · exact ⟨Or.inl ⟨rfl, opens⟩, lastUnmarked⟩
  · rintro ⟨⟨rfl, opens⟩ | ⟨⟨before, opens, unmarked, free⟩, stays⟩, lastUnmarked⟩
    · exact ⟨Nat.lt_succ_self _, opens,
        (free_succ_iff (Nat.le_refl _)).2 ⟨Free.empty (Nat.le_refl _), lastUnmarked⟩,
        Free.empty (Nat.le_refl _)⟩
    · exact ⟨Nat.lt_succ_of_lt before, opens,
        (free_succ_iff (Nat.le_of_lt before)).2 ⟨unmarked, lastUnmarked⟩,
        (free_succ_iff before).2 ⟨free, stays⟩⟩

theorem OpenSince.unique {first second position : Nat}
    (left : OpenSince procedure lines first position)
    (right : OpenSince procedure lines second position) :
    first = second := by
  -- The later of two open statements could not have opened while the earlier one was open.
  have noLater {early late : Nat}
      (outer : OpenSince procedure lines early position)
      (inner : OpenSince procedure lines late position) : ¬ early < late := by
    intro order
    rcases outer with ⟨-, outerOpens, outerUnmarked, outerFree⟩
    rcases inner with ⟨before, innerOpens, -, -⟩
    have alone := (statementOpens_iff.1 innerOpens).2.2.2 early
    exact alone ⟨order, outerOpens, outerUnmarked.anti (Nat.le_refl _) (Nat.le_of_lt before),
      outerFree.anti (Nat.le_refl _) (Nat.le_of_lt before)⟩
  have notLess := noLater left right
  have notGreater := noLater right left
  omega

theorem PartOf.unique {first second position : Nat}
    (left : PartOf procedure lines first position)
    (right : PartOf procedure lines second position) :
    first = second := by
  rcases left with ⟨rfl, opens⟩ | ⟨since, -⟩
  · rcases right with ⟨rfl, -⟩ | ⟨since, -⟩
    · rfl
    · exact ((statementOpens_iff.1 opens).2.2.2 second since).elim
  · rcases right with ⟨rfl, opens⟩ | ⟨other, -⟩
    · exact ((statementOpens_iff.1 opens).2.2.2 first since).elim
    · exact since.unique other

theorem PartOf.stays {opener position : Nat}
    (part : PartOf procedure lines opener position) :
    ¬ At Closes lines position := by
  rcases part with ⟨rfl, opens⟩ | ⟨-, stays⟩
  · exact (statementOpens_iff.1 opens).2.1
  · exact stays

theorem PartOf.bodyOpen {opener position : Nat}
    (part : PartOf procedure lines opener position) :
    BodyOpen procedure lines position := by
  rcases part with ⟨rfl, opens⟩ | ⟨since, -⟩
  · exact (statementOpens_iff.1 opens).1
  · exact since.bodyOpen

/-! ## Statements that a line finishes -/

/-- The line that opens a statement determines where it ends. -/
theorem IsStatement.unique {first second : Span}
    (left : IsStatement procedure lines first)
    (right : IsStatement procedure lines second)
    (same : first.start = second.start) :
    first = second := by
  have noLonger {short long : Span}
      (shortIs : IsStatement procedure lines short)
      (longIs : IsStatement procedure lines long)
      (start : short.start = long.start) : ¬ short.stop < long.stop := by
    intro order
    have nonempty := shortIs.nonempty
    rcases shortIs.finished with marked | closes | atEnd
    · exact longIs.unmarked (short.stop - 1) (by omega) (by omega) marked
    · exact longIs.inBody short.stop (by omega) order closes
    · have within := longIs.within
      omega
  have notLess := noLonger left right same
  have notGreater := noLonger right left same.symm
  cases first
  cases second
  simp only [Span.mk.injEq] at *
  omega

theorem PartOf.free {opener position : Nat}
    (part : PartOf procedure lines opener position) :
    StatementOpens procedure lines opener ∧ opener ≤ position ∧
      Free Marked lines opener position ∧ Free Closes lines (opener + 1) (position + 1) := by
  have stays := part.stays
  rcases part with ⟨rfl, opens⟩ | ⟨⟨before, opens, unmarked, free⟩, -⟩
  · exact ⟨opens, Nat.le_refl _, Free.empty (Nat.le_refl _), Free.empty (Nat.le_refl _)⟩
  · exact ⟨opens, Nat.le_of_lt before, unmarked, (free_succ_iff before).2 ⟨free, stays⟩⟩

/-- A line with an end mark ends its statement. -/
theorem PartOf.isStatement {opener position : Nat}
    (part : PartOf procedure lines opener position)
    (marked : At Marked lines position) :
    IsStatement procedure lines ⟨opener, position + 1⟩ := by
  rcases part.free with ⟨opens, before, unmarked, free⟩
  have within := lt_length_of_at marked
  exact
    { opens
      nonempty := Nat.lt_succ_of_le before
      within
      inBody := free
      unmarked
      finished := Or.inl marked }

/-- The end of its body ends a statement that is open. -/
theorem OpenSince.isStatement {opener position : Nat}
    (since : OpenSince procedure lines opener position)
    (within : position ≤ lines.length)
    (ending : At Closes lines position ∨ position = lines.length) :
    IsStatement procedure lines ⟨opener, position⟩ := by
  rcases since with ⟨before, opens, unmarked, free⟩
  exact
    { opens
      nonempty := before
      within
      inBody := free
      unmarked := unmarked.anti (Nat.le_refl _) (Nat.sub_le _ _)
      finished := Or.inr ending }

/-- The line at a position finishes a statement: with an end mark, or by closing the body. -/
def Finishes (procedure : Option Text) (lines : List Text) (position : Nat) (span : Span) :
    Prop :=
  IsStatement procedure lines span ∧
    (PartOf procedure lines span.start position ∧ At Marked lines position ∨
      OpenSince procedure lines span.start position ∧ At Closes lines position)

/-- A statement is still to be found at a position: it opens later, or it is open there. -/
def Remains (procedure : Option Text) (lines : List Text) (position : Nat) (span : Span) :
    Prop :=
  IsStatement procedure lines span ∧
    (position ≤ span.start ∨ OpenSince procedure lines span.start position)

/-- What remains at a line is what the line finishes, and what remains after it. -/
theorem remains_iff {position : Nat} {span : Span} :
    Remains procedure lines position span ↔
      Finishes procedure lines position span ∨ Remains procedure lines (position + 1) span := by
  constructor
  · rintro ⟨statement, later | since⟩
    · rcases Nat.lt_or_eq_of_le later with after | rfl
      · exact Or.inr ⟨statement, Or.inl after⟩
      · have part : PartOf procedure lines span.start span.start :=
          Or.inl ⟨rfl, statement.opens⟩
        by_cases marked : At Marked lines span.start
        · exact Or.inl ⟨statement, Or.inl ⟨part, marked⟩⟩
        · exact Or.inr ⟨statement, Or.inr (openSince_succ_iff.2 ⟨part, marked⟩)⟩
    · by_cases closes : At Closes lines position
      · exact Or.inl ⟨statement, Or.inr ⟨since, closes⟩⟩
      · have part : PartOf procedure lines span.start position := Or.inr ⟨since, closes⟩
        by_cases marked : At Marked lines position
        · exact Or.inl ⟨statement, Or.inl ⟨part, marked⟩⟩
        · exact Or.inr ⟨statement, Or.inr (openSince_succ_iff.2 ⟨part, marked⟩)⟩
  · have ofPart (part : PartOf procedure lines span.start position) :
        position ≤ span.start ∨ OpenSince procedure lines span.start position := by
      rcases part with ⟨start, -⟩ | ⟨since, -⟩
      · exact Or.inl (Nat.le_of_eq start.symm)
      · exact Or.inr since
    rintro (⟨statement, ⟨part, -⟩ | ⟨since, -⟩⟩ | ⟨statement, later | since⟩)
    · exact ⟨statement, ofPart part⟩
    · exact ⟨statement, Or.inr since⟩
    · exact ⟨statement, Or.inl (Nat.le_of_succ_le later)⟩
    · exact ⟨statement, ofPart (openSince_succ_iff.1 since).1⟩

/-- What a line finishes ends before everything that remains after the line. -/
theorem Finishes.stop_le {position : Nat} {first later : Span}
    (finishes : Finishes procedure lines position first)
    (remains : Remains procedure lines (position + 1) later) :
    first.stop ≤ later.start := by
  rcases finishes with ⟨statement, how⟩
  have atMost : first.stop ≤ position + 1 := by
    apply Nat.le_of_not_lt
    intro exceeds
    rcases how with ⟨part, marked⟩ | ⟨⟨before, -⟩, closes⟩
    · exact statement.unmarked position part.free.2.1 (by omega) marked
    · exact statement.inBody position before (by omega) closes
  rcases remains.2 with after | since
  · exact Nat.le_trans atMost after
  · rcases openSince_succ_iff.1 since with ⟨part, unmarked⟩
    rcases how with ⟨-, marked⟩ | ⟨-, closes⟩
    · exact (unmarked marked).elim
    · exact (part.stays closes).elim

theorem finishes_iff_of_marked {opener position : Nat} {span : Span}
    (part : PartOf procedure lines opener position)
    (marked : At Marked lines position) :
    Finishes procedure lines position span ↔ span = ⟨opener, position + 1⟩ := by
  have statement := part.isStatement marked
  constructor
  · rintro ⟨other, ⟨otherPart, -⟩ | ⟨-, closes⟩⟩
    · exact other.unique statement (otherPart.unique part)
    · exact (part.stays closes).elim
  · rintro rfl
    exact ⟨statement, Or.inl ⟨part, marked⟩⟩

theorem finishes_iff_of_closes {opener position : Nat} {span : Span}
    (since : OpenSince procedure lines opener position)
    (closes : At Closes lines position) :
    Finishes procedure lines position span ↔ span = ⟨opener, position⟩ := by
  have within := Nat.le_of_lt (lt_length_of_at closes)
  have statement := since.isStatement within (Or.inl closes)
  constructor
  · rintro ⟨other, ⟨part, -⟩ | ⟨otherSince, -⟩⟩
    · exact (part.stays closes).elim
    · exact other.unique statement (otherSince.unique since)
  · rintro rfl
    exact ⟨statement, Or.inr ⟨since, closes⟩⟩

theorem not_finishes_of_unmarked {opener position : Nat} {span : Span}
    (part : PartOf procedure lines opener position)
    (unmarked : ¬ At Marked lines position) :
    ¬ Finishes procedure lines position span := by
  rintro ⟨-, ⟨-, marked⟩ | ⟨-, closes⟩⟩
  · exact unmarked marked
  · exact part.stays closes

theorem not_finishes_of_none {position : Nat} {span : Span}
    (noneOpens : ¬ StatementOpens procedure lines position)
    (noneOpen : ∀ opener, ¬ OpenSince procedure lines opener position) :
    ¬ Finishes procedure lines position span := by
  rintro ⟨-, ⟨⟨-, opens⟩ | ⟨since, -⟩, -⟩ | ⟨since, -⟩⟩
  · exact noneOpens opens
  · exact noneOpen span.start since
  · exact noneOpen span.start since

/-! ## The scanner -/

/-- A place says what is open before a line. -/
def Describes (procedure : Option Text) (lines : List Text) (position : Nat) : Place → Prop
  | .outside => ¬ BodyOpen procedure lines position
  | .body =>
    BodyOpen procedure lines position ∧
      ∀ opener, ¬ OpenSince procedure lines opener position
  | .statement opened =>
    ∃ opener, OpenSince procedure lines opener position ∧
      opened = Span.text lines ⟨opener, position⟩

/-- The lines of a span that grows by one line. -/
theorem Span.text_succ {opener position : Nat} {line : Text}
    (before : opener < position)
    (found : lines[position]? = some line) :
    Span.text lines ⟨opener, position + 1⟩ =
      Span.text lines ⟨opener, position⟩ ++ ' ' :: Text.trim line := by
  have within := (List.getElem?_eq_some_iff.1 found).1
  have grows : (lines.take (position + 1)).drop opener =
      (lines.take position).drop opener ++ [line] := by
    rw [List.take_add_one, found, Option.toList_some, List.drop_append_of_le_length]
    rw [List.length_take]
    omega
  have nonempty : ((lines.take position).drop opener).map Text.trim ≠ [] := by
    intro empty
    have length := congrArg List.length empty
    rw [List.length_map, List.length_drop, List.length_take, List.length_nil] at length
    omega
  unfold Span.text
  rw [grows, List.map_append, List.map_singleton, Text.joinWith_concat _ nonempty,
    List.append_assoc]
  rfl

theorem Span.text_single {position : Nat} {line : Text}
    (found : lines[position]? = some line) :
    Span.text lines ⟨position, position + 1⟩ = Text.trim line := by
  have within := (List.getElem?_eq_some_iff.1 found).1
  have single : (lines.take (position + 1)).drop position = [line] := by
    rw [List.take_add_one, found, Option.toList_some, List.drop_append_of_le_length]
    · simp
    · rw [List.length_take]
      omega
  unfold Span.text
  rw [single]
  rfl

section Step

variable
    {position : Nat}
    {line : Text}
    (found : lines[position]? = some line)

include found

/-- The place after a line says what is open after it. -/
theorem describes_next {place : Place}
    (describes : Describes procedure lines position place) :
    Describes procedure lines (position + 1) (place.next (wantedKey procedure) line) := by
  have closes : At Closes lines position ↔ endsBody line = true :=
    (at_iff found).trans endsBody_iff.symm
  have marks : At Marked lines position ↔ endsStatement line = true :=
    (at_iff found).trans endsStatement_iff.symm
  cases place with
  | outside =>
      have declares : At (Declares procedure) lines position ↔
          opensBody (wantedKey procedure) line = true :=
        (at_iff found).trans opensBody_iff.symm
      have after := bodyOpen_succ_of_not describes
      by_cases opens : opensBody (wantedKey procedure) line = true
      · rw [Place.next, if_pos opens]
        refine ⟨after.2 (declares.2 opens), fun opener since => ?_⟩
        exact describes (openSince_succ_iff.1 since).1.bodyOpen
      · rw [Place.next, if_neg opens]
        exact fun inside => opens (declares.1 (after.1 inside))
  | body =>
      rcases describes with ⟨inside, noneOpen⟩
      have after := bodyOpen_succ_of_open inside
      by_cases ends : endsBody line = true
      · rw [Place.next, if_pos ends]
        exact fun stays => after.1 stays (closes.2 ends)
      · have stays : ¬ At Closes lines position := fun closing => ends (closes.1 closing)
        rw [Place.next, if_neg ends]
        split
        · rename_i both
          simp only [Bool.and_eq_true, Bool.not_eq_true'] at both
          have opens : StatementOpens procedure lines position :=
            statementOpens_iff.2
              ⟨inside, stays, (at_iff found).2 (opensSelect_iff.1 both.1), noneOpen⟩
          have unmarked : ¬ At Marked lines position := by simp [marks, both.2]
          exact ⟨position, openSince_succ_iff.2 ⟨Or.inl ⟨rfl, opens⟩, unmarked⟩,
            (Span.text_single found).symm⟩
        · rename_i notBoth
          refine ⟨after.2 stays, fun opener since => ?_⟩
          rcases openSince_succ_iff.1 since with ⟨⟨-, opens⟩ | ⟨earlier, -⟩, unmarked⟩
          · have selects : opensSelect line = true :=
              opensSelect_iff.2 ((at_iff found).1 (statementOpens_iff.1 opens).2.2.1)
            rw [marks] at unmarked
            exact notBoth (by simp [selects, unmarked])
          · exact noneOpen opener earlier
  | statement opened =>
      rcases describes with ⟨opener, since, rfl⟩
      have after := bodyOpen_succ_of_open since.bodyOpen
      by_cases ends : endsBody line = true
      · rw [Place.next, if_pos ends]
        exact fun stays => after.1 stays (closes.2 ends)
      · have stays : ¬ At Closes lines position := fun closing => ends (closes.1 closing)
        rw [Place.next, if_neg ends]
        by_cases marked : endsStatement line = true
        · rw [if_pos marked]
          exact ⟨after.2 stays, fun other late =>
            (openSince_succ_iff.1 late).2 (marks.2 marked)⟩
        · rw [if_neg marked]
          have unmarked : ¬ At Marked lines position := fun mark => marked (marks.1 mark)
          exact ⟨opener, openSince_succ_iff.2 ⟨Or.inr ⟨since, stays⟩, unmarked⟩,
            (Span.text_succ since.1 found).symm⟩

/-- A line completes exactly the statement that it finishes. -/
theorem completed_eq {place : Place}
    (describes : Describes procedure lines position place) :
    ∃ finished : Option Span,
      place.completed line = (finished.map (Span.text lines)).toList ∧
        ∀ span, finished = some span ↔ Finishes procedure lines position span := by
  have closes : At Closes lines position ↔ endsBody line = true :=
    (at_iff found).trans endsBody_iff.symm
  have marks : At Marked lines position ↔ endsStatement line = true :=
    (at_iff found).trans endsStatement_iff.symm
  cases place with
  | outside =>
      refine ⟨none, rfl, fun span => ?_⟩
      have nothing : ¬ Finishes procedure lines position span :=
        not_finishes_of_none
          (fun opens => describes (statementOpens_iff.1 opens).1)
          (fun opener since => describes since.bodyOpen)
      simp [nothing]
  | body =>
      rcases describes with ⟨inside, noneOpen⟩
      by_cases opens : StatementOpens procedure lines position
      · have part : PartOf procedure lines position position := Or.inl ⟨rfl, opens⟩
        have ends : endsBody line = false := by simpa [closes] using part.stays
        have selects : opensSelect line = true :=
          opensSelect_iff.2 ((at_iff found).1 (statementOpens_iff.1 opens).2.2.1)
        by_cases marked : endsStatement line = true
        · refine ⟨some ⟨position, position + 1⟩, ?_, fun span => ?_⟩
          · simp [Place.completed, ends, selects, marked, Span.text_single found]
          · rw [finishes_iff_of_marked part (marks.2 marked), Option.some.injEq, eq_comm]
        · refine ⟨none, by simp [Place.completed, marked], fun span => ?_⟩
          have nothing : ¬ Finishes procedure lines position span :=
            not_finishes_of_unmarked part (fun mark => marked (marks.1 mark))
          simp [nothing]
      · refine ⟨none, ?_, fun span => ?_⟩
        · have neither : endsBody line = true ∨ opensSelect line = false := by
            by_cases ends : endsBody line = true
            · exact Or.inl ends
            · right
              apply Bool.eq_false_iff.2
              intro selects
              exact opens (statementOpens_iff.2
                ⟨inside, fun closing => ends (closes.1 closing),
                  (at_iff found).2 (opensSelect_iff.1 selects), noneOpen⟩)
          rcases neither with ends | selects
          · simp [Place.completed, ends]
          · simp [Place.completed, selects]
        · simp [not_finishes_of_none opens noneOpen]
  | statement opened =>
      rcases describes with ⟨opener, since, rfl⟩
      by_cases ends : endsBody line = true
      · refine ⟨some ⟨opener, position⟩, by simp [Place.completed, ends], fun span => ?_⟩
        rw [finishes_iff_of_closes since (closes.2 ends), Option.some.injEq, eq_comm]
      · have part : PartOf procedure lines opener position :=
          Or.inr ⟨since, fun closing => ends (closes.1 closing)⟩
        by_cases marked : endsStatement line = true
        · refine ⟨some ⟨opener, position + 1⟩, ?_, fun span => ?_⟩
          · simp [Place.completed, ends, marked, Span.text_succ since.1 found]
          · rw [finishes_iff_of_marked part (marks.2 marked), Option.some.injEq, eq_comm]
        · refine ⟨none, by simp [Place.completed, ends, marked], fun span => ?_⟩
          have nothing : ¬ Finishes procedure lines position span :=
            not_finishes_of_unmarked part (fun mark => marked (marks.1 mark))
          simp [nothing]

end Step

/-- At the end of the input only a statement that is open there remains. -/
theorem unfinished_eq {place : Place}
    (describes : Describes procedure lines lines.length place) :
    ∃ finished : Option Span,
      place.unfinished = (finished.map (Span.text lines)).toList ∧
        ∀ span, finished = some span ↔ Remains procedure lines lines.length span := by
  have openAtEnd {span : Span} (remains : Remains procedure lines lines.length span) :
      OpenSince procedure lines span.start lines.length := by
    rcases remains with ⟨statement, later | since⟩
    · have nonempty := statement.nonempty
      have within := statement.within
      omega
    · exact since
  cases place with
  | outside =>
      refine ⟨none, rfl, fun span => ?_⟩
      have nothing : ¬ Remains procedure lines lines.length span :=
        fun remains => describes (openAtEnd remains).bodyOpen
      simp [nothing]
  | body =>
      refine ⟨none, rfl, fun span => ?_⟩
      have nothing : ¬ Remains procedure lines lines.length span :=
        fun remains => describes.2 span.start (openAtEnd remains)
      simp [nothing]
  | statement opened =>
      rcases describes with ⟨opener, since, rfl⟩
      have statement := since.isStatement (Nat.le_refl _) (Or.inr rfl)
      refine ⟨some ⟨opener, lines.length⟩, rfl, fun span => ?_⟩
      rw [Option.some.injEq]
      constructor
      · rintro rfl
        exact ⟨statement, Or.inr since⟩
      · intro remains
        exact statement.unique remains.1 (since.unique (openAtEnd remains))

/-- The rest of a scan yields the statements that remain, in order. -/
theorem scanLines_eq_remaining
    (rest : List Text)
    (position : Nat)
    (place : Place)
    (dropped : lines.drop position = rest)
    (within : position ≤ lines.length)
    (describes : Describes procedure lines position place) :
    ∃ spans : List Span,
      scanLines (wantedKey procedure) place rest = spans.map (Span.text lines) ∧
        (∀ span, span ∈ spans ↔ Remains procedure lines position span) ∧
        spans.Pairwise (fun first later => first.stop ≤ later.start) := by
  -- The induction is on the lines that are left; `describes` ties the place to the grammar.
  induction rest generalizing position place with
  | nil =>
      have atEnd : position = lines.length := by
        have length := congrArg List.length dropped
        rw [List.length_drop, List.length_nil] at length
        omega
      subst atEnd
      rcases unfinished_eq describes with ⟨finished, text, exactly⟩
      refine ⟨finished.toList, ?_, fun span => ?_, ?_⟩
      · rw [scanLines_nil, text]
        cases finished <;> rfl
      · rw [Option.mem_toList, ← exactly]
      · cases finished <;> simp
  | cons line rest induction =>
      have found : lines[position]? = some line := by
        have first := congrArg (·[0]?) dropped
        simpa using first
      have droppedNext : lines.drop (position + 1) = rest := by
        rw [← List.drop_drop, dropped]
        rfl
      have withinNext := (List.getElem?_eq_some_iff.1 found).1
      rcases induction (position + 1) _ droppedNext withinNext (describes_next found describes) with
        ⟨later, laterText, laterExactly, laterOrder⟩
      rcases completed_eq found describes with ⟨finished, text, exactly⟩
      refine ⟨finished.toList ++ later, ?_, fun span => ?_, ?_⟩
      · rw [scanLines_cons, text, laterText, List.map_append]
        cases finished <;> rfl
      · rw [List.mem_append, Option.mem_toList, laterExactly, exactly]
        exact remains_iff.symm
      · refine List.pairwise_append.2 ⟨by cases finished <;> simp, laterOrder, ?_⟩
        intro first firstMember next nextMember
        have finishes := (exactly first).1 (Option.mem_toList.1 firstMember)
        exact finishes.stop_le ((laterExactly next).1 nextMember)

/-- The lines of a source text, each up to its first comment delimiter. -/
def uncommentedLines (source : Text) : List Text :=
  (sourceLines source).map beforeComment

theorem codeLines_eq_uncommentedLines (source : Text) :
    codeLines source = uncommentedLines source :=
  List.map_congr_left fun _ member =>
    stripComment_eq_beforeComment (lineFeed_not_mem_of_mem_sourceLines member)

/--
The scanner yields exactly the statements of the grammar, in source order, each as the text of its
lines; no two of them share a line.  A scanner that keeps all statements in one list yields the
same, and it never has to extend the last one of an empty list.
-/
theorem scanSelects_eq_statements (source : Text) (procedure : Option Text) :
    (∃ spans : List Span,
      scanSelects source procedure = spans.map (Span.text (uncommentedLines source)) ∧
        (∀ span, span ∈ spans ↔ IsStatement procedure (uncommentedLines source) span) ∧
        spans.Pairwise (fun first later => first.stop ≤ later.start)) ∧
      ((uncommentedLines source).foldlM
          (Progress.advance? (wantedKey procedure)) Progress.start).map Progress.selects =
        some (scanSelects source procedure) := by
  rw [scanSelects, codeLines_eq_uncommentedLines]
  constructor
  · have atStart : Describes procedure (uncommentedLines source) 0 .outside := not_bodyOpen_zero
    rcases scanLines_eq_remaining
        (uncommentedLines source) 0 .outside rfl (Nat.zero_le _) atStart with
      ⟨spans, text, exactly, order⟩
    refine ⟨spans, text, fun span => ?_, order⟩
    rw [exactly]
    exact ⟨And.left, fun statement => ⟨statement, Or.inl (Nat.zero_le _)⟩⟩
  · rcases Progress.foldlM_advance? (wantedKey procedure) (uncommentedLines source) [] .outside with
      ⟨stage, run⟩
    exact congrArg (Option.map Progress.selects) run

-- The comment hides an end mark, and the end of the body cuts the statement off.
example :
    scanSelects "CREATE PROCEDURE a_1\nSELECT 1 -- ;\nFROM t\nEND;\nSELECT 2;".toList none =
      ["SELECT 1 FROM t".toList] := by
  decide +kernel

end ProcedureAudit.Routine
